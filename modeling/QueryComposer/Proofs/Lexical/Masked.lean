import Mathlib.Data.List.Forall2
import QueryComposer.Proofs.Lexical.Seams
import QueryComposer.Proofs.Text.Bytes

set_option autoImplicit false

/-!
Masked texts. A byte of a masked text is that of the text or a blank, and a masked text is masked
already: it is read like the text itself, except that comments are not seen any more.
-/

namespace QueryComposer.Lexical

open QueryComposer.Text

/-! ### Bytes -/

/-- The byte of a masked text in the place of another one. -/
def Masks (masked byte : UInt8) : Prop :=
  masked = byte ∨ masked = 0x20

theorem masks_shown (label : Char × Region) :
    List.Forall₂ Masks (utf8 (shown label)) (String.utf8EncodeChar label.1) := by
  obtain ⟨c, region⟩ := label
  by_cases visible : region = .code ∨ (region = .blockComment ∧ c = '\n')
  · rw [shown, if_pos visible, utf8, List.flatMap_singleton]
    exact List.forall₂_same.mpr (fun byte _ => .inl rfl)
  · have blanks : utf8 (shown (c, region)) = List.replicate c.utf8Size 0x20 := by
      rw [shown, if_neg visible, blanksFor, utf8, List.flatMap_replicate]
      exact List.flatten_replicate_singleton
    rw [blanks, List.forall₂_iff_get]
    refine ⟨by rw [List.length_replicate, String.length_utf8EncodeChar], fun index _ _ => ?_⟩
    exact .inr (by simp)

theorem masks_maskFrom (region : Region) (chars : List Char) :
    List.Forall₂ Masks (utf8 (maskFrom region chars)) (utf8 chars) := by
  have through (labels : List (Char × Region)) :
      List.Forall₂ Masks (utf8 (labels.flatMap shown)) (utf8 (labels.map Prod.fst)) := by
    induction labels with
    | nil => exact .nil
    | cons label labels inner =>
      rw [List.flatMap_cons, List.map_cons, utf8_cons, utf8, List.flatMap_append]
      exact List.rel_append (masks_shown label) inner
  have all := through (labelFrom region chars)
  rwa [← maskFrom_eq, labelFrom_chars] at all

theorem toList_mask (sql : String) : (mask sql).toList = maskChars sql.toList :=
  String.toList_ofList

theorem getUTF8Byte_mask (sql : String) {place : String.Pos.Raw} (inside : place < sql.rawEndPos)
    (within : place < (mask sql).rawEndPos) :
    Masks ((mask sql).getUTF8Byte place within) (sql.getUTF8Byte place inside) := by
  have bytes := masks_maskFrom .code sql.toList
  have masked := getUTF8Byte_eq (mask sql) place within
  have original := getUTF8Byte_eq sql place inside
  rw [toList_mask, maskChars] at masked
  obtain ⟨here, found⟩ := List.getElem?_eq_some_iff.mp masked.symm
  obtain ⟨there, kept⟩ := List.getElem?_eq_some_iff.mp original.symm
  have related := bytes.get here there
  rw [List.get_eq_getElem, List.get_eq_getElem, kept] at related
  exact found ▸ related

theorem utf8ByteSize_mask (sql : String) : (mask sql).utf8ByteSize = sql.utf8ByteSize := by
  rw [mask, utf8ByteSize_ofList, maskChars, byteLength_maskFrom, utf8ByteSize_eq]

/-! ### Masked texts are masked already -/

/-- What the start of a masked text belongs to, given what that of the text does: a comment is not
seen any more. -/
def unmarked : Region → Region
  | .code => .code
  | .literal => .literal
  | .identifier => .identifier
  | .lineComment => .code
  | .blockComment => .code

theorem maskFrom_blank (region : Region) (rest : List Char) :
    maskFrom (unmarked region) (' ' :: rest) = ' ' :: maskFrom (unmarked region) rest := by
  rw [maskFrom_single (fun next _ => mark?_plain_left (by decide) _ next)]
  cases region <;> rfl

theorem maskFrom_blanks (region : Region) (count : Nat) (rest : List Char) :
    maskFrom (unmarked region) (List.replicate count ' ' ++ rest) =
      List.replicate count ' ' ++ maskFrom (unmarked region) rest := by
  induction count with
  | zero => rfl
  | succ count inner =>
    rw [List.replicate_succ, List.cons_append, maskFrom_blank, inner, List.cons_append]

theorem shown_mark {region within after : Region} {first second : Char}
    (mark : mark? region first second = some (within, after)) :
    shown (first, within) ++ shown (second, within) = List.replicate 2 ' ' ∧
      unmarked after = unmarked region := by
  cases region <;> simp only [mark?] at mark
  case code =>
    split at mark
    · next dashes =>
      obtain ⟨rfl, rfl⟩ := dashes
      cases mark
      decide
    · split at mark
      · next opening =>
        obtain ⟨rfl, rfl⟩ := opening
        cases mark
        decide
      · cases mark
  case lineComment => cases mark
  all_goals
    split at mark
    · next both =>
      obtain ⟨rfl, rfl⟩ := both
      cases mark
      decide
    · cases mark

/-- A character that stands by itself is shown in the place where it is read in the masked text, or
as blanks that change nothing there. -/
theorem single_cases (region : Region) (c : Char) :
    (shown (c, (single region c).1) = [c] ∧
        shown (c, (single (unmarked region) c).1) = [c] ∧
        (single (unmarked region) c).2 = unmarked (single region c).2 ∧
        (unmarked region = region ∨ c = '\n')) ∨
      (shown (c, (single region c).1) = blanksFor c ∧
        unmarked (single region c).2 = unmarked region) := by
  cases region
  case code => by_cases c = '\'' <;> by_cases c = '"' <;> simp_all [single, shown, unmarked]
  case literal => by_cases c = '\'' <;> simp_all [single, shown, unmarked]
  case identifier => by_cases c = '"' <;> simp_all [single, shown, unmarked]
  case lineComment => by_cases c = '\n' <;> simp_all [single, shown, unmarked]
  case blockComment => by_cases c = '\n' <;> simp_all [single, shown, unmarked]

/-- A masked text is read like the text: marks are gone, and what stood by itself still does. -/
theorem maskFrom_maskFrom (region : Region) (chars : List Char) :
    maskFrom (unmarked region) (maskFrom region chars) = maskFrom region chars := by
  induction region, chars using reading_induction with
  | nil region => cases region <;> rfl
  | mark region first second rest within after mark inner =>
    obtain ⟨blanks, same⟩ := shown_mark mark
    rw [maskFrom_mark mark, blanks, maskFrom_blanks, ← same, inner]
  | alone region c rest alone inner =>
    rw [maskFrom_single alone]
    rcases single_cases region c with ⟨shown, again, after, known⟩ | ⟨blanks, after⟩
    · -- the next character of the masked text is that of the text or a blank, so no mark appears
      have apart : ∀ next ∈ (maskFrom (single region c).2 rest).head?,
          mark? (unmarked region) c next = none := by
        intro next head
        rcases known with same | rfl
        · rw [same]
          rcases head?_maskFrom (single region c).2 rest with kept | blank
          · exact alone next (kept ▸ head)
          · rw [blank] at head
            cases head
            exact mark?_plain_right (by decide) region c
        · exact mark?_plain_left (by decide) _ next
      rw [shown, List.singleton_append, maskFrom_single apart, again, after, inner]
      rfl
    · rw [blanks, blanksFor, maskFrom_blanks, ← after, inner]

theorem maskChars_maskChars (chars : List Char) : maskChars (maskChars chars) = maskChars chars :=
  maskFrom_maskFrom .code chars

theorem mask_mask (sql : String) : mask (mask sql) = mask sql := by
  rw [mask, toList_mask, maskChars_maskChars, ← mask]

end QueryComposer.Lexical
