import Mathlib.Data.List.Pairwise
import QueryComposer.Proofs.Placeholder.Cut
import QueryComposer.Proofs.Text.Bytes
import QueryComposer.Sql.Search

set_option autoImplicit false

/-!
The two passes of the search find what one scan finds: the first pass the placeholders with names,
the second one the question marks, and the places put both in the order of the scan.
-/

namespace QueryComposer.Placeholder

open QueryComposer.Lexical QueryComposer.Text

/-- The placeholder has a name of its own. -/
def isNamed (placeholder : Placeholder) : Bool :=
  placeholder.kind = .named

theorem begins_cases (previous : Option Char) (c : Char) (next : Option Char) :
    (c = ':' ∧ beginsName previous next = true) ∨ (c = '?' ∧ blocksQuestion next = false) ∨
      beginsAt previous c next = false := by
  by_cases begins : beginsAt previous c next = true
  · simp only [beginsAt, Bool.or_eq_true, Bool.and_eq_true, decide_eq_true_eq,
      Bool.not_eq_true'] at begins
    exact begins.imp_right .inl
  · exact .inr (.inr (Bool.eq_false_iff.mpr begins))

/-! ### The pass for names -/

theorem colonsFrom_pass {c : Char} {rest : List Char}
    (passed : (c = ':' && rest.head?.any Literal.startsName) = false) (offset : Nat) :
    colonsFrom offset 0 (c :: rest) = colonsFrom (offset + c.utf8Size) 0 rest := by
  rw [colonsFrom]
  simp [passed]

/-- Nothing is missed where the characters of a name are passed over. -/
theorem colonsFrom_passing {passing : Nat} {chars : List Char}
    (inside : (chars.take passing).all Literal.continuesName = true) (offset : Nat) :
    colonsFrom offset passing chars = colonsFrom offset 0 chars := by
  induction chars generalizing passing offset with
  | nil => cases passing <;> rfl
  | cons c rest inner =>
    cases passing with
    | zero => rfl
    | succ passing =>
      rw [List.take_succ_cons, List.all_cons, Bool.and_eq_true] at inside
      have colon : c ≠ ':' := (continuesName_plain inside.1).2.1
      rw [colonsFrom, inner inside.2, colonsFrom_pass (by simp [colon])]

theorem colonsFrom_colon {rest : List Char} (starts : rest.head?.any Literal.startsName = true)
    (offset : Nat) :
    colonsFrom offset 0 (':' :: rest) =
      namedAt offset (rest.takeWhile Literal.continuesName) :: colonsFrom (offset + 1) 0 rest := by
  have inside : (rest.take (rest.takeWhile Literal.continuesName).length).all
      Literal.continuesName = true := by
    rw [← List.prefix_iff_eq_take.mp (List.takeWhile_prefix _)]
    exact List.all_takeWhile
  rw [colonsFrom]
  simp only [starts, decide_true, Bool.and_self, if_true]
  rw [colonsFrom_passing inside]
  rfl

theorem previousIn_append (front rest : List Char) {placeholder : Placeholder}
    (starts : placeholder.start = byteLength front) :
    previousIn (front ++ rest) placeholder = front.getLast? := by
  rw [previousIn, starts, splitBytes_append]

theorem filter_colonsFrom (front rest : List Char) (questions : Nat) :
    (colonsFrom (byteLength front) 0 rest).filter
        (fun placeholder => !blocksName (previousIn (front ++ rest) placeholder)) =
      (scanFrom (byteLength front) front.getLast? questions rest).filter isNamed := by
  induction rest generalizing front questions with
  | nil => rfl
  | cons c rest inner =>
    have whole : front ++ c :: rest = front ++ [c] ++ rest := by simp
    have onward (questions : Nat) := inner (front ++ [c]) questions
    rw [← whole, byteLength_append, List.getLast?_concat] at onward
    by_cases named : c = ':' ∧ rest.head?.any Literal.startsName = true
    · obtain ⟨rfl, starts⟩ := named
      have before : previousIn (front ++ ':' :: rest)
          (namedAt (byteLength front) (rest.takeWhile Literal.continuesName)) = front.getLast? :=
        previousIn_append front (':' :: rest) rfl
      rw [colonsFrom_colon starts, List.filter_cons, before]
      -- the character before the colon decides whether the name counts
      by_cases begins : beginsName front.getLast? rest.head? = true
      · have free : blocksName front.getLast? = false := by simp_all [beginsName]
        rw [scanFrom_colon begins, List.filter_cons, if_pos (by simp [free]),
          if_pos (show isNamed _ = true from rfl)]
        exact congrArg _ (onward questions)
      · have blocked : blocksName front.getLast? = true := by simp_all [beginsName]
        rw [scanFrom_pass (by simp [beginsAt, Bool.eq_false_iff.mpr begins]),
          if_neg (by simp [blocked])]
        exact onward questions
    · have passed : (c = ':' && rest.head?.any Literal.startsName) = false := by
        simpa using named
      rw [colonsFrom_pass passed]
      rcases begins_cases front.getLast? c rest.head? with ⟨rfl, begins⟩ | ⟨rfl, free⟩ | silent
      · simp_all [beginsName]
      · rw [scanFrom_question free, List.filter_cons, if_neg (by simp [isNamed, positionalAt])]
        exact onward (questions + 1)
      · rw [scanFrom_pass silent]
        exact onward questions

/-! ### The pass for question marks -/

theorem questionsFrom_pass {bytes : List UInt8} (large : ∀ byte ∈ bytes, 128 ≤ byte.toNat)
    (index questions : Nat) (rest : List UInt8) :
    questionsFrom index questions (bytes ++ rest) =
      questionsFrom (index + bytes.length) questions rest := by
  induction bytes generalizing index with
  | nil => rfl
  | cons byte bytes inner =>
    have other : byte ≠ 0x3F := by
      rintro rfl
      exact absurd (large 0x3F List.mem_cons_self) (by decide)
    rw [List.cons_append, questionsFrom, if_neg (by simp [other]),
      inner (fun byte listed => large byte (List.mem_cons_of_mem _ listed)), List.length_cons]
    congr 1
    omega

theorem ofNat_toNat_eq_iff {c d : Char} (small : c.toNat < 128) (other : d.toNat < 128) :
    UInt8.ofNat c.toNat = UInt8.ofNat d.toNat ↔ c = d := by
  rw [← UInt8.toNat_inj, UInt8.toNat_ofNat', UInt8.toNat_ofNat', ← Char.toNat_inj]
  omega

theorem blocksQuestionByte_utf8 (chars : List Char) :
    blocksQuestionByte (utf8 chars).head? = blocksQuestion chars.head? := by
  cases chars with
  | nil => rfl
  | cons c rest =>
    rw [utf8_cons, List.head?_cons]
    rcases utf8EncodeChar_cases c with ⟨small, single⟩ | ⟨large, bytes⟩
    · have bar := ofNat_toNat_eq_iff (d := '|') small (by decide)
      have ampersand := ofNat_toNat_eq_iff (d := '&') small (by decide)
      rw [single]
      simp only [blocksQuestionByte, blocksQuestion, List.singleton_append, List.head?_cons,
        Option.any_some]
      congr 1 <;> exact decide_eq_decide.mpr ‹_›
    · have bar : c ≠ '|' := by
        rintro rfl
        exact absurd large (by decide)
      have ampersand : c ≠ '&' := by
        rintro rfl
        exact absurd large (by decide)
      cases encoded : String.utf8EncodeChar c with
      | nil => exact absurd encoded String.utf8EncodeChar_ne_nil
      | cons byte more =>
        have high := bytes byte (by rw [encoded]; exact List.mem_cons_self)
        have away (mark : UInt8) (low : mark.toNat < 128) : byte ≠ mark := by
          rintro rfl
          omega
        simp [blocksQuestionByte, blocksQuestion, bar, ampersand, away 0x7C (by decide),
          away 0x26 (by decide)]

/-- The bytes of another character only move the place on. -/
theorem questionsFrom_other {c : Char} (other : c ≠ '?') (offset questions : Nat)
    (rest : List Char) :
    questionsFrom offset questions (utf8 (c :: rest)) =
      questionsFrom (offset + c.utf8Size) questions (utf8 rest) := by
  rw [utf8_cons, ← String.length_utf8EncodeChar c]
  rcases utf8EncodeChar_cases c with ⟨small, single⟩ | ⟨large, bytes⟩
  · have differs : UInt8.ofNat c.toNat ≠ 0x3F :=
      fun same => other ((ofNat_toNat_eq_iff (d := '?') small (by decide)).mp same)
    rw [single, List.singleton_append, questionsFrom, if_neg (by simp [differs])]
    rfl
  · exact questionsFrom_pass bytes offset questions (utf8 rest)

theorem questionsFrom_mark (offset questions : Nat) (rest : List Char) :
    questionsFrom offset questions (utf8 ('?' :: rest)) =
      if blocksQuestion rest.head? then questionsFrom (offset + 1) questions (utf8 rest)
      else positionalAt offset (questions + 1) ::
        questionsFrom (offset + 1) (questions + 1) (utf8 rest) := by
  rw [← blocksQuestionByte_utf8]
  show questionsFrom offset questions (0x3F :: utf8 rest) = _
  rw [questionsFrom]
  cases blocksQuestionByte (utf8 rest).head? <;> rfl

theorem filter_questionsFrom (offset : Nat) (previous : Option Char) (questions : Nat)
    (chars : List Char) :
    questionsFrom offset questions (utf8 chars) =
      (scanFrom offset previous questions chars).filter (fun found => !isNamed found) := by
  induction chars generalizing offset previous questions with
  | nil => rfl
  | cons c rest inner =>
    rcases begins_cases previous c rest.head? with ⟨rfl, begins⟩ | ⟨rfl, free⟩ | silent
    · rw [questionsFrom_other (by decide), scanFrom_colon begins, List.filter_cons,
        if_neg (by simp [isNamed, namedAt])]
      exact inner _ _ _
    · rw [questionsFrom_mark, if_neg (by simp [free]), scanFrom_question free, List.filter_cons,
        if_pos (by simp [isNamed, positionalAt]), inner]
    · rw [scanFrom_pass silent]
      by_cases question : c = '?'
      · subst question
        have blocked : blocksQuestion rest.head? = true := by simpa [beginsAt] using silent
        rw [questionsFrom_mark, if_pos blocked]
        exact inner _ _ _
      · rw [questionsFrom_other question]
        exact inner _ _ _

/-! ### Both passes together -/

theorem byteLength_token_pos (placeholder : Placeholder) : 0 < byteLength placeholder.token := by
  unfold token
  split
  · exact Nat.add_pos_left (Char.utf8Size_pos ':') _
  · decide

/-- Placeholders that cut a text stand one behind the other. -/
theorem Slices.ordered {offset : Nat} {previous : Option Char} {chars : List Char}
    {placeholders : List Placeholder} (sliced : Slices offset previous chars placeholders) :
    (∀ placeholder ∈ placeholders,
        offset ≤ placeholder.start ∧ placeholder.start < placeholder.stop) ∧
      placeholders.Pairwise (fun first second => first.stop ≤ second.start) := by
  induction sliced with
  | last quiet => simp
  | @next offset previous gap rest placeholder others quiet code plain starts stops further inner =>
    have wide := byteLength_token_pos placeholder
    obtain ⟨bounds, ordered⟩ := inner
    refine ⟨?_, List.pairwise_cons.mpr ⟨fun other listed => (bounds other listed).1, ordered⟩⟩
    intro other listed
    rcases List.mem_cons.mp listed with rfl | later
    · omega
    · have := bounds other later
      omega

/-- Placeholders one behind the other are in the order of their places, however they are taken apart
before. -/
theorem mergeSort_filter {placeholders : List Placeholder}
    (wide : ∀ placeholder ∈ placeholders, placeholder.start < placeholder.stop)
    (ordered : placeholders.Pairwise (fun first second => first.stop ≤ second.start))
    (test : Placeholder → Bool) :
    (placeholders.filter test ++ placeholders.filter (fun found => !test found)).mergeSort
      (fun first second => first.start ≤ second.start) = placeholders := by
  have increasing : placeholders.Pairwise (fun first second => first.start < second.start) :=
    List.Pairwise.imp_of_mem
      (fun first _ before => Nat.lt_of_lt_of_le (wide _ first) before) ordered
  have alone : ∀ first ∈ placeholders, ∀ second ∈ placeholders,
      first.start = second.start → first = second := by
    have : Std.Symm (fun first second : Placeholder =>
        first.start = second.start → first = second) :=
      ⟨fun _ _ single same => (single same.symm).symm⟩
    exact List.Pairwise.forall_of_forall (fun _ _ _ => rfl)
      (increasing.imp (fun before same => absurd same (Nat.ne_of_lt before)))
  have permuted := (List.mergeSort_perm _ (fun (first second : Placeholder) =>
    decide (first.start ≤ second.start))).trans (List.filter_append_perm test placeholders)
  have sorted := @List.pairwise_mergeSort _ (fun (first second : Placeholder) =>
      decide (first.start ≤ second.start))
    (fun first second third one other => by simp_all; omega)
    (fun first second => by simp; omega)
    (placeholders.filter test ++ placeholders.filter (fun found => !test found))
  refine List.Perm.eq_of_pairwise ?_ (sorted.imp (fun before => of_decide_eq_true before))
    (increasing.imp Nat.le_of_lt) permuted
  intro first second one other below above
  exact alone first (permuted.mem_iff.mp one) second other (Nat.le_antisymm below above)

/-- Two passes find what one scan finds. -/
theorem search_eq_scan (sql : String) : search sql = scan sql := by
  obtain ⟨wide, ordered⟩ := (slices_scan sql).ordered
  have named : colons (maskChars sql.toList) = (scan sql).filter isNamed :=
    filter_colonsFrom [] (maskChars sql.toList) 0
  have questions : questionsFrom 0 0 (utf8 (maskChars sql.toList)) =
      (scan sql).filter (fun found => !isNamed found) :=
    filter_questionsFrom 0 none 0 (maskChars sql.toList)
  rw [search, searchMasked, named, questions]
  exact mergeSort_filter (fun placeholder listed => (wide placeholder listed).2) ordered isNamed

end QueryComposer.Placeholder
