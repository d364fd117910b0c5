import QueryComposer.Proofs.Literal.SelfContained
import QueryComposer.Proofs.Placeholder.Cut

set_option autoImplicit false

/-!
Pieces of a text with self-contained texts between them. The pieces are read as before exactly when
no character at the end of a piece forms a mark with what comes to stand next to it, and no
placeholder is left exactly when no colon at the end of a piece comes to begin a name.
-/

namespace QueryComposer.Placeholder

open QueryComposer.Lexical QueryComposer.Literal QueryComposer.Text

/-! ### Marks across seams -/

/-- No mark forms at the ends of what is inserted between two pieces, nor between the pieces
themselves when nothing is. -/
def fits (piece inserted after : List Char) : Bool :=
  !meets (maskChars piece).getLast? (inserted ++ after).head? &&
    !meets (maskChars inserted).getLast? after.head?

/-- The same at every seam. Texts without anything between them are inserted as one; `piece` is the
last piece that was not empty, and `inserted` stands between it and `gap`. -/
def seamless (piece inserted gap : List Char) : List (List Char × List Char) → Bool
  | [] => fits piece inserted gap
  | (text, after) :: entries =>
    if gap.isEmpty then seamless piece (inserted ++ text) after entries
    else fits piece inserted gap && seamless gap text after entries

theorem covered_fits {piece inserted after : List Char} (code : regionAfter .code piece = .code)
    (contained : selfContained false inserted = true)
    (fit : fits piece inserted after = true) :
    covered (piece ++ (inserted ++ after)) =
      covered piece ++ covered inserted ++ covered after := by
  have settled : Settled .code inserted := settled_of_selfContained contained
  rw [fits, Bool.and_eq_true, Bool.not_eq_true', Bool.not_eq_true'] at fit
  rw [covered_append code fit.1, covered_append settled.code fit.2, List.append_assoc]

theorem byteLength_of_labels {chars : List Char} {labels : List (Char × Region)} {c : Char}
    {region : Region} (read : labelFrom .code chars = labels ++ [(c, region)]) :
    byteLength chars = (coverage labels).length + c.utf8Size := by
  rw [← length_covered, covered, read, coverage_append, coverage_cons, List.length_append,
    List.length_append, List.length_replicate]
  rfl

/-- A mark across a seam on the left changes the piece. -/
theorem take_covered_meets {piece : List Char} {next : Char} (rest : List Char)
    (code : regionAfter .code piece = .code)
    (met : meets (maskChars piece).getLast? (some next) = true) :
    (covered (piece ++ next :: rest)).take (byteLength piece) ≠ covered piece := by
  obtain ⟨labels, c, within, after, inside, before, whole⟩ := labelFrom_append_meets rest code met
  have size := byteLength_of_labels before
  intro same
  rw [size, covered, whole, covered, before, coverage_append, coverage_append,
    List.take_length_add_append] at same
  have last := List.append_cancel_left same
  obtain ⟨count, more⟩ := Nat.exists_eq_add_one_of_ne_zero (Nat.ne_of_gt c.utf8Size_pos)
  rw [coverage_cons, List.take_left' List.length_replicate, decide_eq_true inside, coverage_cons,
    more, List.replicate_succ, List.replicate_succ] at last
  exact absurd (List.cons.inj last).1 (by simp)

/-- A quote after an inserted text is read as doubled. -/
theorem drop_covered_meets {inserted : List Char} {next : Char} (rest : List Char)
    (code : regionAfter .code inserted = .code)
    (met : meets (maskChars inserted).getLast? (some next) = true) :
    ∃ items, (covered (inserted ++ next :: rest)).drop (byteLength inserted) = true :: items := by
  obtain ⟨labels, c, within, after, inside, before, whole⟩ := labelFrom_append_meets rest code met
  have size := byteLength_of_labels before
  obtain ⟨count, more⟩ := Nat.exists_eq_add_one_of_ne_zero (Nat.ne_of_gt next.utf8Size_pos)
  rw [size, covered, whole, coverage_append, List.drop_length_add_append, coverage_cons,
    coverage_cons, List.drop_left' List.length_replicate, decide_eq_true inside, more,
    List.replicate_succ]
  exact ⟨_, rfl⟩

theorem outside_eq_append {piece tail : List Char} {taken : Nat} {spans : List (Nat × Nat)}
    {rest : List Bool}
    (same : outside ((byteLength piece, taken) :: spans) (covered (piece ++ tail)) =
      covered piece ++ rest) :
    (covered (piece ++ tail)).take (byteLength piece) = covered piece ∧
      outside spans ((covered (piece ++ tail)).drop (byteLength piece + taken)) = rest := by
  refine List.append_inj same ?_
  rw [List.length_take, length_covered, length_covered, byteLength_append]
  omega

theorem eq_quote_of_meets {inserted : List Char} {next : Char}
    (contained : selfContained false inserted = true)
    (met : meets (maskChars inserted).getLast? (some next) = true) : next = '\'' := by
  have settled : Settled .code inserted := settled_of_selfContained contained
  have shown : (maskChars inserted).getLast? = inserted.getLast? := settled.ends
  rw [shown] at met
  cases ends : inserted.getLast? with
  | none => simp [ends, meets] at met
  | some last =>
    obtain ⟨minus, slash, double⟩ := settled.last last ends
    have both : last = '\'' ∧ next = '\'' := by
      simpa [ends, meets, joined, minus, slash, double] using met
    exact both.2

/-- A seam that does not fit changes what a kept byte belongs to. -/
theorem outside_unfit {piece inserted after : List Char} {spans : List (Nat × Nat)}
    {rest : List Bool} (code : regionAfter .code piece = .code)
    (contained : selfContained false inserted = true)
    (unfit : fits piece inserted after = false)
    (first : ∀ quoted, after = '\'' :: quoted → rest.head? = some false ∧
      ∀ items, (outside spans (true :: items)).head? = some true) :
    outside ((byteLength piece, byteLength inserted) :: spans)
      (covered (piece ++ (inserted ++ after))) ≠ covered piece ++ rest := by
  intro same
  obtain ⟨before, behind⟩ := outside_eq_append same
  by_cases left : meets (maskChars piece).getLast? (inserted ++ after).head? = true
  · cases tail : inserted ++ after with
    | nil => simp [tail, meets] at left
    | cons next tail =>
      rw [tail] at left before
      exact take_covered_meets _ code left before
  · rw [Bool.not_eq_true] at left
    have settled : Settled .code inserted := settled_of_selfContained contained
    have right : meets (maskChars inserted).getLast? after.head? = true := by
      rw [fits, left] at unfit
      simpa using unfit
    cases after with
    | nil =>
      rw [List.head?_nil] at right
      cases ends : (maskChars inserted).getLast? <;> simp [ends, meets] at right
    | cons next tail =>
      cases eq_quote_of_meets contained right
      obtain ⟨items, later⟩ := drop_covered_meets tail settled.code right
      obtain ⟨kept, changed⟩ := first tail rfl
      rw [covered_append code left, ← length_covered piece, List.drop_length_add_append, later]
        at behind
      rw [← behind, changed items] at kept
      cases kept

/-! ### The whole text -/

theorem outside_merge {α : Type} (before first second : Nat) (spans : List (Nat × Nat))
    (items : List α) :
    outside ((before, first) :: (0, second) :: spans) items =
      outside ((before, first + second) :: spans) items := by
  simp only [outside, List.take_zero, List.nil_append, List.drop_drop, Nat.zero_add, Nat.add_assoc]

theorem spliced_cons (text after : List Char) (entries : List (List Char × List Char)) :
    spliced ((text, after) :: entries) = text ++ (after ++ spliced entries) := by
  rw [spliced, List.flatMap_cons, List.append_assoc]
  rfl

theorem head?_covered_quote (rest : List Char) : (covered ('\'' :: rest)).head? = some false := by
  rw [covered, labelFrom_single (fun next _ => rfl), coverage_cons]
  rfl

theorem head?_outside {gap : List Char} {entries : List (List Char × List Char)}
    (nonempty : gap ≠ []) (flag : Bool) (items : List Bool) :
    (outside (textSpans gap entries) (flag :: items)).head? = some flag := by
  cases entries with
  | nil => rfl
  | cons entry entries =>
    cases gap with
    | nil => exact absurd rfl nonempty
    | cons c gap =>
      obtain ⟨count, more⟩ := Nat.exists_eq_add_one_of_ne_zero (Nat.ne_of_gt c.utf8Size_pos)
      have wide : byteLength (c :: gap) = count + byteLength gap + 1 := by
        rw [byteLength, more]
        omega
      rw [textSpans, outside, wide, List.take_succ_cons]
      rfl

/-- The pieces are read as before exactly when every seam fits. -/
theorem outside_covered_iff {gap : List Char} {entries : List (List Char × List Char)}
    (pieces : Pieces gap entries)
    (contained : ∀ entry ∈ entries, selfContained false entry.1 = true)
    {piece inserted : List Char} (code : regionAfter .code piece = .code)
    (waiting : selfContained false inserted = true) :
    outside ((byteLength piece, byteLength inserted) :: textSpans gap entries)
        (covered (piece ++ (inserted ++ (gap ++ spliced entries)))) =
          covered piece ++ coveredPieces gap entries ↔
      seamless piece inserted gap entries = true := by
  induction pieces generalizing piece inserted with
  | @last gap quiet =>
    rw [seamless, spliced, List.flatMap_nil, List.append_nil]
    cases fit : fits piece inserted gap with
    | true =>
      rw [covered_fits code waiting fit, ← length_covered piece, ← length_covered inserted,
        outside_cons]
      simp [textSpans, outside, coveredPieces]
    | false =>
      refine iff_of_false (outside_unfit code waiting fit ?_) Bool.false_ne_true
      rintro quoted rfl
      refine ⟨?_, fun items => rfl⟩
      rw [coveredPieces, List.flatMap_nil, List.append_nil, head?_covered_quote]
  | @next gap text after entries quiet closed further inner =>
    have own : selfContained false text = true := contained (text, after) List.mem_cons_self
    have others : ∀ entry ∈ entries, selfContained false entry.1 = true :=
      fun entry mem => contained entry (List.mem_cons_of_mem _ mem)
    rw [seamless, spliced_cons]
    cases gap with
    | nil =>
      -- Nothing stands between the two texts, so they are inserted as one.
      have together := inner others code (selfContained_append waiting own)
      rw [byteLength_append, List.append_assoc] at together
      rw [textSpans, byteLength, outside_merge, if_pos (by rfl)]
      exact together
    | cons c gap =>
      rw [if_neg (by simp)]
      have nonempty : c :: gap ≠ [] := by simp
      have same : fits piece inserted (c :: gap ++ (text ++ (after ++ spliced entries))) =
          fits piece inserted (c :: gap) := by simp [fits]
      cases fit : fits piece inserted (c :: gap) with
      | true =>
        rw [← same] at fit
        have next := inner others closed own
        rw [covered_fits code waiting fit, ← length_covered piece, ← length_covered inserted,
          outside_cons, List.append_cancel_left_eq, Bool.true_and, ← next]
        rfl
      | false =>
        rw [← same] at fit
        refine iff_of_false (outside_unfit code waiting fit ?_) (by simp)
        intro quoted start
        cases start
        exact ⟨by simp [coveredPieces, head?_covered_quote], head?_outside nonempty true⟩

theorem outside_covered_all_iff {gap : List Char} {entries : List (List Char × List Char)}
    (pieces : Pieces gap entries)
    (contained : ∀ entry ∈ entries, selfContained false entry.1 = true) :
    outside (textSpans gap entries) (covered (gap ++ spliced entries)) =
        coveredPieces gap entries ↔
      seamless [] [] gap entries = true :=
  @outside_covered_iff gap entries pieces contained [] [] rfl rfl

/-! ### Colons at seams -/

/-- A colon at an end of a masked piece begins a name between these characters. -/
def exposes (previous : Option Char) (masked : List Char) (next : Option Char) : Bool :=
  (masked.head? = some ':' && beginsName previous (masked.tail.head?.or next)) ||
    (masked.getLast? = some ':' && beginsName (masked.dropLast.getLast?.or previous) next)

/-- No piece exposes a colon between what comes to stand before and after it. -/
def unexposed (previous : Option Char) (gap : List Char) :
    List (List Char × List Char) → Bool
  | [] => !exposes previous (maskChars gap) none
  | (text, after) :: entries =>
    !exposes previous (maskChars gap) (text ++ (after ++ spliced entries)).head? &&
      unexposed (text.getLast?.or ((maskChars gap).getLast?.or previous)) after entries

/-- A quiet piece holds a placeholder only where it exposes a colon. -/
theorem silent_of_quiet {gap : List Char} (quiet : Quiet gap) (previous next : Option Char) :
    silent previous (maskChars gap) next = !exposes previous (maskChars gap) next := by
  obtain ⟨earlier, later, free, quiet⟩ := quiet
  cases masked : maskChars gap with
  | nil => rfl
  | cons c rest =>
    rw [masked] at quiet
    cases rest with
    | nil =>
      have question : c ≠ '?' := by
        rintro rfl
        simp [silent, beginsAt, free] at quiet
      simp [silent, beginsAt, question, exposes]
    | cons d rest =>
      rw [silent, Bool.and_eq_true, Bool.not_eq_true'] at quiet
      have first : beginsAt previous c (some d) =
          (decide (c = ':') && beginsName previous (some d)) := beginsAt_previous quiet.1
      have parted : silent previous (c :: d :: rest) next =
          (!beginsAt previous c (some d) && silent (some c) (d :: rest) next) := rfl
      rw [parted, first, silent_next free quiet.2, exposes, List.getLast?_cons_cons,
        List.dropLast_cons_cons, getLast?_cons_or, Bool.not_or]
      simp

theorem any_head?_maskChars (chars : List Char) :
    (maskChars chars).head?.any startsName = chars.head?.any startsName := by
  cases chars with
  | nil => rfl
  | cons c rest =>
    by_cases starts : startsName c = true
    · have plain : [c].all isPlain = true := by
        have continues : continuesName c = true := by simp [continuesName, starts]
        simpa using (continuesName_plain continues).1
      rw [← List.singleton_append, maskChars_plain plain]
      rfl
    · rcases head?_maskChars (c :: rest) with same | blank
      · rw [same]
      · rw [blank, List.head?_cons, Option.any_some, Option.any_some,
          Bool.eq_false_iff.mpr starts]
        decide

theorem meets_of_seamless {piece inserted gap : List Char}
    {entries : List (List Char × List Char)}
    (fit : seamless piece inserted gap entries = true) :
    meets (maskChars piece).getLast? (inserted ++ (gap ++ spliced entries)).head? = false := by
  induction entries generalizing inserted gap with
  | nil =>
    rw [seamless, fits, Bool.and_eq_true, Bool.not_eq_true'] at fit
    simpa [spliced] using fit.1
  | cons entry entries inner =>
    obtain ⟨text, after⟩ := entry
    rw [seamless] at fit
    rw [spliced_cons]
    cases gap with
    | nil =>
      rw [if_pos (by rfl)] at fit
      have together := inner fit
      rwa [List.append_assoc] at together
    | cons c gap =>
      rw [if_neg (by simp), Bool.and_eq_true, fits, Bool.and_eq_true, Bool.not_eq_true'] at fit
      simpa using fit.1.1

theorem silent_inserted {inserted tail : List Char}
    (contained : selfContained false inserted = true)
    (free : meets (maskChars inserted).getLast? tail.head? = false) (previous : Option Char) :
    silent previous (maskChars (inserted ++ tail)) none =
      silent (inserted.getLast?.or previous) (maskChars tail) none := by
  have settled : Settled .code inserted := settled_of_selfContained contained
  have shown : (maskChars inserted).getLast? = inserted.getLast? := settled.ends
  have nothing (next : Option Char) : silent previous (maskChars inserted) next = true :=
    silent_of_missing settled.shows previous next
  rw [maskChars_append settled.code free, silent_append, nothing, shown, Bool.true_and]

theorem exposes_congr {next other : Option Char} (previous : Option Char) (masked : List Char)
    (same : next.any startsName = other.any startsName) :
    exposes previous masked next = exposes previous masked other := by
  have begins (before : Option Char) : beginsName before next = beginsName before other := by
    rw [beginsName, beginsName, same]
  have first : beginsName previous (masked.tail.head?.or next) =
      beginsName previous (masked.tail.head?.or other) := by
    cases masked.tail.head? with
    | none => exact begins previous
    | some c => rfl
  rw [exposes, exposes, begins, first]

/-- No placeholder is left exactly when no colon is exposed. -/
theorem silent_spliced {gap : List Char} {entries : List (List Char × List Char)}
    (pieces : Pieces gap entries)
    (contained : ∀ entry ∈ entries, selfContained false entry.1 = true)
    {piece inserted : List Char} (waiting : selfContained false inserted = true)
    (fit : seamless piece inserted gap entries = true) (previous : Option Char) :
    silent previous (maskChars (inserted ++ (gap ++ spliced entries))) none =
      unexposed (inserted.getLast?.or previous) gap entries := by
  induction pieces generalizing piece inserted previous with
  | @last gap quiet =>
    rw [seamless, fits, Bool.and_eq_true, Bool.not_eq_true', Bool.not_eq_true'] at fit
    rw [spliced, List.flatMap_nil, List.append_nil, silent_inserted waiting fit.2,
      silent_of_quiet quiet, unexposed]
  | @next gap text after entries quiet closed further inner =>
    have own : selfContained false text = true := contained (text, after) List.mem_cons_self
    have others : ∀ entry ∈ entries, selfContained false entry.1 = true :=
      fun entry mem => contained entry (List.mem_cons_of_mem _ mem)
    rw [seamless] at fit
    rw [spliced_cons]
    cases gap with
    | nil =>
      rw [if_pos (by rfl)] at fit
      have together := inner others (selfContained_append waiting own) fit previous
      rw [List.append_assoc, List.getLast?_append, Option.or_assoc] at together
      rw [List.nil_append, together, unexposed]
      rfl
    | cons c gap =>
      rw [if_neg (by simp), Bool.and_eq_true, fits, Bool.and_eq_true, Bool.not_eq_true',
        Bool.not_eq_true'] at fit
      obtain ⟨⟨-, right⟩, remaining⟩ := fit
      have apart := meets_of_seamless remaining
      have seam : meets (maskChars inserted).getLast?
          (c :: gap ++ (text ++ (after ++ spliced entries))).head? = false := right
      rw [silent_inserted waiting seam, maskChars_append closed apart, silent_append,
        silent_of_quiet quiet, Option.or_none, inner others own remaining, unexposed,
        exposes_congr _ _ (any_head?_maskChars _)]

theorem ofMasked_spliced_iff {gap : List Char} {entries : List (List Char × List Char)}
    (pieces : Pieces gap entries)
    (contained : ∀ entry ∈ entries, selfContained false entry.1 = true)
    (fit : seamless [] [] gap entries = true) :
    ofMasked (maskChars (gap ++ spliced entries)) = [] ↔ unexposed none gap entries = true := by
  have left := @silent_spliced gap entries pieces contained [] [] rfl fit none
  rw [List.nil_append] at left
  rw [ofMasked, scanFrom_eq_nil_iff, left]
  rfl

end QueryComposer.Placeholder
