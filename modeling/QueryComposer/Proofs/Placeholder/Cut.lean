import QueryComposer.Proofs.Placeholder.Slices

set_option autoImplicit false

/-!
Replacing the placeholders of a text puts other texts between the same pieces.
-/

namespace QueryComposer.Placeholder

open QueryComposer.Lexical QueryComposer.Text

/-- A text cut at its placeholders: the piece before the first, and for each placeholder the text in
its place with the piece after it. -/
def cutFrom (offset : Nat) :
    List (Placeholder × String) → List Char → List Char × List (List Char × List Char)
  | [], chars => (chars, [])
  | (placeholder, text) :: others, chars =>
    let (gap, tail) := splitBytes (placeholder.start - offset) chars
    let (_, rest) := splitBytes (placeholder.stop - placeholder.start) tail
    let (after, entries) := cutFrom placeholder.stop others rest
    (gap, (text.toList, after) :: entries)

/-- The texts with the pieces after them. -/
def spliced (entries : List (List Char × List Char)) : List Char :=
  entries.flatMap (fun entry => entry.1 ++ entry.2)

theorem replaceFrom_eq (offset : Nat) (replacements : List (Placeholder × String))
    (chars : List Char) :
    replaceFrom offset replacements chars =
      (cutFrom offset replacements chars).1 ++ spliced (cutFrom offset replacements chars).2 := by
  induction replacements generalizing offset chars with
  | nil => simp [replaceFrom, cutFrom, spliced]
  | cons replacement others inner =>
    obtain ⟨placeholder, text⟩ := replacement
    simp only [replaceFrom, cutFrom, inner, spliced, List.flatMap_cons, List.append_assoc]

theorem splitBytes_append_more (before after : List Char) (more : Nat) :
    splitBytes (byteLength before + more) (before ++ after) =
      (before ++ (splitBytes more after).1, (splitBytes more after).2) := by
  induction before with
  | nil => simp [byteLength]
  | cons c before inner =>
    have wide := c.utf8Size_pos
    rw [List.cons_append, byteLength, splitBytes, if_neg (by omega), Nat.add_assoc,
      Nat.add_sub_cancel_left, inner]
    rfl

theorem splitBytes_append (before after : List Char) :
    splitBytes (byteLength before) (before ++ after) = (before, after) := by
  have nothing : splitBytes 0 after = ([], after) := by cases after <;> rfl
  have whole := splitBytes_append_more before after 0
  rwa [nothing, List.append_nil] at whole

/-- A piece of a text: between some characters it holds no placeholder. -/
def Quiet (gap : List Char) : Prop :=
  ∃ previous next, blocksQuestion next = false ∧ silent previous (maskChars gap) next = true

/-- Pieces that are quiet and, before a placeholder, end in code. -/
inductive Pieces : List Char → List (List Char × List Char) → Prop
  | last {gap : List Char} (quiet : Quiet gap) : Pieces gap []
  | next {gap text after : List Char} {entries : List (List Char × List Char)} (quiet : Quiet gap)
      (code : regionAfter .code gap = .code) (further : Pieces after entries) :
      Pieces gap ((text, after) :: entries)

/-- For each placeholder how many bytes stand before it, and how many are in its place. -/
def spansFrom (size : Placeholder × String → Nat) (offset : Nat) :
    List (Placeholder × String) → List (Nat × Nat)
  | [] => []
  | replacement :: others =>
    (replacement.1.start - offset, size replacement) ::
      spansFrom size replacement.1.stop others

/-- The items outside of spans. -/
def outside {α : Type} : List (Nat × Nat) → List α → List α
  | [], items => items
  | (before, taken) :: spans, items =>
    items.take before ++ outside spans (items.drop (before + taken))

/-- The bytes of a placeholder. -/
def tokenSize (replacement : Placeholder × String) : Nat :=
  replacement.1.stop - replacement.1.start

/-- The bytes of the text in the place of a placeholder. -/
def textSize (replacement : Placeholder × String) : Nat :=
  byteLength replacement.2.toList

theorem outside_cons {α : Type} {before taken after : List α} {spans : List (Nat × Nat)} :
    outside ((before.length, taken.length) :: spans) (before ++ taken ++ after) =
      before ++ outside spans after := by
  rw [outside, List.append_assoc, List.take_left, ← List.append_assoc, ← List.length_append,
    List.drop_left]

/-- What the bytes of the pieces belong to, each piece read from code. -/
def coveredPieces (gap : List Char) (entries : List (List Char × List Char)) : List Bool :=
  covered gap ++ entries.flatMap (fun entry => covered entry.2)

/-- The spans of the texts between pieces. -/
def textSpans (gap : List Char) : List (List Char × List Char) → List (Nat × Nat)
  | [] => []
  | (text, after) :: entries => (byteLength gap, byteLength text) :: textSpans after entries

theorem cutFrom_next {offset : Nat} {gap : List Char} {placeholder : Placeholder}
    (starts : placeholder.start = offset + byteLength gap)
    (stops : placeholder.stop = placeholder.start + byteLength placeholder.token) (text : String)
    (others : List (Placeholder × String)) (rest : List Char) :
    cutFrom offset ((placeholder, text) :: others) (gap ++ placeholder.token ++ rest) =
      (gap, (text.toList, (cutFrom placeholder.stop others rest).1) ::
        (cutFrom placeholder.stop others rest).2) := by
  have before : placeholder.start - offset = byteLength gap := by omega
  have size : placeholder.stop - placeholder.start = byteLength placeholder.token := by omega
  rw [cutFrom, before, size, List.append_assoc, splitBytes_append]
  simp only [splitBytes_append]

theorem Slices.pieces {offset : Nat} {previous : Option Char} {chars : List Char}
    {replacements : List (Placeholder × String)}
    (sliced : Slices offset previous chars (replacements.map Prod.fst)) :
    Pieces (cutFrom offset replacements chars).1 (cutFrom offset replacements chars).2 := by
  induction replacements generalizing offset previous chars with
  | nil =>
    cases sliced with
    | last quiet => exact .last ⟨previous, none, rfl, quiet⟩
  | cons replacement others inner =>
    obtain ⟨placeholder, text⟩ := replacement
    cases sliced with
    | next quiet code plain starts stops further =>
      rw [cutFrom_next starts stops]
      refine .next ⟨previous, placeholder.token.head?, ?_, quiet⟩ code (inner further)
      unfold token
      split <;> rfl

theorem token_head? (placeholder : Placeholder) (rest : List Char) :
    (placeholder.token ++ rest).head? = placeholder.token.head? := by
  unfold token
  split <;> rfl

theorem covered_token {gap : List Char} {placeholder : Placeholder}
    (code : regionAfter .code gap = .code) (plain : placeholder.token.all isPlain = true)
    (rest : List Char) :
    covered (gap ++ placeholder.token ++ rest) =
      covered gap ++ coverage (placeholder.token.map (·, .code)) ++ covered rest := by
  have apart : Apart .code gap (placeholder.token ++ rest) := by
    apply Apart.plain
    rw [token_head?]
    cases first : placeholder.token with
    | nil => rfl
    | cons c token =>
      rw [first, List.all_cons, Bool.and_eq_true] at plain
      exact plain.1
  rw [covered, List.append_assoc, labelFrom_append apart, code, labelFrom_plain plain,
    coverage_append, coverage_append, ← List.append_assoc]
  rfl

/-- Outside of the placeholders a text is read like its pieces. -/
theorem Slices.outside_covered {offset : Nat} {previous : Option Char} {chars : List Char}
    {replacements : List (Placeholder × String)}
    (sliced : Slices offset previous chars (replacements.map Prod.fst)) :
    outside (spansFrom tokenSize offset replacements) (covered chars) =
      coveredPieces (cutFrom offset replacements chars).1
        (cutFrom offset replacements chars).2 := by
  induction replacements generalizing offset previous chars with
  | nil => simp [spansFrom, outside, cutFrom, coveredPieces]
  | cons replacement others inner =>
    obtain ⟨placeholder, text⟩ := replacement
    cases sliced with
    | @next _ _ gap rest _ _ quiet code plain starts stops further =>
      have size : (coverage (placeholder.token.map (·, .code))).length =
          placeholder.stop - placeholder.start := by
        rw [length_coverage, List.map_map, stops, Nat.add_sub_cancel_left]
        exact congrArg byteLength (List.map_id _)
      have before : (covered gap).length = placeholder.start - offset := by
        rw [length_covered, starts, Nat.add_sub_cancel_left]
      rw [cutFrom_next starts stops, covered_token code plain, spansFrom, tokenSize, ← before,
        ← size, outside_cons, inner further, coveredPieces, coveredPieces, List.flatMap_cons]

theorem Slices.spans {offset : Nat} {previous : Option Char} {chars : List Char}
    {replacements : List (Placeholder × String)}
    (sliced : Slices offset previous chars (replacements.map Prod.fst)) :
    spansFrom textSize offset replacements =
      textSpans (cutFrom offset replacements chars).1 (cutFrom offset replacements chars).2 := by
  induction replacements generalizing offset previous chars with
  | nil => rfl
  | cons replacement others inner =>
    obtain ⟨placeholder, text⟩ := replacement
    cases sliced with
    | next quiet code plain starts stops further =>
      rw [cutFrom_next starts stops, spansFrom, inner further, textSpans, starts,
        Nat.add_sub_cancel_left]
      rfl

theorem mem_cutFrom {offset : Nat} {replacements : List (Placeholder × String)}
    {chars : List Char} {entry : List Char × List Char}
    (mem : entry ∈ (cutFrom offset replacements chars).2) :
    ∃ replacement ∈ replacements, entry.1 = replacement.2.toList := by
  induction replacements generalizing offset chars with
  | nil => cases mem
  | cons replacement others inner =>
    rcases List.mem_cons.mp mem with rfl | later
    · exact ⟨replacement, List.mem_cons_self, rfl⟩
    · obtain ⟨found, listed, same⟩ := inner later
      exact ⟨found, List.mem_cons_of_mem _ listed, same⟩

end QueryComposer.Placeholder
