import QueryComposer.Sql.Placeholder

set_option autoImplicit false

/-!
Where placeholders begin in a masked text. Whether one begins at a character depends on its two
neighbours only, and a text in which none begins is passed over.
-/

namespace QueryComposer.Placeholder

open QueryComposer.Text

/-! ### Where placeholders begin -/

/-- A name begins after a colon between these characters. -/
def beginsName (previous next : Option Char) : Bool :=
  !blocksName previous && next.any Literal.startsName

/-- A placeholder begins at the character between these. -/
def beginsAt (previous : Option Char) (c : Char) (next : Option Char) : Bool :=
  (c = ':' && beginsName previous next) || (c = '?' && !blocksQuestion next)

/-- No placeholder begins in a masked text between these characters. -/
def silent (previous : Option Char) : List Char → Option Char → Bool
  | [], _ => true
  | c :: rest, next => !beginsAt previous c (rest.head?.or next) && silent (some c) rest next

theorem silent_append (previous next : Option Char) (first second : List Char) :
    silent previous (first ++ second) next =
      (silent previous first (second.head?.or next) &&
        silent (first.getLast?.or previous) second next) := by
  induction first generalizing previous with
  | nil => simp [silent]
  | cons c first inner =>
    rw [List.cons_append, silent, silent, inner, List.head?_append, Option.or_assoc,
      List.getLast?_cons, Bool.and_assoc]
    simp

theorem silent_or_first (previous : Option Char) (masked : List Char) :
    silent previous masked none = true ∨
      ∃ before c after, masked = before ++ c :: after ∧ silent previous before (some c) = true ∧
        beginsAt (before.getLast?.or previous) c after.head? = true := by
  induction masked generalizing previous with
  | nil => exact .inl rfl
  | cons c rest inner =>
    by_cases begins : beginsAt previous c rest.head?
    · exact .inr ⟨[], c, rest, rfl, rfl, begins⟩
    · rcases inner (some c) with quiet | ⟨before, d, after, rfl, quiet, begun⟩
      · exact .inl (by simp [silent, begins, quiet])
      · refine .inr ⟨c :: before, d, after, rfl, ?_, ?_⟩
        · simp only [silent, quiet, Bool.and_true, Bool.not_eq_true']
          simpa [List.head?_append] using begins
        · simpa [List.getLast?_cons] using begun

theorem scanFrom_pass {offset questions : Nat} {previous : Option Char} {c : Char}
    {rest : List Char} (passed : beginsAt previous c rest.head? = false) :
    scanFrom offset previous questions (c :: rest) =
      scanFrom (offset + c.utf8Size) (some c) questions rest := by
  simp only [beginsAt, beginsName, Bool.or_eq_false_iff] at passed
  rw [scanFrom]
  by_cases colon : c = ':'
  · have unnamed : nameAfter? previous rest = none := by
      simp_all [nameAfter?]
    simp [colon, unnamed]
  · simp_all

theorem scanFrom_silent {previous : Option Char} {before : List Char} {more : List Char}
    (quiet : silent previous before more.head? = true) (offset questions : Nat) :
    scanFrom offset previous questions (before ++ more) =
      scanFrom (offset + byteLength before) (before.getLast?.or previous) questions more := by
  induction before generalizing offset previous with
  | nil => rfl
  | cons c before inner =>
    simp only [silent, Bool.and_eq_true, Bool.not_eq_true'] at quiet
    rw [List.cons_append, scanFrom_pass (by rw [List.head?_append]; exact quiet.1), inner quiet.2,
      byteLength, Nat.add_assoc, List.getLast?_cons]
    simp

/-- A colon and a name at a place. -/
def namedAt (start : Nat) (name : List Char) : Placeholder :=
  { start, stop := start + 1 + name.length, name := String.ofList name, kind := .named }

/-- A question mark at a place, with its number. -/
def positionalAt (start number : Nat) : Placeholder :=
  { start, stop := start + 1, name := s!"param{number}", kind := .positional }

theorem scanFrom_colon {previous : Option Char} {rest : List Char}
    (begins : beginsName previous rest.head? = true) (offset questions : Nat) :
    scanFrom offset previous questions (':' :: rest) =
      namedAt offset (rest.takeWhile Literal.continuesName) ::
        scanFrom (offset + 1) (some ':') questions rest := by
  have named : nameAfter? previous rest = some (rest.takeWhile Literal.continuesName) := by
    simp only [nameAfter?]
    exact if_pos begins
  rw [scanFrom]
  simp only [named]
  rfl

theorem scanFrom_question {rest : List Char} (free : blocksQuestion rest.head? = false)
    (offset : Nat) (previous : Option Char) (questions : Nat) :
    scanFrom offset previous questions ('?' :: rest) =
      positionalAt offset (questions + 1) ::
        scanFrom (offset + 1) (some '?') (questions + 1) rest := by
  rw [scanFrom]
  simp only [free]
  rfl

theorem scanFrom_eq_nil_iff {offset questions : Nat} {previous : Option Char}
    {masked : List Char} :
    scanFrom offset previous questions masked = [] ↔ silent previous masked none = true := by
  constructor
  · intro nothing
    rcases silent_or_first previous masked with quiet | ⟨before, c, after, rfl, quiet, begins⟩
    · exact quiet
    · rw [scanFrom_silent quiet] at nothing
      simp only [beginsAt, Bool.or_eq_true, Bool.and_eq_true, decide_eq_true_eq,
        Bool.not_eq_true'] at begins
      rcases begins with ⟨rfl, begins⟩ | ⟨rfl, free⟩
      · rw [scanFrom_colon begins] at nothing
        cases nothing
      · rw [scanFrom_question free] at nothing
        cases nothing
  · intro quiet
    have none := @scanFrom_silent previous masked [] quiet offset questions
    rw [List.append_nil] at none
    rw [none]
    rfl

/-! ### Other neighbours -/

theorem getLast?_cons_or {α : Type} (first : α) (rest : List α) (previous : Option α) :
    (first :: rest).getLast?.or previous = rest.getLast?.or (some first) := by
  rw [List.getLast?_cons]
  cases rest.getLast? <;> rfl

theorem silent_next {previous before next : Option Char} {masked : List Char}
    (free : blocksQuestion before = false) (quiet : silent previous masked before = true) :
    silent previous masked next =
      !(masked.getLast? = some ':' && beginsName (masked.dropLast.getLast?.or previous) next) := by
  induction masked generalizing previous with
  | nil => rfl
  | cons c rest inner =>
    rw [silent, Bool.and_eq_true, Bool.not_eq_true'] at quiet
    cases rest with
    | nil =>
      have question : c ≠ '?' := by
        rintro rfl
        simp [beginsAt, free] at quiet
      simp [silent, beginsAt, question]
    | cons d rest =>
      have first : beginsAt previous c ((d :: rest).head?.or next) = false := quiet.1
      rw [silent, inner quiet.2, first, List.getLast?_cons_cons, List.dropLast_cons_cons,
        getLast?_cons_or]
      rfl

theorem beginsAt_previous {earlier previous : Option Char} {c : Char} {next : Option Char}
    (quiet : beginsAt earlier c next = false) :
    beginsAt previous c next = (decide (c = ':') && beginsName previous next) := by
  rw [beginsAt, Bool.or_eq_false_iff] at quiet
  rw [beginsAt, quiet.2, Bool.or_false]

theorem silent_of_missing {masked : List Char} (missing : ∀ c ∈ masked, c ≠ ':' ∧ c ≠ '?')
    (previous next : Option Char) : silent previous masked next = true := by
  induction masked generalizing previous with
  | nil => rfl
  | cons c rest inner =>
    obtain ⟨colon, question⟩ := missing c List.mem_cons_self
    rw [silent, inner (fun d mem => missing d (List.mem_cons_of_mem _ mem))]
    simp [beginsAt, colon, question]

end QueryComposer.Placeholder
