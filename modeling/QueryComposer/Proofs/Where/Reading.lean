import QueryComposer.Proofs.Where.Rendering
import QueryComposer.Sql.Statement

set_option autoImplicit false

/-!
What the condition of a statement says to a reader who takes `AND` before `OR`. The reader goes
through the pieces from left to right and gives the k-th comparison the k-th truth value; the
condition itself is given the same values, comparison by comparison from left to right, where those
that were not written are left out. Both come to the same truth.
-/

namespace QueryComposer

open QueryComposer.Text

/-! ### The reader -/

/-- What was read of a group: whether a term before the present one holds, and whether the present
term holds so far. Terms stand between `OR`s. -/
structure Level where
  earlier : Bool := false
  term : Bool := true
deriving DecidableEq, Repr

namespace Level

/-- The truth of what was read. -/
def value (level : Level) : Bool :=
  level.earlier || level.term

/-- One more operand in the present term. -/
def meet (level : Level) (operand : Bool) : Level :=
  { level with term := level.term && operand }

/-- After a connective: `AND` goes on with the term, and `OR` begins another. -/
def after (level : Level) : Logic → Level
  | .and => level
  | .or => { earlier := level.value, term := true }

end Level

namespace WherePart

/-- Read on, given how many comparisons came before, what was read of the present group and of
those around it, and whether an operand has to come next. There is no truth in pieces that do not
fit together. -/
def evaluateFrom (truth : Nat → Bool) (next : Nat) (level : Level) (outer : List Level) :
    Bool → List WhereToken → Option Bool
  | true, .atom _ :: rest =>
    evaluateFrom truth (next + 1) (level.meet (truth next)) outer false rest
  | true, .openGroup :: rest => evaluateFrom truth next {} (level :: outer) true rest
  | false, .connective logic :: rest =>
    evaluateFrom truth next (level.after logic) outer true rest
  | false, .closeGroup :: rest =>
    match outer with
    | [] => none
    | around :: outer => evaluateFrom truth next (around.meet level.value) outer false rest
  | false, [] => if outer.isEmpty then some level.value else none
  | _, _ => none

/-- The truth of a condition in SQL when its comparisons, counted from zero, have the given ones. -/
def evaluate (truth : Nat → Bool) (tokens : List WhereToken) : Option Bool :=
  evaluateFrom truth 0 {} [] true tokens

/-- The comparisons among the pieces. -/
def atoms (tokens : List WhereToken) : List Atom :=
  tokens.filterMap (fun
    | .atom shown => some shown
    | _ => none)

end WherePart

example : WherePart.evaluate (· = 0)
    [.atom ⟨"a", .equal, .none⟩, .connective .or, .atom ⟨"b", .equal, .none⟩, .connective .and,
      .atom ⟨"c", .equal, .none⟩] = some true := by
  decide

/-! ### The truth of a condition -/

namespace Logic

/-- The truth of operands with a connective between them. -/
def combine : Logic → List Bool → Bool
  | .and, values => values.all id
  | .or, values => values.any id

/-- The truth of the operands that are there, unless there is none. -/
def combine? (logic : Logic) (operands : List (Option Bool)) : Option Bool :=
  match operands.filterMap id with
  | [] => none
  | first :: values => some (logic.combine (first :: values))

end Logic

namespace Condition

/-- How many comparisons of a condition are written. -/
def writtenCount (written : Comparison → Bool) (condition : Condition) : Nat :=
  (condition.leaves.filter written).length

mutual

/-- The truth of a condition when its written comparisons, counted from a number on, have the given
ones; none when nothing of it is written. -/
def holds? (written : Comparison → Bool) (truth : Nat → Bool) (next : Nat) :
    Condition → Option Bool
  | .leaf comparison => if written comparison then some (truth next) else none
  | .group logic members => logic.combine? (holdsEach written truth next members)

/-- The truth of each of some conditions. -/
def holdsEach (written : Comparison → Bool) (truth : Nat → Bool) (next : Nat) :
    List Condition → List (Option Bool)
  | [] => []
  | member :: members =>
    holds? written truth next member ::
      holdsEach written truth (next + writtenCount written member) members

end

end Condition

/-- The truth of the condition of a query. -/
def ConditionGroup.holds? (written : Comparison → Bool) (truth : Nat → Bool)
    (group : ConditionGroup) : Option Bool :=
  group.logic.combine? (Condition.holdsEach written truth 0 group.members)

/-! ### Reading operands -/

namespace WherePart

/-- Wherever an operand has to come, the pieces are read as one with the given truth. -/
def Reads (truth : Nat → Bool) (next after : Nat) (tokens : List WhereToken)
    (value : Bool) : Prop :=
  ∀ level outer rest,
    evaluateFrom truth next level outer true (tokens ++ rest) =
      evaluateFrom truth after (level.meet value) outer false rest

/-- Each of some parts is read as an operand, one behind the other. -/
inductive ReadsEach (truth : Nat → Bool) : Nat → Nat → List (List WhereToken) → List Bool → Prop
  | nil (next : Nat) : ReadsEach truth next next [] []
  | cons {next middle after : Nat} {tokens : List WhereToken} {value : Bool}
      {parts : List (List WhereToken)} {values : List Bool}
      (first : Reads truth next middle tokens value)
      (others : ReadsEach truth middle after parts values) :
      ReadsEach truth next after (tokens :: parts) (value :: values)

/-- A part is read as an operand if there is one, and takes no comparison otherwise. -/
inductive ReadsPart (truth : Nat → Bool) : Nat → Nat → WherePart → Option Bool → Prop
  | nothing (next : Nat) : ReadsPart truth next next none none
  | operand {next after : Nat} {tokens : List WhereToken} {value : Bool}
      (reads : Reads truth next after tokens value) :
      ReadsPart truth next after (some tokens) (some value)

theorem ReadsPart.cons {truth : Nat → Bool} {next middle after : Nat} {part : WherePart}
    {value : Option Bool} {parts : List WherePart} {values : List (Option Bool)}
    (first : ReadsPart truth next middle part value)
    (others : ReadsEach truth middle after (parts.filterMap id) (values.filterMap id)) :
    ReadsEach truth next after ((part :: parts).filterMap id) ((value :: values).filterMap id) := by
  cases first with
  | nothing => exact others
  | operand reads => exact .cons reads others

theorem reads_atom (truth : Nat → Bool) (next : Nat) (shown : Atom) :
    Reads truth next (next + 1) [.atom shown] (truth next) := by
  intro level outer rest
  rfl

end WherePart

namespace Level

/-- What was read after operands with a connective between neighbours. -/
def connect (logic : Logic) (level : Level) : List Bool → Level
  | [] => level
  | [value] => level.meet value
  | value :: values => connect logic ((level.meet value).after logic) values

theorem connect_cons_cons (logic : Logic) (level : Level) (first second : Bool)
    (values : List Bool) :
    level.connect logic (first :: second :: values) =
      ((level.meet first).after logic).connect logic (second :: values) := rfl

theorem value_connect_and (level : Level) (values : List Bool) :
    (level.connect .and values).value = (level.earlier || (level.term && values.all id)) := by
  induction values generalizing level with
  | nil => simp [connect, value]
  | cons first values inner =>
    cases values with
    | nil => simp [connect, value, meet]
    | cons second values =>
      rw [connect_cons_cons, inner]
      simp only [after, meet, List.all_cons, id_eq, Bool.and_assoc]

theorem value_connect_or (level : Level) (first : Bool) (values : List Bool) :
    (level.connect .or (first :: values)).value =
      (level.earlier || (level.term && first) || values.any id) := by
  induction values generalizing level first with
  | nil => simp [connect, value, meet]
  | cons second values inner =>
    rw [connect_cons_cons, inner]
    simp only [after, meet, value, List.any_cons, id_eq, Bool.true_and, Bool.or_assoc]

/-- From the start of a group on, connected operands come to the truth of the connective. -/
theorem value_connect (logic : Logic) (first : Bool) (values : List Bool) :
    (({} : Level).connect logic (first :: values)).value = logic.combine (first :: values) := by
  cases logic with
  | and => rw [value_connect_and, Bool.false_or, Bool.true_and, Logic.combine]
  | or => rw [value_connect_or, Bool.false_or, Bool.true_and, Logic.combine, List.any_cons, id_eq]

end Level

namespace WherePart

theorem connect_cons_cons (logic : Logic) (first second : List WhereToken)
    (parts : List (List WhereToken)) :
    connect logic (first :: second :: parts) =
      first ++ .connective logic :: connect logic (second :: parts) := rfl

theorem reads_connect {truth : Nat → Bool} {next after : Nat} {parts : List (List WhereToken)}
    {values : List Bool} (logic : Logic) (each : ReadsEach truth next after parts values)
    (present : parts ≠ []) (level : Level) (outer : List Level) (rest : List WhereToken) :
    evaluateFrom truth next level outer true (connect logic parts ++ rest) =
      evaluateFrom truth after (level.connect logic values) outer false rest := by
  induction each generalizing level with
  | nil next => exact absurd rfl present
  | cons first others inner =>
    cases others with
    | nil next => exact first level outer rest
    | cons second others =>
      rw [connect_cons_cons, List.append_assoc, first, List.cons_append, evaluateFrom,
        inner (List.cons_ne_nil _ _), Level.connect_cons_cons]

/-- Operands that are connected within parentheses are one operand. -/
theorem reads_group {truth : Nat → Bool} {next after : Nat} {parts : List (List WhereToken)}
    {first : Bool} {values : List Bool} (logic : Logic)
    (each : ReadsEach truth next after parts (first :: values)) :
    Reads truth next after (.openGroup :: (connect logic parts ++ [.closeGroup]))
      (logic.combine (first :: values)) := by
  intro level outer rest
  have present : parts ≠ [] := by
    cases each
    exact List.cons_ne_nil _ _
  rw [List.cons_append, List.append_assoc, evaluateFrom, reads_connect logic each present,
    ← Level.value_connect]
  rfl

/-- What a nested group becomes is read as one operand with the truth of the group. -/
theorem readsPart_combine {truth : Nat → Bool} {next after : Nat} (logic : Logic)
    {parts : List WherePart} {values : List (Option Bool)}
    (each : ReadsEach truth next after (parts.filterMap id) (values.filterMap id)) :
    ReadsPart truth next after (combine logic true parts) (logic.combine? values) := by
  unfold combine Logic.combine?
  revert each
  generalize parts.filterMap id = written
  generalize values.filterMap id = truths
  intro each
  cases each with
  | nil next => exact .nothing next
  | cons first others =>
    cases others with
    | nil next =>
      have alone (value : Bool) : logic.combine [value] = value := by
        cases logic <;> simp [Logic.combine]
      simp only [alone]
      exact .operand first
    | cons second others => exact .operand (reads_group logic (.cons first (.cons second others)))

theorem combine_root (logic : Logic) (parts : List WherePart) :
    combine logic false parts =
      if parts.filterMap id = [] then none else some (connect logic (parts.filterMap id)) := by
  unfold combine
  generalize parts.filterMap id = written
  cases written with
  | nil => rfl
  | cons first others => cases others <;> rfl

/-- What the outermost group becomes is read to its end, with the truth of the group. -/
theorem evaluate_combine {truth : Nat → Bool} {after : Nat} (logic : Logic)
    {parts : List WherePart} {values : List (Option Bool)}
    (each : ReadsEach truth 0 after (parts.filterMap id) (values.filterMap id))
    {tokens : List WhereToken} (written : combine logic false parts = some tokens) :
    ∃ value, logic.combine? values = some value ∧ evaluate truth tokens = some value := by
  rw [combine_root] at written
  unfold Logic.combine?
  revert each written
  generalize parts.filterMap id = shown
  generalize values.filterMap id = truths
  intro each written
  split at written
  · contradiction
  · rename_i present
    cases written
    have read := reads_connect logic each present {} [] []
    rw [List.append_nil] at read
    cases each with
    | nil next => exact absurd rfl present
    | cons first others =>
      refine ⟨_, rfl, ?_⟩
      rw [← Level.value_connect, evaluate, read]
      rfl

end WherePart

end QueryComposer
