import Mathlib.Logic.Relation
import QueryComposer.Proofs.Where.Reading

set_option autoImplicit false

/-!
The work list of a condition, step by step. Every task that combines parts finds as many as it
takes, and at the end there is one part. Its text, and the faults with it, are those of the
recursion that writes a condition member by member.
-/

namespace QueryComposer

open QueryComposer.Text

variable {tables : List Table} {policy : LiteralPolicy}

/-! ### The recursion on texts -/

/-- The text of a group from those of its members: nothing when none of them has one, the text of
one as it is, and several with the connective between them, in parentheses within another group. -/
def Logic.combineTexts (logic : Logic) (nested : Bool) (texts : List (Option String)) :
    Option String :=
  match texts.filterMap id with
  | [] => none
  | [text] => some text
  | several =>
    let joined := join (" " ++ logic.keyword ++ " ") several
    some (if nested then "(" ++ joined ++ ")" else joined)

namespace Condition

mutual

/-- The text of a condition, if it has one, with the faults from left to right. -/
def rendered (tables : List Table) (policy : LiteralPolicy) :
    Condition → Option String × List QueryFault
  | .leaf comparison =>
    match comparison.atom tables policy with
    | .ok atom => (some atom.text, [])
    | .error fault => (none, [fault])
  | .group logic members =>
    let inner := renderedEach tables policy members
    (logic.combineTexts true inner.1, inner.2)

def renderedEach (tables : List Table) (policy : LiteralPolicy) :
    List Condition → List (Option String) × List QueryFault
  | [] => ([], [])
  | member :: members =>
    let first := rendered tables policy member
    let others := renderedEach tables policy members
    (first.1 :: others.1, first.2 ++ others.2)

end

end Condition

/-- The text of the condition of a query, without parentheses around it. -/
def ConditionGroup.rendered (tables : List Table) (policy : LiteralPolicy)
    (group : ConditionGroup) : Option String × List QueryFault :=
  let inner := Condition.renderedEach tables policy group.members
  (group.logic.combineTexts false inner.1, inner.2)

namespace WherePart

theorem text_append (first second : List WhereToken) :
    text (first ++ second) = text first ++ text second := by
  rw [text, List.map_append, String.join_append]
  rfl

theorem text_cons (token : WhereToken) (tokens : List WhereToken) :
    text (token :: tokens) = token.text ++ text tokens :=
  String.join_cons

theorem text_singleton (token : WhereToken) : text [token] = token.text := by
  rw [text_cons, text, List.map_nil, String.join_nil, String.append_empty]

theorem text_connect (logic : Logic) (parts : List (List WhereToken)) :
    text (connect logic parts) = join (" " ++ logic.keyword ++ " ") (parts.map text) := by
  induction parts with
  | nil => rfl
  | cons first parts inner =>
    cases parts with
    | nil => exact String.intercalate_singleton.symm
    | cons second parts =>
      rw [connect_cons_cons, text_append, text_cons, inner, ← String.append_assoc]
      exact String.intercalate_cons_cons.symm

theorem map_text_combine (logic : Logic) (nested : Bool) (parts : List WherePart) :
    (combine logic nested parts).map text =
      logic.combineTexts nested (parts.map (Option.map text)) := by
  have written : (parts.map (Option.map text)).filterMap id = (parts.filterMap id).map text := by
    rw [List.filterMap_map, List.map_filterMap]
    rfl
  unfold combine Logic.combineTexts
  rw [written]
  cases parts.filterMap id with
  | nil => rfl
  | cons first others =>
    cases others with
    | nil => rfl
    | cons second others =>
      cases nested with
      | true =>
        simp only [List.map_cons, if_true, Option.map_some, text_cons .openGroup, text_append,
          text_singleton, text_connect, String.append_assoc]
        rfl
      | false =>
        simp only [List.map_cons, Bool.false_eq_true, if_false, Option.map_some, text_connect]

end WherePart

namespace Condition

mutual

theorem rendered_eq (condition : Condition) :
    rendered tables policy condition =
      ((part tables policy condition).1.map WherePart.text, (part tables policy condition).2) := by
  cases condition with
  | leaf comparison =>
    rw [rendered, part, leafPart]
    cases comparison.atom tables policy with
    | ok atom => simp only [Option.map_some, WherePart.text_singleton, WhereToken.text]
    | error fault => rfl
  | group logic members =>
    rw [rendered, part, renderedEach_eq members, WherePart.map_text_combine]

theorem renderedEach_eq (members : List Condition) :
    renderedEach tables policy members =
      ((parts tables policy members).1.map (Option.map WherePart.text),
        (parts tables policy members).2) := by
  cases members with
  | nil => rfl
  | cons member members =>
    rw [renderedEach, parts, rendered_eq member, renderedEach_eq members, List.map_cons]

end

end Condition

/-! ### Steps -/

/-- The tasks that are left, and the parts and faults so far, the last one first. -/
structure WhereState where
  tasks : List WhereTask
  done : List WherePart := []
  faults : List QueryFault := []

namespace WhereState

/-- The work on the condition of a query has not begun. -/
def start (group : ConditionGroup) : WhereState :=
  { tasks := WhereTask.forMembers group.logic group.members false [] }

/-- The first task is done, if there is one. -/
def next? (tables : List Table) (policy : LiteralPolicy) (state : WhereState) :
    Option WhereState :=
  match state.tasks with
  | [] => none
  | .visit (.leaf comparison) :: rest =>
    let leaf := Condition.leafPart tables policy comparison
    some { tasks := rest, done := leaf.1 :: state.done, faults := leaf.2 ++ state.faults }
  | .visit (.group logic members) :: rest =>
    some { state with tasks := WhereTask.forMembers logic members true rest }
  | .combine logic count nested :: rest =>
    let combined := WherePart.combine logic nested (state.done.take count).reverse
    some { state with tasks := rest, done := combined :: state.done.drop count }

/-- How many parts are taken next. When no task is left, the part of the whole is. -/
def taken (state : WhereState) : Nat :=
  match state.tasks with
  | [] => 1
  | .visit _ :: _ => 0
  | .combine _ count _ :: _ => count

/-- The second state comes after the first one, or is the same. -/
def Reaches (tables : List Table) (policy : LiteralPolicy) : WhereState → WhereState → Prop :=
  Relation.ReflTransGen (fun before after => before.next? tables policy = some after)

/-- The work list goes through the steps to their end. -/
theorem reaches_run (tasks : List WhereTask) (done : List WherePart) (faults : List QueryFault) :
    Reaches tables policy { tasks, done, faults }
      { tasks := []
        done := (runWhereTasks tables policy tasks done faults).1
        faults := (runWhereTasks tables policy tasks done faults).2 } := by
  fun_induction runWhereTasks tables policy tasks done faults with
  | case1 done faults => exact .refl
  | case2 done faults comparison rest leaf later => exact .head rfl later
  | case3 done faults logic members rest later => exact .head rfl later
  | case4 done faults logic count nested rest combined later => exact .head rfl later

/-! ### What is taken -/

/-- With so many parts done, no task takes more parts than there are, and one is left at the end. -/
def Suffices : Nat → List WhereTask → Prop
  | count, [] => count = 1
  | count, .visit _ :: rest => Suffices (count + 1) rest
  | count, .combine _ taken _ :: rest => taken ≤ count ∧ Suffices (count - taken + 1) rest

theorem suffices_visits (members : List Condition) (count : Nat) (rest : List WhereTask) :
    Suffices count (members.map .visit ++ rest) ↔ Suffices (count + members.length) rest := by
  induction members generalizing count with
  | nil => rfl
  | cons member members inner =>
    rw [List.map_cons, List.cons_append, Suffices, inner, List.length_cons, Nat.add_assoc,
      Nat.add_comm 1]

theorem suffices_forMembers (logic : Logic) (members : List Condition) (nested : Bool) (count : Nat)
    (rest : List WhereTask) :
    Suffices count (WhereTask.forMembers logic members nested rest) ↔
      Suffices (count + 1) rest := by
  rw [WhereTask.forMembers, suffices_visits, Suffices, Nat.add_sub_cancel,
    and_iff_right (Nat.le_add_left _ _)]

theorem suffices_start (group : ConditionGroup) :
    Suffices (start group).done.length (start group).tasks := by
  rw [start, suffices_forMembers]
  rfl

theorem suffices_next? {state after : WhereState} (step : state.next? tables policy = some after)
    (enough : Suffices state.done.length state.tasks) :
    Suffices after.done.length after.tasks := by
  unfold next? at step
  split at step
  · contradiction
  · rename_i comparison rest shape
    cases step
    rw [shape] at enough
    exact enough
  · -- the members and their combination stand for the visit of the group
    rename_i logic members rest shape
    cases step
    rw [shape] at enough
    exact (suffices_forMembers logic members true _ rest).mpr enough
  · rename_i logic count nested rest shape
    cases step
    rw [shape] at enough
    rw [List.length_cons, List.length_drop]
    exact enough.2

theorem suffices_of_reaches {state after : WhereState} (later : Reaches tables policy state after)
    (enough : Suffices state.done.length state.tasks) :
    Suffices after.done.length after.tasks := by
  induction later with
  | refl => exact enough
  | tail _ step held => exact suffices_next? step held

theorem taken_le {state : WhereState} (enough : Suffices state.done.length state.tasks) :
    state.taken ≤ state.done.length := by
  unfold taken
  split
  · rename_i finished
    rw [finished] at enough
    exact Nat.le_of_eq enough.symm
  · exact Nat.zero_le _
  · rename_i logic count nested rest shape
    rw [shape] at enough
    exact enough.1

end WhereState

/-! ### The condition of a query -/

namespace ConditionGroup

open WhereState

/-- The work list ends with one part, having never taken more parts than were there; the text of
this part and the faults are those of the recursion on the condition. -/
theorem wherePart_renders_recursively (tables : List Table) (policy : LiteralPolicy)
    (group : ConditionGroup) :
    ((group.wherePart tables policy).1.map WherePart.text, (group.wherePart tables policy).2) =
      group.rendered tables policy ∧
    (∀ state, Reaches tables policy (start group) state → state.taken ≤ state.done.length) ∧
    ∃ part faults, Reaches tables policy (start group) { tasks := [], done := [part], faults } ∧
      group.wherePart tables policy = (part, faults.reverse) := by
  refine ⟨?_, ?_, ?_⟩
  · rw [wherePart_eq, rendered, Condition.renderedEach_eq, WherePart.map_text_combine]
  · intro state later
    exact taken_le (suffices_of_reaches later (suffices_start group))
  · have finished := @reaches_run tables policy (start group).tasks [] []
    -- without tasks that are left, the invariant says that there is one part
    have single := suffices_of_reaches finished (suffices_start group)
    obtain ⟨part, alone⟩ := List.length_eq_one_iff.mp single
    dsimp only at alone
    rw [alone] at finished
    have taken : group.wherePart tables policy =
        ((runWhereTasks tables policy (start group).tasks [] []).1.head?.join,
          (runWhereTasks tables policy (start group).tasks [] []).2.reverse) := rfl
    rw [alone] at taken
    exact ⟨part, _, finished, taken⟩

/-- Two comparisons around one without a column in a group, and a comparison beside the group. -/
def overdueOrUrgent : ConditionGroup :=
  { members := [
      .group .or [
        .leaf { column := "due", operator := .isNull, value := .none },
        .leaf {},
        .leaf { column := "urgent", value := .scalar (.bool true) }],
      .leaf { column := "open", value := .scalar (.int 1) }] }

/-- After four steps the group takes three parts, the second of them nothing. -/
theorem overdueOrUrgent_rendered :
    overdueOrUrgent.rendered [] .permissive =
      (some "(due IS NULL OR urgent = TRUE) AND open = 1", [.unboundCondition]) ∧
    ((overdueOrUrgent.wherePart [] .permissive).1.map WherePart.text,
      (overdueOrUrgent.wherePart [] .permissive).2) = overdueOrUrgent.rendered [] .permissive ∧
    ∃ state, Reaches [] .permissive (start overdueOrUrgent) state ∧ state.taken = 3 ∧
      state.taken ≤ state.done.length := by
  obtain ⟨same, enough, -⟩ := wherePart_renders_recursively [] .permissive overdueOrUrgent
  have fourth : Reaches [] .permissive (start overdueOrUrgent) _ :=
    .tail (.tail (.tail (.tail .refl rfl) rfl) rfl) rfl
  exact ⟨by decide +kernel, same, _, fourth, rfl, enough _ fourth⟩

end ConditionGroup

end QueryComposer
