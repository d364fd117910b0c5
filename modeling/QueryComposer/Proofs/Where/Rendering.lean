import QueryComposer.Sql.Where

set_option autoImplicit false

/-!
The work list that renders a condition gives what the recursion on the condition gives: the same
part, and the same faults in the same order.
-/

namespace QueryComposer

open Condition

variable {tables : List Table} {policy : LiteralPolicy}

theorem Condition.length_parts (members : List Condition) :
    (parts tables policy members).1.length = members.length := by
  induction members with
  | nil => rfl
  | cons member members inner =>
    simp only [parts, List.length_cons, inner]

/-- A comparison has at most one fault. -/
theorem Condition.reverse_leafPart_faults (comparison : Comparison) :
    (leafPart tables policy comparison).2.reverse = (leafPart tables policy comparison).2 := by
  unfold leafPart
  split <;> rfl

theorem runWhereTasks_combine (logic : Logic) (nested : Bool) (members : List WherePart)
    (rest : List WhereTask) (done : List WherePart) (faults : List QueryFault) :
    runWhereTasks tables policy (.combine logic members.length nested :: rest)
        (members.reverse ++ done) faults =
      runWhereTasks tables policy rest (WherePart.combine logic nested members :: done) faults := by
  have size : members.length = members.reverse.length := by rw [List.length_reverse]
  rw [runWhereTasks, size, List.take_left, List.drop_left, List.reverse_reverse]

mutual

/-- To visit a condition is to put its part on top of what is done. -/
theorem runWhereTasks_visit (condition : Condition) (rest : List WhereTask)
    (done : List WherePart) (faults : List QueryFault) :
    runWhereTasks tables policy (.visit condition :: rest) done faults =
      runWhereTasks tables policy rest ((part tables policy condition).1 :: done)
        ((part tables policy condition).2.reverse ++ faults) := by
  cases condition with
  | leaf comparison => rw [runWhereTasks, part, reverse_leafPart_faults]
  | group logic members =>
    rw [runWhereTasks, WhereTask.forMembers, runWhereTasks_visits members,
      ← @length_parts tables policy members, runWhereTasks_combine, part]

theorem runWhereTasks_visits (members : List Condition) (rest : List WhereTask)
    (done : List WherePart) (faults : List QueryFault) :
    runWhereTasks tables policy (members.map .visit ++ rest) done faults =
      runWhereTasks tables policy rest ((parts tables policy members).1.reverse ++ done)
        ((parts tables policy members).2.reverse ++ faults) := by
  cases members with
  | nil => rfl
  | cons member members =>
    rw [List.map_cons, List.cons_append, runWhereTasks_visit member, runWhereTasks_visits members,
      parts]
    simp only [List.reverse_cons, List.reverse_append, List.append_assoc, List.singleton_append]

end

/-- The condition of a query is rendered member by member from left to right, and its parts are
combined without parentheses. -/
theorem ConditionGroup.wherePart_eq (group : ConditionGroup) :
    group.wherePart tables policy =
      (WherePart.combine group.logic false (parts tables policy group.members).1,
        (parts tables policy group.members).2) := by
  unfold wherePart
  rw [WhereTask.forMembers, runWhereTasks_visits,
    ← @length_parts tables policy group.members, runWhereTasks_combine,
    runWhereTasks]
  simp

end QueryComposer
