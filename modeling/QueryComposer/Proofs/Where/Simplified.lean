import Mathlib.Logic.Relation
import QueryComposer.Proofs.Where.Pieces

set_option autoImplicit false

/-!
Conditions with groups that say nothing. A group without comparisons at any depth can be removed,
and a group with one member can be replaced by that member, wherever it stands; the compiled query
stays the same in its text, its faults and its warnings.
-/

namespace QueryComposer

open QueryComposer.Text

/-! ### Simplifications -/

/-- The members of a group become others by one simplification, in the group itself or in a group
within it. -/
inductive Simplifies : List Condition → List Condition → Prop
  | remove (before after : List Condition) (group : ConditionGroup)
    (empty : group.isEffectivelyEmpty = true) :
    Simplifies (before ++ group.toCondition :: after) (before ++ after)
  | unwrap (before after : List Condition) (logic : Logic) (member : Condition) :
    Simplifies (before ++ .group logic [member] :: after) (before ++ member :: after)
  | within (before after : List Condition) (logic : Logic) {members simpler : List Condition}
    (inside : Simplifies members simpler) :
    Simplifies (before ++ .group logic members :: after)
      (before ++ .group logic simpler :: after)

variable {tables : List Table} {policy : LiteralPolicy}

theorem WherePart.combine_congr (logic : Logic) (nested : Bool) {parts others : List WherePart}
    (same : parts.filterMap id = others.filterMap id) :
    combine logic nested parts = combine logic nested others := by
  unfold combine
  rw [same]

theorem WherePart.combine_singleton (logic : Logic) (nested : Bool) (part : WherePart) :
    combine logic nested [part] = part := by
  cases part with
  | none => rfl
  | some tokens => rfl

namespace Condition

theorem parts_append (before after : List Condition) :
    parts tables policy (before ++ after) =
      ((parts tables policy before).1 ++ (parts tables policy after).1,
        (parts tables policy before).2 ++ (parts tables policy after).2) := by
  induction before with
  | nil => rfl
  | cons member before inner =>
    rw [List.cons_append, parts, parts, inner, List.cons_append, List.append_assoc]

/-- The parts of the members that are there, with the faults. -/
def written (tables : List Table) (policy : LiteralPolicy) (members : List Condition) :
    List (List WhereToken) × List QueryFault :=
  ((parts tables policy members).1.filterMap id, (parts tables policy members).2)

theorem written_append (before after : List Condition) :
    written tables policy (before ++ after) =
      ((written tables policy before).1 ++ (written tables policy after).1,
        (written tables policy before).2 ++ (written tables policy after).2) := by
  unfold written
  rw [parts_append, List.filterMap_append]

theorem written_cons (member : Condition) (members : List Condition) :
    written tables policy (member :: members) =
      ((part tables policy member).1.toList ++ (written tables policy members).1,
        (part tables policy member).2 ++ (written tables policy members).2) := by
  unfold written
  rw [parts]
  cases (part tables policy member).1 <;> rfl

theorem part_group_congr (logic : Logic) {members others : List Condition}
    (same : written tables policy members = written tables policy others) :
    part tables policy (.group logic members) = part tables policy (.group logic others) := by
  obtain ⟨parts, faults⟩ := Prod.mk.inj same
  rw [part, part]
  exact Prod.ext (WherePart.combine_congr logic true parts) faults

/-- Nothing is written of a condition without comparisons, and nothing is wrong with it. -/
theorem part_of_leaves_eq_nil {condition : Condition} (none : condition.leaves = []) :
    part tables policy condition = (.none, []) := by
  refine Prod.ext ?_ ?_
  · rw [part_eq_none_iff, none, List.filterMap_nil]
  · rw [part_faults, none, List.flatMap_nil]

theorem part_singleton (logic : Logic) (member : Condition) :
    part tables policy (.group logic [member]) = part tables policy member := by
  rw [part]
  simp only [parts, WherePart.combine_singleton, List.append_nil]

end Condition

theorem Simplifies.written_eq {members simpler : List Condition}
    (simplified : Simplifies members simpler) :
    Condition.written tables policy simpler = Condition.written tables policy members := by
  -- what stands before and after is written as before, so that each rule is about one member
  induction simplified with
  | remove before after group empty =>
    have none : group.toCondition.leaves = [] := List.isEmpty_iff.mp empty
    simp only [Condition.written_append, Condition.written_cons,
      Condition.part_of_leaves_eq_nil none, Option.toList_none, List.nil_append]
  | unwrap before after logic member =>
    simp only [Condition.written_append, Condition.written_cons, Condition.part_singleton]
  | within before after logic inside same =>
    simp only [Condition.written_append, Condition.written_cons,
      Condition.part_group_congr logic same]

/-! ### The compiled query -/

namespace Query

theorem compile_setConditions (query : Query) (settings : CompilerSettings)
    {group : ConditionGroup}
    (same : group.wherePart query.tables settings.literalPolicy = query.wherePart settings) :
    (query.setConditions group).compile settings = query.compile settings := by
  have unchanged : (query.setConditions group).wherePart settings = query.wherePart settings := same
  unfold compile
  cases found : query.tables with
  | nil =>
    have absent : (query.setConditions group).tables = [] := found
    rw [absent]
  | cons first others =>
    have present : (query.setConditions group).tables = first :: others := found
    rw [present]
    simp only [statement, faults, unchanged]
    rfl

theorem compile_of_written {query : Query} {members : List Condition} (settings : CompilerSettings)
    (same : Condition.written query.tables settings.literalPolicy members =
      Condition.written query.tables settings.literalPolicy query.conditions.members) :
    (query.setConditions { query.conditions with members }).compile settings =
      query.compile settings := by
  obtain ⟨parts, faults⟩ := Prod.mk.inj same
  apply compile_setConditions
  rw [wherePart, ConditionGroup.wherePart_eq, ConditionGroup.wherePart_eq]
  exact Prod.ext (WherePart.combine_congr query.conditions.logic false parts) faults

/-- Whatever groups without comparisons are removed from the condition of a query, and whatever
groups with one member give way to that member, the query is compiled the same: to the same text,
with the same faults and warnings. -/
theorem compile_simplified (query : Query) (settings : CompilerSettings) {members : List Condition}
    (simplified : Relation.ReflTransGen Simplifies query.conditions.members members) :
    (query.setConditions { query.conditions with members }).compile settings =
      query.compile settings := by
  apply compile_of_written
  induction simplified with
  | refl => rfl
  | tail _ step same => rw [step.written_eq, same]

/-- An order is paid. -/
def isPaid : Condition :=
  .leaf { column := "state", value := .scalar (.string "paid") }

/-- An order is large. -/
def isLarge : Condition :=
  .leaf { column := "total", operator := .greater, value := .scalar (.int 99) }

/-- Groups that say nothing, beside and within one that does, and a comparison without a column. -/
def paddedReport : Query :=
  { tables := [{ id := .uniform 1, name := "orders" }]
    conditions :=
      { members := [
          .group .or [.group .and [], .group .or [.group .and []]],
          .group .or [isPaid, .group .and [.group .or [isLarge, .group .and []]]],
          .leaf {}] } }

/-- The empty groups go first, then the groups that are left with one member. -/
theorem paddedReport_simplified :
    (paddedReport.setConditions
      { members := [.group .or [isPaid, isLarge], .leaf {}] }).compile {} =
        paddedReport.compile {} ∧
    (paddedReport.compile {}).sql =
      "SELECT * FROM orders\nWHERE (state = 'paid' OR total > 99)" ∧
    (paddedReport.compile {}).faults = [.unboundCondition] := by
  have beside : Simplifies paddedReport.conditions.members _ :=
    .remove [] _ ⟨.or, [.group .and [], .group .or [.group .and []]]⟩ rfl
  have inside := Simplifies.within [] [.leaf {}] .or
    (.within [isPaid] [] .and (.within [] [] .or (.remove [isLarge] [] {} rfl)))
  have outer := Simplifies.within [] [.leaf {}] .or
    (.unwrap [isPaid] [] .and (.group .or [isLarge]))
  have inner := Simplifies.within [] [.leaf {}] .or (.unwrap [isPaid] [] .or isLarge)
  have steps := (((Relation.ReflTransGen.single beside).tail inside).tail outer).tail inner
  exact ⟨compile_simplified paddedReport {} steps, by decide +kernel, by decide +kernel⟩

end Query

end QueryComposer
