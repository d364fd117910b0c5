import QueryComposer.Proofs.Condition.Edited
import QueryComposer.Proofs.Diagnostic.Complete

set_option autoImplicit false

/-!
The shapes of values. However a condition is made from an empty one, each of its comparisons holds a
value of the shape that its operator takes, and a comparison whose column is chosen has an operator
for the column's type; no such comparison is refused for its shape.
-/

namespace QueryComposer

/-! ### Operators of a type -/

namespace Operator

/-- The default operator is the first in display order that applies to the type. -/
theorem defaultFor_first (type : ValueType) :
    ∃ before after, all = before ++ defaultFor type :: after ∧
      (defaultFor type).appliesTo type = true ∧
      ∀ operator ∈ before, operator.appliesTo type = false := by
  have present : (all.find? (fun operator => operator.appliesTo type)).isSome = true :=
    List.find?_isSome.mpr ⟨.isNull, by decide, rfl⟩
  obtain ⟨first, found⟩ := Option.isSome_iff_exists.mp present
  have same : defaultFor type = first := by
    rw [defaultFor, available, List.headD_eq_head?_getD, List.head?_filter, found, Option.getD_some]
  obtain ⟨applies, before, after, whole, skipped⟩ := List.find?_eq_some_iff_append.mp found
  rw [same]
  refine ⟨before, after, whole, applies, fun operator member => ?_⟩
  simpa using skipped operator member

end Operator

/-! ### Patches -/

namespace Comparison

/-- The value has the shape that the operator takes, and the operator applies to the column once it
is chosen. -/
structure WellShaped (comparison : Comparison) : Prop where
  fits : comparison.value.fits comparison.operator.arity = true
  applies : comparison.isBound = true → comparison.operator.appliesTo comparison.type = true

theorem emptyFor_fits (type : ValueType) (arity : Arity) :
    (ConditionValue.emptyFor type arity).fits arity = true := by
  cases arity <;> rfl

theorem wellShaped_new : WellShaped {} :=
  ⟨rfl, fun _ => rfl⟩

variable {comparison changed : Comparison}

/-- Another column resets the comparison to the default operator of its type and an empty value. -/
theorem withColumn_of_ne {tableId : Option TableId} {column : String} {type : ValueType}
    (other : (tableId, column, type) ≠ (comparison.tableId, comparison.column, comparison.type)) :
    comparison.withColumn tableId column type =
      { tableId, column, type, operator := Operator.defaultFor type
        value := .emptyFor type (Operator.defaultFor type).arity } := by
  have changes : ¬ ((tableId = comparison.tableId && column = comparison.column &&
      type = comparison.type) = true) := by
    simpa [and_assoc] using other
  rw [withColumn, if_neg changes]

theorem WellShaped.withColumn (shaped : comparison.WellShaped) (tableId : Option TableId)
    (column : String) (type : ValueType) :
    (comparison.withColumn tableId column type).WellShaped := by
  by_cases same :
      (tableId, column, type) = (comparison.tableId, comparison.column, comparison.type)
  · cases same
    simpa [Comparison.withColumn] using shaped
  · obtain ⟨_, _, _, applies, _⟩ := Operator.defaultFor_first type
    rw [withColumn_of_ne same]
    exact ⟨emptyFor_fits type (Operator.defaultFor type).arity, fun _ => applies⟩

theorem wellShaped_withOperator {operator : Operator}
    (done : comparison.withOperator operator = .ok changed) : changed.WellShaped := by
  unfold Comparison.withOperator at done
  split at done
  · contradiction
  · rename_i allowed
    have applies : comparison.isBound = true → operator.appliesTo comparison.type = true := by
      simpa using allowed
    split at done
    · rename_i keeps
      cases done
      exact ⟨(Bool.and_eq_true_iff.mp keeps).2, applies⟩
    · cases done
      exact ⟨emptyFor_fits _ _, applies⟩

theorem WellShaped.withValue (shaped : comparison.WellShaped) {value : ConditionValue}
    (done : comparison.withValue value = .ok changed) : changed.WellShaped := by
  unfold Comparison.withValue at done
  split at done
  · rename_i fits
    cases done
    exact ⟨fits, shaped.applies⟩
  · contradiction

theorem WellShaped.apply (shaped : comparison.WellShaped) {patch : ComparisonPatch}
    (done : comparison.apply patch = .ok changed) : changed.WellShaped := by
  cases patch with
  | column tableId column type =>
    cases done
    exact shaped.withColumn tableId column type
  | operator operator => exact wellShaped_withOperator done
  | value value => exact shaped.withValue done

/-- A comparison is not refused for its shape when the shape is the right one. -/
theorem WellShaped.defect?_ne_notSingle (shaped : comparison.WellShaped) (tables : List Table)
    (operator : Operator) (column : String) :
    comparison.defect? tables ≠ some (.notSingle operator column) := by
  unfold defect?
  split
  · simp
  · split
    · simp
    · split
      · rename_i lacking
        have fits := shaped.fits
        unfold lacksOperands at lacking
        unfold operandFault
        cases arity : comparison.operator.arity <;> simp_all
      · simp

end Comparison

/-! ### Conditions -/

theorem Join.defect?_ne_notSingle (tables : List Table) (policy : DuplicateJoinPolicy)
    (earlier : List Join) (join : Join) (operator : Operator) (column : String) :
    join.defect? tables policy earlier ≠ some (.notSingle operator column) := by
  unfold Join.defect?
  split
  · simp
  · split
    · simp
    · split
      · simp
      · split <;> simp

theorem ColumnRef.defect?_ne_notSingle (tables : List Table) (clause : ColumnClause)
    (reference : ColumnRef) (operator : Operator) (column : String) :
    reference.defect? tables clause ≠ some (.notSingle operator column) := by
  unfold ColumnRef.defect?
  split <;> simp

namespace Query

/-- Only a comparison is refused for its shape. -/
theorem exists_leaf_of_notSingle {query : Query} {settings : CompilerSettings} {operator : Operator}
    {column : String} (reported : .notSingle operator column ∈ (query.compile settings).faults) :
    ∃ comparison ∈ query.conditions.leaves,
      comparison.defect? query.tables = some (.notSingle operator column) := by
  rcases mem_faults_cases reported with none | ⟨join, _, _, defect⟩ | compared | ⟨_, _, _, defect⟩
  · contradiction
  · exact absurd defect (Join.defect?_ne_notSingle _ _ _ _ _ _)
  · exact compared
  · exact absurd defect (ColumnRef.defect?_ne_notSingle _ _ _ _ _)

end Query

namespace ConditionGroup

/-- Every comparison of a condition that is made from the empty one has a value of the shape of its
operator, which applies to the chosen column, so that no query with the condition is refused for a
shape. A patch to another column takes the first operator for the type and an empty value. -/
theorem edited_wellShaped {group : ConditionGroup} (edited : Edited {} group) :
    (∀ comparison ∈ group.leaves, comparison.WellShaped) ∧
    (∀ (query : Query) (settings : CompilerSettings) (operator : Operator) (column : String),
      query.conditions = group →
        .notSingle operator column ∉ (query.compile settings).faults) ∧
    ∀ (comparison : Comparison) tableId column type,
      (tableId, column, type) ≠ (comparison.tableId, comparison.column, comparison.type) →
      ∃ operator before after, Operator.all = before ++ operator :: after ∧
        operator.appliesTo type = true ∧
        (∀ earlier ∈ before, earlier.appliesTo type = false) ∧
        comparison.apply (.column tableId column type) =
          .ok { tableId, column, type, operator, value := .emptyFor type operator.arity } := by
  have shaped : ∀ comparison ∈ group.leaves, comparison.WellShaped :=
    edited.forall_leaves Comparison.wellShaped_new (fun _ _ _ before done => before.apply done)
      (fun _ none => by contradiction)
  refine ⟨shaped, ?_, ?_⟩
  · intro query settings operator column same reported
    obtain ⟨comparison, listed, defect⟩ := Query.exists_leaf_of_notSingle reported
    rw [same] at listed
    exact (shaped comparison listed).defect?_ne_notSingle _ _ _ defect
  · intro comparison tableId column type other
    obtain ⟨before, after, whole, applies, skipped⟩ := Operator.defaultFor_first type
    exact ⟨_, before, after, whole, applies, skipped,
      congrArg Except.ok (Comparison.withColumn_of_ne other)⟩

/-- A comparison of a column, which was between two values before, and a group with one that has an
operator and no column yet. -/
def drafted : ConditionGroup :=
  { members := [
      .leaf { tableId := some (.uniform 1), column := "total", type := .number
              value := .scalar (.int 0) },
      .group .or [.leaf { operator := .among, value := .list [] }]] }

theorem drafted_edited : Edited {} drafted := by
  have first := (Edited.unchanged {}).addLeaf.updateLeaf 0 (.operator .between) rfl
  have bound := first.updateLeaf 0 (.column (some (.uniform 1)) "total" .number) rfl
  have replacement := (Edited.unchanged {}).addLeaf.withLogic .or
  have grouped := bound.addGroup.updateGroup 1 replacement rfl
  have nested := (Edited.unchanged ⟨.or, [.leaf {}]⟩).updateLeaf 0 (.operator .among) rfl
  exact grouped.updateAt [1] (fun inner => inner.updateLeaf 0 (.operator .among)) rfl rfl nested rfl

theorem drafted_wellShaped :
    Edited {} drafted ∧ (∀ comparison ∈ drafted.leaves, comparison.WellShaped) ∧
    ∀ operator column, .notSingle operator column ∉
      (({ tables := [{ id := .uniform 1, name := "orders" }], conditions := drafted } :
        Query).compile {}).faults := by
  obtain ⟨shaped, reported, _⟩ := edited_wellShaped drafted_edited
  exact ⟨drafted_edited, shaped, fun operator column => reported _ _ operator column rfl⟩

end ConditionGroup

end QueryComposer
