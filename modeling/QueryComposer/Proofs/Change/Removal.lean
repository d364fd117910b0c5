import QueryComposer.Proofs.Change.References
import QueryComposer.Proofs.Diagnostic.Complete

set_option autoImplicit false

/-!
Removing a table takes away what names it and nothing else. A query that names only its own tables
has no fault about a table that is not selected, and is still one after the removal.
-/

namespace QueryComposer

/-- What is wrong is that a table is named that the query does not have. -/
def QueryFault.namesUnselected : QueryFault → Bool
  | .joinOfUnselected _ | .conditionOnUnselected _ | .columnOfUnselected .. => true
  | .noTables | .incompleteJoin _ | .selfJoin _ | .repeatedJoin .. | .unboundCondition
  | .emptyList .. | .missingBound .. | .notSingle .. => false

/-! ### Faults about tables -/

theorem Join.NamesOnly.isSelected {tables : List Table} {join : Join}
    (known : join.NamesOnly (tables.map Table.id)) : join.isSelected tables = true := by
  unfold Join.isSelected
  rw [List.all_eq_true]
  intro id chosen
  rw [List.mem_append, Option.mem_toList, Option.mem_toList] at chosen
  exact hasTable_iff.mpr (known id ((join.touches_iff id).mpr chosen))

theorem Join.namesUnselected_of_defect? {tables : List Table} {policy : DuplicateJoinPolicy}
    {earlier : List Join} {join : Join} {fault : QueryFault}
    (known : join.NamesOnly (tables.map Table.id))
    (defect : join.defect? tables policy earlier = some fault) :
    fault.namesUnselected = false := by
  unfold defect? at defect
  simp only [known.isSelected, Bool.not_true, Bool.false_eq_true, if_false] at defect
  split at defect
  · cases defect
    rfl
  · split at defect
    · cases defect
      rfl
    · split at defect
      · cases defect
        rfl
      · contradiction

theorem Comparison.namesUnselected_operandFault (comparison : Comparison) :
    comparison.operandFault.namesUnselected = false := by
  unfold operandFault
  cases comparison.operator.arity <;> rfl

theorem Comparison.namesUnselected_of_defect? {tables : List Table} {comparison : Comparison}
    {fault : QueryFault} (known : ∀ id, comparison.tableId = some id → id ∈ tables.map Table.id)
    (defect : comparison.defect? tables = some fault) : fault.namesUnselected = false := by
  have selected : comparison.tableId.any (fun id => !hasTable tables id) = false := by
    cases chosen : comparison.tableId with
    | none => rfl
    | some id => simp [hasTable_iff.mpr (known id chosen)]
  unfold defect? at defect
  rw [selected] at defect
  split at defect
  · cases defect
    rfl
  · simp only [Bool.false_eq_true, if_false] at defect
    split at defect
    · cases defect
      exact comparison.namesUnselected_operandFault
    · contradiction

namespace Query

/-- A query that names only its own tables lacks no table. -/
theorem RefersWithin.namesUnselected_of_mem_faults {query : Query} (within : query.RefersWithin)
    (settings : CompilerSettings) {fault : QueryFault}
    (member : fault ∈ (query.compile settings).faults) : fault.namesUnselected = false := by
  obtain ⟨joins, conditions, groupBy, orderBy⟩ := (refersWithin_iff query).mp within
  rcases mem_faults_cases member with rfl | ⟨join, listed, _, defect⟩ |
    ⟨comparison, listed, defect⟩ | ⟨column, listed, clause, defect⟩
  · rfl
  · exact Join.namesUnselected_of_defect? (joins join listed) defect
  · exact Comparison.namesUnselected_of_defect? (conditions comparison listed) defect
  · have known : column.tableId ∈ query.tableIds := by
      rcases List.mem_append.mp listed with grouped | ordered
      · exact groupBy column grouped
      · obtain ⟨entry, present, rfl⟩ := List.mem_map.mp ordered
        exact orderBy entry present
    rw [ColumnRef.defect?, if_pos (hasTable_iff.mpr known)] at defect
    contradiction

/-! ### The removal -/

/-- Of tables with distinct identities, the others are left in their order. -/
theorem takeFirst?_table {tables rest : List Table} {id : TableId} {taken : Table}
    (distinct : (tables.map Table.id).Nodup)
    (found : takeFirst? (fun table => table.id = id) tables = some (taken, rest)) :
    rest = tables.filter (fun table => table.id ≠ id) := by
  obtain ⟨before, after, rfl, rfl, earlier⟩ := takeFirst?_split found
  have same : taken.id = id := by simpa using takeFirst?_meets found
  rw [List.map_append, List.map_cons] at distinct
  obtain ⟨_, apart, _⟩ := List.nodup_append.mp distinct
  -- Only the first table with the identity is taken, so that another one behind it would be left.
  have later : ∀ table ∈ after, decide (table.id ≠ id) = true := by
    intro table member
    apply decide_eq_true
    rintro rfl
    exact (List.nodup_cons.mp apart).1 (same ▸ List.mem_map_of_mem member)
  have sooner : ∀ table ∈ before, decide (table.id ≠ id) = true := by
    intro table member
    simpa using earlier table member
  rw [List.filter_append, List.filter_cons_of_neg (by simpa using same),
    List.filter_eq_self.mpr sooner, List.filter_eq_self.mpr later]

theorem any_filter_eq_false {α : Type} {refers kept : α → Bool}
    (apart : ∀ item, kept item = !refers item) (items : List α) :
    (items.filter kept).any refers = false := by
  rw [List.any_eq_false]
  intro item member
  have left := (List.mem_filter.mp member).2
  rw [apart item] at left
  simpa using left

/-- Nothing in a query refers to a table when all that does was filtered out. -/
theorem referencesTable_eq_false {query changed : Query} {id : TableId}
    (tables : changed.tables = query.tables.filter (fun table => table.id ≠ id))
    (joins : changed.joins = query.joins.filter (fun join => !join.touches id))
    (leaves : changed.conditions.leaves =
      query.conditions.leaves.filter (fun comparison => !comparison.references id))
    (groupBy : changed.groupBy = query.groupBy.filter (fun column => column.tableId ≠ id))
    (orderBy : changed.orderBy = query.orderBy.filter (fun entry => entry.column.tableId ≠ id)) :
    changed.referencesTable id = false := by
  unfold referencesTable
  rw [tables, joins, leaves, groupBy, orderBy,
    any_filter_eq_false (fun table => decide_not),
    any_filter_eq_false (fun join => rfl),
    any_filter_eq_false (fun comparison => rfl),
    any_filter_eq_false (fun column => decide_not),
    any_filter_eq_false (fun entry => decide_not)]
  rfl

/-- Removing a selected table takes away the table and what names it. All the rest is as before and
in the same order, the groups of the condition with their connectives too; and a query that names
only its own tables still lacks none. -/
theorem removeTable_takes_references (query : Query) (id : TableId)
    (distinct : (query.tables.map Table.id).Nodup) (selected : id ∈ query.tables.map Table.id) :
    ∃ removed changed, query.removeTable id = .ok (removed, changed) ∧
      removed ∈ query.tables ∧ removed.id = id ∧
      changed.referencesTable id = false ∧
      changed.tables = query.tables.filter (fun table => table.id ≠ id) ∧
      changed.joins = query.joins.filter (fun join => !join.touches id) ∧
      changed.groupBy = query.groupBy.filter (fun column => column.tableId ≠ id) ∧
      changed.orderBy = query.orderBy.filter (fun entry => entry.column.tableId ≠ id) ∧
      changed.limit = query.limit ∧ changed.offset = query.offset ∧
      changed.conditions.visits = query.conditions.visits.filter
        (Visit.isKept (fun comparison => !comparison.references id)) ∧
      changed.conditions.leaves = query.conditions.leaves.filter
        (fun comparison => !comparison.references id) ∧
      (query.RefersWithin → ∀ settings, ∀ fault ∈ (changed.compile settings).faults,
        fault.namesUnselected = false) := by
  have present : (takeFirst? (fun table => table.id = id) query.tables).isSome = true := by
    rw [isSome_takeFirst?, List.any_eq_true]
    obtain ⟨table, member, same⟩ := List.mem_map.mp selected
    exact ⟨table, member, decide_eq_true same⟩
  obtain ⟨⟨removed, rest⟩, found⟩ := Option.isSome_iff_exists.mp present
  have others := takeFirst?_table distinct found
  obtain ⟨before, after, whole, _, _⟩ := takeFirst?_split found
  have done : query.removeTable id = .ok (removed,
      { query with
        tables := rest
        joins := query.joins.filter (fun join => !join.touches id)
        conditions := query.conditions.retainLeaves (fun comparison => !comparison.references id)
        groupBy := query.groupBy.filter (fun column => column.tableId ≠ id)
        orderBy := query.orderBy.filter (fun entry => entry.column.tableId ≠ id) }) := by
    unfold removeTable
    rw [found]
  refine ⟨removed, _, done, ?_, ?_, ?_, others, rfl, rfl, rfl, rfl, rfl,
    query.conditions.visits_retainLeaves _, query.conditions.leaves_retainLeaves _, ?_⟩
  · rw [whole]
    exact List.mem_append_right _ List.mem_cons_self
  · simpa using takeFirst?_meets found
  · exact referencesTable_eq_false others rfl (query.conditions.leaves_retainLeaves _) rfl rfl
  · intro within settings fault member
    have effect : (QueryChange.removeTable id).Effect query _ :=
      .removeTable (congrArg (Except.map Prod.snd) done)
    exact (within.of_effect effect trivial).namesUnselected_of_mem_faults settings member

private def comparisonOf (digit : Nat) (column : String) : Comparison :=
  { tableId := some (.uniform digit), column, value := .scalar (.string "x") }

/-- Users with their orders; the only comparison of an inner group is one of the orders. -/
def ordersReport : Query :=
  { tables := [{ id := .uniform 1, name := "users" }, { id := .uniform 2, name := "orders" }]
    joins := [
      { id := .uniform 3
        leftTable := some (.uniform 1)
        leftColumn := some "id"
        rightTable := some (.uniform 2)
        rightColumn := some "user_id" }]
    conditions :=
      { members := [.leaf (comparisonOf 2 "state"), .leaf (comparisonOf 1 "name"),
          .group .or [.leaf (comparisonOf 2 "total")]] }
    groupBy := [{ tableId := .uniform 2, name := "state", type := .string },
      { tableId := .uniform 1, name := "name", type := .string }]
    limit := some 10 }

theorem ordersReport_without_orders :
    ordersReport.RefersWithin ∧
    ∃ removed changed, ordersReport.removeTable (.uniform 2) = .ok (removed, changed) ∧
      changed.referencesTable (.uniform 2) = false ∧
      changed.conditions.visits =
        [.enter .and, .leaf (comparisonOf 1 "name"), .enter .or, .leave, .leave] ∧
      ∀ settings, ∀ fault ∈ (changed.compile settings).faults, fault.namesUnselected = false := by
  have within : ordersReport.RefersWithin := by
    unfold RefersWithin
    decide
  obtain ⟨removed, changed, done, _, _, gone, _, _, _, _, _, _, visits, _, faults⟩ :=
    removeTable_takes_references ordersReport (.uniform 2) (by decide) (by decide)
  exact ⟨within, removed, changed, done, gone, visits, faults within⟩

end Query

end QueryComposer
