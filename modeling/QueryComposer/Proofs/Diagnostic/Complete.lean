import QueryComposer.Proofs.Change.Basic
import QueryComposer.Proofs.Diagnostic.Comparisons
import QueryComposer.Proofs.JoinPlan.Predicates

set_option autoImplicit false

/-!
The faults of a compiled query are the defects of its joins, of its comparisons and of the columns
it is grouped and sorted by: one for each that is defective, in their order, and none besides. What
is defective is left out of the statement, and everything else is in it.
-/

namespace QueryComposer

namespace ConditionGroup

variable {tables : List Table} {policy : LiteralPolicy}

theorem faults_wherePart (group : ConditionGroup) :
    (group.wherePart tables policy).2 = group.leaves.filterMap (Comparison.defect? tables) := by
  rw [wherePart_eq, Condition.parts_faults, List.filterMap_eq_flatMap_toList, leaves]
  apply List.flatMap_congr
  intro comparison _
  unfold Condition.leafPart
  cases written : comparison.atom tables policy with
  | error fault => rw [(Comparison.atom_eq_error_iff policy).mp written, Option.toList_some]
  | ok atom =>
    cases defect : comparison.defect? tables with
    | none => rfl
    | some fault =>
      rw [(Comparison.atom_eq_error_iff policy).mpr defect] at written
      contradiction

theorem atoms_wherePart (group : ConditionGroup) :
    (group.wherePart tables policy).1.toList.flatMap WherePart.atoms =
      Query.successes (group.leaves.map (Comparison.atom tables policy)) := by
  rw [wherePart_eq, WherePart.atoms_combine, Condition.atoms_parts, Query.successes,
    List.filterMap_map]
  rfl

end ConditionGroup

namespace Query

/-! ### Defects of a query -/

/-- What is wrong with the query, one fault for each part that is defective. -/
def defects (query : Query) (policy : DuplicateJoinPolicy) : List QueryFault :=
  joinDefects query.tables policy [] query.joins ++
    query.conditions.leaves.filterMap (Comparison.defect? query.tables) ++
    query.groupBy.filterMap (ColumnRef.defect? query.tables .groupBy) ++
    query.orderBy.filterMap (fun entry => entry.column.defect? query.tables .orderBy)

/-- No part of the query is defective. -/
structure IsSound (query : Query) (policy : DuplicateJoinPolicy) : Prop where
  joins : ∀ before join after, query.joins = before ++ join :: after →
    join.defect? query.tables policy before = none
  comparisons : ∀ comparison ∈ query.conditions.leaves, comparison.defect? query.tables = none
  groupBy : ∀ column ∈ query.groupBy, column.defect? query.tables .groupBy = none
  orderBy : ∀ entry ∈ query.orderBy, entry.column.defect? query.tables .orderBy = none

/-- The statement has every part of the query without a defect, and no other. -/
structure ShowsSound (query : Query) (settings : CompilerSettings) (statement : Statement) :
    Prop where
  joins : ∃ accepted,
    List.Forall₂ (Join.AcceptedAs query.tables)
      (soundJoins query.tables settings.duplicateJoins [] query.joins) accepted ∧
    (statement.joins.flatMap JoinClause.predicates).Perm accepted
  comparisons : List.Forall₂
    (fun comparison atom => comparison.atom query.tables settings.literalPolicy = .ok atom)
    (query.conditions.leaves.filter (fun comparison => (comparison.defect? query.tables).isNone))
    (statement.condition.toList.flatMap WherePart.atoms)
  groupBy : List.Forall₂ (ColumnRef.ShownAs query.tables)
    (query.groupBy.filter (fun column => (column.defect? query.tables .groupBy).isNone))
    statement.groupBy
  orderBy : List.Forall₂
    (fun entry shown => entry.column.ShownAs query.tables shown.1 ∧ shown.2 = entry.direction)
    (query.orderBy.filter (fun entry => (entry.column.defect? query.tables .orderBy).isNone))
    statement.orderBy

/-! ### Columns -/

variable (query : Query) (settings : CompilerSettings)

theorem failures_groupByColumns :
    failures query.groupByColumns =
      query.groupBy.filterMap (ColumnRef.defect? query.tables .groupBy) :=
  failures_map_eq_filterMap (fun _ _ => clauseColumn_eq_error_iff) query.groupBy

theorem orderByColumn_eq_error_iff (entry : OrderEntry) (fault : QueryFault) :
    (query.clauseColumn .orderBy entry.column).map (fun column => (column, entry.direction)) =
        .error fault ↔
      entry.column.defect? query.tables .orderBy = some fault := by
  rw [← clauseColumn_eq_error_iff]
  cases query.clauseColumn .orderBy entry.column <;> simp [Except.map]

theorem failures_orderByColumns :
    failures query.orderByColumns =
      query.orderBy.filterMap (fun entry => entry.column.defect? query.tables .orderBy) :=
  failures_map_eq_filterMap query.orderByColumn_eq_error_iff query.orderBy

/-! ### What the statement shows -/

theorem faults_eq_defects : query.faults settings = query.defects settings.duplicateJoins := by
  have joins : (query.acceptedJoins settings).faults =
      joinDefects query.tables settings.duplicateJoins [] query.joins :=
    (AcceptedJoins.ofJoins_eq_defects .nil query.joins).1
  rw [faults, defects, joins, wherePart, ConditionGroup.faults_wherePart, failures_groupByColumns,
    failures_orderByColumns]

/-- A fault of a compiled query is the defect of one of its parts, unless there is no table. -/
theorem mem_faults_cases {query : Query} {settings : CompilerSettings} {fault : QueryFault}
    (member : fault ∈ (query.compile settings).faults) :
    fault = .noTables ∨
    (∃ join ∈ query.joins, ∃ earlier,
      join.defect? query.tables settings.duplicateJoins earlier = some fault) ∨
    (∃ comparison ∈ query.conditions.leaves, comparison.defect? query.tables = some fault) ∨
    ∃ column ∈ query.groupBy ++ query.orderBy.map OrderEntry.column, ∃ clause,
      column.defect? query.tables clause = some fault := by
  unfold compile at member
  split at member
  · exact Or.inl (List.mem_singleton.mp member)
  · refine Or.inr ?_
    rw [faults_eq_defects, defects, joinDefects, List.mem_append, List.mem_append, List.mem_append]
      at member
    rcases member with ((joined | compared) | grouped) | ordered
    · obtain ⟨entry, listed, defect⟩ := List.mem_filterMap.mp joined
      have present := List.mem_map_of_mem (f := Prod.snd) listed
      rw [map_snd_withEarlier] at present
      exact Or.inl ⟨entry.2, present, entry.1, defect⟩
    · exact Or.inr (Or.inl (List.mem_filterMap.mp compared))
    · obtain ⟨column, listed, defect⟩ := List.mem_filterMap.mp grouped
      exact Or.inr (Or.inr ⟨column, List.mem_append_left _ listed, .groupBy, defect⟩)
    · obtain ⟨entry, listed, defect⟩ := List.mem_filterMap.mp ordered
      exact Or.inr (Or.inr ⟨entry.column, List.mem_append_right _ (List.mem_map_of_mem listed),
        .orderBy, defect⟩)

theorem statement_showsSound {first : Table} {others : List Table}
    (tables : query.tables = first :: others) :
    query.ShowsSound settings (query.statement settings first) where
  joins := by
    refine ⟨(query.acceptedJoins settings).joins,
      (AcceptedJoins.ofJoins_eq_defects .nil query.joins).2, ?_⟩
    have predicates := JoinPlan.predicates_run first (query.acceptedJoins settings).joins
    rw [statement, joinClauses_eq settings tables, List.flatMap_append, flatMap_predicates_leftOver,
      List.append_nil]
    exact predicates
  comparisons := by
    rw [statement, wherePart, ConditionGroup.atoms_wherePart]
    exact forall₂_successes_map (fun _ _ => Comparison.atom_eq_error_iff _) query.conditions.leaves
  groupBy := by
    have fails (column : ColumnRef) (fault : QueryFault) :
        query.clauseColumn .groupBy column = .error fault ↔
          column.defect? query.tables .groupBy = some fault :=
      clauseColumn_eq_error_iff
    have shown := forall₂_successes_map fails query.groupBy
    exact shown.imp (fun _ _ => clauseColumn_eq_ok_iff.mp)
  orderBy := by
    have shown := forall₂_successes_map query.orderByColumn_eq_error_iff query.orderBy
    refine shown.imp (fun entry answer written => ?_)
    obtain ⟨text, found, rfl⟩ := Except.map_eq_ok written
    exact ⟨clauseColumn_eq_ok_iff.mp found, rfl⟩

/-! ### Queries without a defect -/

theorem joinDefects_eq_nil_iff {tables : List Table} {policy : DuplicateJoinPolicy}
    {earlier joins : List Join} :
    joinDefects tables policy earlier joins = [] ↔
      ∀ before join after, joins = before ++ join :: after →
        join.defect? tables policy (earlier ++ before) = none := by
  induction joins generalizing earlier with
  | nil => simp [joinDefects, withEarlier]
  | cons join joins induct =>
    rw [joinDefects_cons, List.append_eq_nil_iff, induct]
    constructor
    · rintro ⟨sound, others⟩ before other after split
      cases before with
      | nil =>
        cases split
        simpa using sound
      | cons first before =>
        cases split
        simpa using others before other after rfl
    · intro each
      have sound := each [] join joins rfl
      rw [List.append_nil] at sound
      refine ⟨by rw [sound]; rfl, fun before other after split => ?_⟩
      have later := each (join :: before) other after (congrArg (join :: ·) split)
      simpa using later

theorem defects_eq_nil_iff (policy : DuplicateJoinPolicy) :
    query.defects policy = [] ↔ query.IsSound policy := by
  unfold defects
  rw [List.append_eq_nil_iff, List.append_eq_nil_iff, List.append_eq_nil_iff,
    joinDefects_eq_nil_iff, List.filterMap_eq_nil_iff, List.filterMap_eq_nil_iff,
    List.filterMap_eq_nil_iff]
  exact ⟨fun ⟨⟨⟨joins, comparisons⟩, groupBy⟩, orderBy⟩ => ⟨joins, comparisons, groupBy, orderBy⟩,
    fun sound => ⟨⟨⟨sound.joins, sound.comparisons⟩, sound.groupBy⟩, sound.orderBy⟩⟩

/-- The faults of a query that has a table are the defects of its joins, comparisons and columns.
What is defective is left out of the SQL and everything else is written, and the query is valid when
nothing is defective. -/
theorem compile_reports_defects {first : Table} {others : List Table}
    (tables : query.tables = first :: others) :
    (query.compile settings).faults = query.defects settings.duplicateJoins ∧
    (query.compile settings).sql = (query.statement settings first).text ∧
    query.ShowsSound settings (query.statement settings first) ∧
    ((query.compile settings).isValid = true ↔ query.IsSound settings.duplicateJoins) := by
  have faults : (query.compile settings).faults = query.defects settings.duplicateJoins := by
    rw [← faults_eq_defects, compile, tables]
  refine ⟨faults, compile_sql settings tables, query.statement_showsSound settings tables, ?_⟩
  rw [CompiledQuery.isValid, faults, List.isEmpty_iff, defects_eq_nil_iff]

/-- One part of each kind that is sound, and one with each of the defects. -/
def defectiveReport : Query :=
  { tables := [{ id := .uniform 1, name := "users" }, { id := .uniform 2, name := "orders" }]
    joins := [
      { id := .uniform 1, leftTable := some (.uniform 1) },
      { id := .uniform 2, leftTable := some (.uniform 1), leftColumn := some "id"
        rightTable := some (.uniform 1), rightColumn := some "boss" },
      { id := .uniform 3, leftTable := some (.uniform 1), leftColumn := some "id"
        rightTable := some (.uniform 9), rightColumn := some "user" },
      { id := .uniform 4, leftTable := some (.uniform 1), leftColumn := some "id"
        rightTable := some (.uniform 2), rightColumn := some "user" },
      { id := .uniform 5, leftTable := some (.uniform 2), leftColumn := some "payer"
        rightTable := some (.uniform 1), rightColumn := some "id" }]
    conditions :=
      { members := [
          .leaf {},
          .leaf { column := "state", value := .scalar (.string "paid") },
          .group .or [
            .leaf { tableId := some (.uniform 9), column := "day" },
            .leaf { column := "kind", operator := .among, value := .scalar (.string " , ") },
            .leaf { column := "total", operator := .between, value := .range (.int 1) .null },
            .leaf { column := "note", value := .list [] }]] }
    groupBy := [⟨.uniform 1, "name", .string⟩, ⟨.uniform 9, "name", .string⟩]
    orderBy := [
      ⟨⟨.uniform 9, "day", .date⟩, .ascending⟩, ⟨⟨.uniform 2, "day", .date⟩, .descending⟩] }

theorem defectiveReport_reported :
    (defectiveReport.compile { duplicateJoins := .reject }).faults = [
      .incompleteJoin 1, .selfJoin 2, .joinOfUnselected 3, .repeatedJoin 5 "orders" "users",
      .unboundCondition, .conditionOnUnselected "day", .emptyList .among "kind",
      .missingBound .between "total", .notSingle .equal "note",
      .columnOfUnselected .groupBy "name", .columnOfUnselected .orderBy "day"] ∧
    (defectiveReport.compile { duplicateJoins := .reject }).sql = "SELECT * FROM users\n" ++
      "INNER JOIN orders ON users.id = orders.user \nWHERE state = 'paid'\n" ++
      "GROUP BY users.name\nORDER BY orders.day DESC" ∧
    ¬ defectiveReport.IsSound .reject := by
  have tables : defectiveReport.tables =
      [{ id := .uniform 1, name := "users" }, { id := .uniform 2, name := "orders" }] := rfl
  obtain ⟨faults, _, _, valid⟩ :=
    compile_reports_defects defectiveReport { duplicateJoins := .reject } tables
  refine ⟨faults.trans (by decide +kernel), by decide +kernel, ?_⟩
  rw [← valid]
  decide +kernel

end Query

end QueryComposer
