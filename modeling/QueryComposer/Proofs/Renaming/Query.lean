import Mathlib.Logic.Equiv.Basic
import QueryComposer.Proofs.JoinPlan.Accepted
import QueryComposer.Proofs.Renaming.Plan
import QueryComposer.Proofs.Where.Pieces

set_option autoImplicit false

/-!
A query with other identities compiles to the same. Identities say which table a part of the query
refers to and are written nowhere, so that neither the text nor what is said about the query depends
on them, as long as different tables have different ones where they had before.
-/

namespace QueryComposer

variable {rename : TableId → TableId}

/-! ### Conditions -/

/-- The comparison with another identity of its table. -/
def Comparison.renamed (rename : TableId → TableId) (comparison : Comparison) : Comparison :=
  { comparison with tableId := comparison.tableId.map rename }

theorem Comparison.atom_renamed (injective : Function.Injective rename) (tables : List Table)
    (policy : LiteralPolicy) (comparison : Comparison) :
    (comparison.renamed rename).atom (tables.map (Table.renamed rename)) policy =
      comparison.atom tables policy := by
  have column : (comparison.renamed rename).columnText (tables.map (Table.renamed rename)) =
      comparison.columnText tables := by
    unfold columnText renamed
    cases comparison.tableId with
    | none => rfl
    | some id =>
      simp only [Option.map_some, resolveTable?_renamed injective]
      cases resolveTable? tables id <;> rfl
  unfold atom
  rw [column]
  rfl

theorem ConditionGroup.wherePart_renamed (injective : Function.Injective rename)
    (tables : List Table) (policy : LiteralPolicy) (group : ConditionGroup) :
    (group.mapLeaves (Comparison.renamed rename)).wherePart (tables.map (Table.renamed rename))
        policy = group.wherePart tables policy := by
  have same := Comparison.atom_renamed injective tables policy
  apply Prod.ext
  · rw [wherePart_eq_pieces?, wherePart_eq_pieces?, pieces?_mapLeaves]
    simp only [Comparison.atom?, same]
  · rw [wherePart_eq, wherePart_eq, Condition.parts_faults, Condition.parts_faults, mapLeaves,
      Condition.leavesOf_mapLeavesOf, List.flatMap_map]
    simp only [Condition.leafPart, same]

/-! ### Selected columns -/

namespace SelectItem

/-- The selected column of a table with another identity. -/
def renamed (rename : TableId → TableId) (item : SelectItem) : SelectItem :=
  { item with table := item.table.renamed rename }

@[simp] theorem column_renamed (item : SelectItem) :
    (item.renamed rename).column = item.column := rfl

@[simp] theorem qualified_renamed (item : SelectItem) :
    (item.renamed rename).qualified = item.qualified := rfl

@[simp] theorem text_renamed (item : SelectItem) : (item.renamed rename).text = item.text := rfl

end SelectItem

/-! ### Statements -/

namespace Statement

/-- The statement with other identities of its tables. -/
def renamed (injective : Function.Injective rename) (statement : Statement) : Statement :=
  { statement with
    selected := statement.selected.map (SelectItem.renamed rename)
    first := statement.first.renamed rename
    joins := statement.joins.map (JoinClause.renamed injective) }

/-- No identity is part of the text. -/
theorem text_renamed (injective : Function.Injective rename) (statement : Statement) :
    (statement.renamed injective).text = statement.text := by
  have selected : selectText (statement.selected.map (SelectItem.renamed rename)) =
      selectText statement.selected := by
    simp only [selectText, List.isEmpty_map, List.map_map, Function.comp_def,
      SelectItem.text_renamed]
  unfold text lines renamed
  simp only [selected, Table.reference_renamed, List.map_map, Function.comp_def,
    JoinClause.text_renamed]

end Statement

/-! ### Queries -/

/-- The reference to a column of a table with another identity. -/
def ColumnRef.renamed (rename : TableId → TableId) (column : ColumnRef) : ColumnRef :=
  { column with tableId := rename column.tableId }

def OrderEntry.renamed (rename : TableId → TableId) (entry : OrderEntry) : OrderEntry :=
  { entry with column := entry.column.renamed rename }

namespace Query

/-- The query with other identities of its tables and joins, wherever they stand. -/
def renamed (rename : TableId → TableId) (renameJoin : JoinId → JoinId) (query : Query) : Query :=
  { query with
    tables := query.tables.map (Table.renamed rename)
    joins := query.joins.map (Join.renamed rename renameJoin)
    conditions := query.conditions.mapLeaves (Comparison.renamed rename)
    groupBy := query.groupBy.map (ColumnRef.renamed rename)
    orderBy := query.orderBy.map (OrderEntry.renamed rename) }

section Renamed

variable (injective : Function.Injective rename) (renameJoin : JoinId → JoinId)
  (query : Query) (settings : CompilerSettings)

theorem tables_renamed :
    (query.renamed rename renameJoin).tables = query.tables.map (Table.renamed rename) := rfl

theorem groupBy_renamed :
    (query.renamed rename renameJoin).groupBy = query.groupBy.map (ColumnRef.renamed rename) := rfl

theorem orderBy_renamed :
    (query.renamed rename renameJoin).orderBy = query.orderBy.map (OrderEntry.renamed rename) := rfl

theorem selectedItems_renamed :
    (query.renamed rename renameJoin).selectedItems =
      query.selectedItems.map (SelectItem.renamed rename) := by
  simp only [selectedItems, tables_renamed, List.flatMap_map, List.map_flatMap, List.map_map,
    Table.columns_renamed]
  rfl

include injective

theorem groupsBy_renamed (item : SelectItem) :
    (query.renamed rename renameJoin).groupsBy (item.renamed rename) = query.groupsBy item := by
  have same (column : ColumnRef) :
      ((column.renamed rename).tableId = (item.renamed rename).table.id) =
        (column.tableId = item.table.id) :=
    propext injective.eq_iff
  unfold groupsBy
  rw [groupBy_renamed, List.any_map]
  simp only [Function.comp_def, same]
  rfl

theorem selectWarnings_renamed :
    (query.renamed rename renameJoin).selectWarnings = query.selectWarnings := by
  simp only [selectWarnings, selectedItems_renamed, List.any_map, List.filter_map, List.map_map,
    Function.comp_def, SelectItem.column_renamed, SelectItem.qualified_renamed,
    groupsBy_renamed injective]

theorem clauseColumn_renamed (clause : ColumnClause) (column : ColumnRef) :
    (query.renamed rename renameJoin).clauseColumn clause (column.renamed rename) =
      query.clauseColumn clause column := by
  simp only [clauseColumn, tables_renamed, ColumnRef.renamed, resolveTable?_renamed injective]
  cases resolveTable? query.tables column.tableId <;> rfl

theorem groupByColumns_renamed :
    (query.renamed rename renameJoin).groupByColumns = query.groupByColumns := by
  unfold groupByColumns
  rw [groupBy_renamed, List.map_map]
  simp only [Function.comp_def, clauseColumn_renamed injective]

theorem orderByColumns_renamed :
    (query.renamed rename renameJoin).orderByColumns = query.orderByColumns := by
  unfold orderByColumns
  rw [orderBy_renamed, List.map_map]
  simp only [Function.comp_def, OrderEntry.renamed, clauseColumn_renamed injective]

theorem acceptedJoins_renamed :
    (query.renamed rename renameJoin).acceptedJoins settings =
      (query.acceptedJoins settings).renamed injective :=
  AcceptedJoins.ofJoins_renamed injective renameJoin query.tables settings.duplicateJoins 0
    (fun _ _ => iff_of_false List.not_mem_nil List.not_mem_nil) query.joins

theorem joinClauses_renamed :
    (query.renamed rename renameJoin).joinClauses settings =
      (query.joinClauses settings).map (JoinClause.renamed injective) := by
  unfold joinClauses
  rw [acceptedJoins_renamed injective, tables_renamed]
  cases query.tables with
  | nil => rfl
  | cons first others => exact JoinPlan.clausesFor_renamed injective first others _

theorem wherePart_renamed :
    (query.renamed rename renameJoin).wherePart settings = query.wherePart settings :=
  ConditionGroup.wherePart_renamed injective query.tables settings.literalPolicy query.conditions

theorem faults_renamed :
    (query.renamed rename renameJoin).faults settings = query.faults settings := by
  unfold faults
  rw [acceptedJoins_renamed injective, wherePart_renamed injective,
    groupByColumns_renamed injective, orderByColumns_renamed injective]
  rfl

theorem warnings_renamed :
    (query.renamed rename renameJoin).warnings settings = query.warnings settings := by
  unfold warnings
  rw [selectWarnings_renamed injective, acceptedJoins_renamed injective,
    joinClauses_renamed injective, List.filterMap_map]
  simp only [Function.comp_def, JoinClause.warning?_renamed]
  rfl

theorem statement_renamed (first : Table) :
    (query.renamed rename renameJoin).statement settings (first.renamed rename) =
      (query.statement settings first).renamed injective := by
  unfold statement
  rw [selectedItems_renamed, joinClauses_renamed injective, wherePart_renamed injective,
    groupByColumns_renamed injective, orderByColumns_renamed injective]
  rfl

/-- A query under other identities of its tables, different ones for different ones, compiles to the
same text with the same faults and warnings. The identities of joins are not even compared. -/
theorem compile_renamed :
    (query.renamed rename renameJoin).compile settings = query.compile settings := by
  unfold compile
  rw [tables_renamed]
  cases query.tables with
  | nil => rfl
  | cons first others =>
    simp only [List.map_cons, faults_renamed injective, warnings_renamed injective,
      statement_renamed injective, Statement.text_renamed]

end Renamed

/-- Three tables joined in a ring, two of them twice, and one that nothing is joined to. -/
def ringOfOrders : Query :=
  { tables := [
      { id := .uniform 1, name := "users"
        columns := [{ name := "city", type := .string, selected := true }] },
      { id := .uniform 2, name := "orders" }, { id := .uniform 3, name := "items" },
      { id := .uniform 4, name := "notes" }]
    joins := [
      { id := .uniform 1, leftTable := some (.uniform 3), leftColumn := some "order"
        rightTable := some (.uniform 2), rightColumn := some "id" },
      { id := .uniform 2, leftTable := some (.uniform 1), leftColumn := some "id"
        rightTable := some (.uniform 2), rightColumn := some "user", kind := .left },
      { id := .uniform 3, leftTable := some (.uniform 2), leftColumn := some "payer"
        rightTable := some (.uniform 1), rightColumn := some "id" },
      { id := .uniform 4, leftTable := some (.uniform 3), leftColumn := some "owner"
        rightTable := some (.uniform 1), rightColumn := some "id" }]
    conditions :=
      { members := [
          .leaf { tableId := some (.uniform 2), column := "day", operator := .isNull }] }
    orderBy := [⟨⟨.uniform 9, "day", .date⟩, .ascending⟩] }

/-- With the identities of two tables exchanged, so that they change their order, everything
stays. -/
theorem ringOfOrders_renamed :
    (ringOfOrders.renamed (Equiv.swap (.uniform 1) (.uniform 2)) (fun _ => .uniform 7)).compile
        { duplicateJoins := .warn } = ringOfOrders.compile { duplicateJoins := .warn } ∧
    (ringOfOrders.compile { duplicateJoins := .warn }).sql = "SELECT users.city FROM users\n" ++
      "LEFT JOIN orders ON users.id = orders.user AND orders.payer = users.id \n" ++
      "INNER JOIN items ON items.order = orders.id AND items.owner = users.id \n" ++
      "CROSS JOIN notes\nWHERE orders.day IS NULL" ∧
    (ringOfOrders.compile { duplicateJoins := .warn }).faults =
      [.columnOfUnselected .orderBy "day"] ∧
    (ringOfOrders.compile { duplicateJoins := .warn }).warnings =
      [.repeatedJoin 3 "orders" "users", .cartesianProduct "notes"] := by
  refine ⟨compile_renamed (Equiv.injective _) _ _ _, ?_, ?_, ?_⟩
  · decide +kernel
  · decide +kernel
  · decide +kernel

end Query

end QueryComposer
