import QueryComposer.FirstMatch
import QueryComposer.Query.ConditionEdit

set_option autoImplicit false

/-!
Queries: their tables, joins, condition, grouping, order and paging, with the changes that can be
made to them. A change gives the changed query or the reason why there is none.
-/

namespace QueryComposer

open QueryComposer.Text

/-- A query. The first table is the one it starts from. -/
structure Query where
  tables : List Table := []
  joins : List Join := []
  conditions : ConditionGroup := {}
  groupBy : List ColumnRef := []
  orderBy : List OrderEntry := []
  limit : Option UInt64 := none
  offset : Option UInt64 := none
deriving Repr

instance : Inhabited Query := ⟨{}⟩

namespace Query

/-! ### Tables -/

/-- The query has no table. -/
def isEmpty (query : Query) : Bool :=
  query.tables.isEmpty

/-- Add a table at the end. -/
def addTable (query : Query) (table : Table) : Query :=
  { query with tables := query.tables ++ [table] }

/-- A table by its identity. -/
def table? (query : Query) (id : TableId) : Option Table :=
  query.tables.find? (fun table => table.id = id)

def requireTable (query : Query) (id : TableId) : Except Error Table :=
  match query.table? id with
  | some table => .ok table
  | none => .error (.unknownTable id)

def editTable {α : Type} (query : Query) (id : TableId)
    (edit : Table → Except Error (α × Table)) : Except Error (α × Query) :=
  (editFirst (fun table => table.id = id) (.unknownTable id) edit query.tables).map
    (fun (answer, tables) => (answer, { query with tables }))

/-- Remove a table and everything that refers to it. -/
def removeTable (query : Query) (id : TableId) : Except Error (Table × Query) :=
  match takeFirst? (fun table => table.id = id) query.tables with
  | none => .error (.unknownTable id)
  | some (removed, tables) =>
    .ok (removed,
      { query with
        tables
        joins := query.joins.filter (fun join => !join.touches id)
        conditions := query.conditions.retainLeaves (fun comparison => !comparison.references id)
        groupBy := query.groupBy.filter (fun column => column.tableId ≠ id)
        orderBy := query.orderBy.filter (fun entry => entry.column.tableId ≠ id) })

/-- Any part of the query refers to the table. -/
def referencesTable (query : Query) (id : TableId) : Bool :=
  query.tables.any (fun table => table.id = id) ||
    query.joins.any (fun join => join.touches id) ||
    query.conditions.leaves.any (fun comparison => comparison.references id) ||
    query.groupBy.any (fun column => column.tableId = id) ||
    query.orderBy.any (fun entry => entry.column.tableId = id)

/-- Give a table an alias or take it away; a blank one is none. -/
def setAlias (query : Query) (id : TableId) (name : Option String) : Except Error Query :=
  (query.editTable id (fun table =>
    .ok ((), { table with aliasName := name.filter (fun text => !isBlankText text) }))).map
      Prod.snd

/-! ### Columns -/

def editColumn {α : Type} (query : Query) (id : TableId) (name : String)
    (edit : Column → α × Column) : Except Error (α × Query) :=
  query.editTable id (fun table =>
    (editFirst (fun column => column.name = name) (.unknownColumn table.name name)
      (fun column => .ok (edit column)) table.columns).map
      (fun (answer, columns) => (answer, { table with columns })))

/-- Select a column or leave it out, whichever it is not; the answer is the new state. -/
def toggleColumn (query : Query) (id : TableId) (name : String) : Except Error (Bool × Query) :=
  query.editColumn id name (fun column =>
    (!column.selected, { column with selected := !column.selected }))

/-- Put a column under an aggregate, which also selects it, or under none. -/
def setAggregate (query : Query) (id : TableId) (name : String) (aggregate : Option Aggregate) :
    Except Error Query :=
  (query.editColumn id name (fun column =>
    ((), { column with aggregate, selected := column.selected || aggregate.isSome }))).map Prod.snd

/-- The reference to a column. -/
def columnRef (query : Query) (id : TableId) (name : String) : Except Error ColumnRef :=
  match query.requireTable id with
  | .error error => .error error
  | .ok table =>
    match table.column? name with
    | none => .error (.unknownColumn table.name name)
    | some column => .ok { tableId := id, name := column.name, type := column.type }

/-! ### Grouping and order -/

/-- Group by a column, once. -/
def addGroupBy (query : Query) (column : ColumnRef) : Except Error Query :=
  (query.columnRef column.tableId column.name).map (fun _ =>
    if query.groupBy.contains column then query
    else { query with groupBy := query.groupBy ++ [column] })

/-- Remove the entry at an index from the grouping. -/
def removeGroupBy (query : Query) (index : Nat) : Except Error (ColumnRef × Query) :=
  match query.groupBy[index]? with
  | none => .error (.noGroupByEntry index)
  | some removed => .ok (removed, { query with groupBy := query.groupBy.eraseIdx index })

/-- The order with a column at its end, or with another direction where it stands already. -/
def withOrderEntry (column : ColumnRef) (direction : SortDirection) :
    List OrderEntry → List OrderEntry
  | [] => [{ column, direction }]
  | entry :: entries =>
    if entry.column = column then { entry with direction } :: entries
    else entry :: withOrderEntry column direction entries

def addOrderBy (query : Query) (column : ColumnRef) (direction : SortDirection) :
    Except Error Query :=
  (query.columnRef column.tableId column.name).map (fun _ =>
    { query with orderBy := withOrderEntry column direction query.orderBy })

def removeOrderBy (query : Query) (index : Nat) : Except Error (OrderEntry × Query) :=
  match query.orderBy[index]? with
  | none => .error (.noOrderByEntry index)
  | some removed => .ok (removed, { query with orderBy := query.orderBy.eraseIdx index })

/-! ### Paging and conditions -/

/-- Limit the number of rows, or do not. -/
def setLimit (query : Query) (limit : Option UInt64) : Query :=
  { query with limit }

/-- Skip a number of rows, or none. -/
def setOffset (query : Query) (offset : Option UInt64) : Query :=
  { query with offset }

/-- Another condition. -/
def setConditions (query : Query) (conditions : ConditionGroup) : Query :=
  { query with conditions }

/-- Change the condition. -/
def updateConditions (query : Query) (edit : ConditionGroup → Except Error ConditionGroup) :
    Except Error Query :=
  (edit query.conditions).map query.setConditions

end Query

end QueryComposer
