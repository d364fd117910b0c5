import QueryComposer.Query.Suggestion

set_option autoImplicit false

/-!
Changes of a query in place: they look things up and write one part of the query after the other.
A change that stops with an error keeps what it has written so far, so that it is up to each of them
to check before it writes, or to put back what it wrote.
-/

namespace QueryComposer

open QueryComposer.Text

/-- A change of a query in place, with an answer. -/
abbrev QueryUpdate (α : Type) :=
  ExceptT Error (StateM Query) α

namespace QueryUpdate

/-! ### Reading and writing -/

/-- Look something up, which may fail. -/
def read {α : Type} (question : Query → Except Error α) : QueryUpdate α :=
  fun query => (question query, query)

/-- Look something up that may be missing. -/
def require {α : Type} (missing : Error) (question : Query → Option α) : QueryUpdate α :=
  read (fun query =>
    match question query with
    | some found => .ok found
    | none => .error missing)

def write (change : Query → Query) : QueryUpdate Unit :=
  fun query => (.ok (), change query)

/-- Write to the first table with an identity, if there is one. -/
def writeTable (id : TableId) (change : Table → Table) : QueryUpdate Unit :=
  write (fun query =>
    { query with tables := modifyFirst (fun table => table.id = id) change query.tables })

def writeColumn (id : TableId) (name : String) (change : Column → Column) : QueryUpdate Unit :=
  writeTable id (fun table =>
    { table with columns := modifyFirst (fun column => column.name = name) change table.columns })

/-- Write to the first join with an identity, if there is one. -/
def writeJoin (id : JoinId) (change : Join → Join) : QueryUpdate Unit :=
  write (fun query =>
    { query with joins := modifyFirst (fun join => join.id = id) change query.joins })

def requireTable (id : TableId) : QueryUpdate Table :=
  read (fun query => query.requireTable id)

def requireColumn (id : TableId) (name : String) : QueryUpdate Column := do
  let table ← requireTable id
  require (.unknownColumn table.name name) (fun _ => table.column? name)

def requireJoin (id : JoinId) : QueryUpdate Join :=
  read (fun query => query.requireJoin id)

/-! ### Tables and columns -/

/-- Remove a table, then one kind after the other what refers to it. -/
def removeTable (id : TableId) : QueryUpdate Table := do
  let (removed, tables) ← require (.unknownTable id) (fun query =>
    takeFirst? (fun table => table.id = id) query.tables)
  write (fun query => { query with tables })
  write (fun query => { query with joins := query.joins.filter (fun join => !join.touches id) })
  write (fun query =>
    { query with
      conditions := query.conditions.retainLeaves (fun comparison => !comparison.references id) })
  write (fun query =>
    { query with groupBy := query.groupBy.filter (fun column => column.tableId ≠ id) })
  write (fun query =>
    { query with orderBy := query.orderBy.filter (fun entry => entry.column.tableId ≠ id) })
  return removed

def setAlias (id : TableId) (name : Option String) : QueryUpdate Unit := do
  let _ ← requireTable id
  writeTable id (fun table =>
    { table with aliasName := name.filter (fun text => !isBlankText text) })

def toggleColumn (id : TableId) (name : String) : QueryUpdate Bool := do
  let column ← requireColumn id name
  writeColumn id name (fun column => { column with selected := !column.selected })
  return !column.selected

def setAggregate (id : TableId) (name : String) (aggregate : Option Aggregate) :
    QueryUpdate Unit := do
  let _ ← requireColumn id name
  if aggregate.isSome then
    writeColumn id name (fun column => { column with selected := true })
  writeColumn id name (fun column => { column with aggregate })

/-! ### Grouping, order and conditions -/

def addGroupBy (column : ColumnRef) : QueryUpdate Unit := do
  let _ ← read (fun query => query.columnRef column.tableId column.name)
  let grouped ← read (fun query => .ok (query.groupBy.contains column))
  unless grouped do
    write (fun query => { query with groupBy := query.groupBy ++ [column] })

def removeGroupBy (index : Nat) : QueryUpdate ColumnRef := do
  let removed ← require (.noGroupByEntry index) (fun query => query.groupBy[index]?)
  write (fun query => { query with groupBy := query.groupBy.eraseIdx index })
  return removed

def addOrderBy (column : ColumnRef) (direction : SortDirection) : QueryUpdate Unit := do
  let _ ← read (fun query => query.columnRef column.tableId column.name)
  write (fun query =>
    { query with orderBy := Query.withOrderEntry column direction query.orderBy })

def removeOrderBy (index : Nat) : QueryUpdate OrderEntry := do
  let removed ← require (.noOrderByEntry index) (fun query => query.orderBy[index]?)
  write (fun query => { query with orderBy := query.orderBy.eraseIdx index })
  return removed

def updateConditions (edit : ConditionGroup → Except Error ConditionGroup) :
    QueryUpdate Unit := do
  let conditions ← read (fun query => edit query.conditions)
  write (fun query => query.setConditions conditions)

/-! ### Joins -/

def setJoinTables (id : JoinId) (left right : TableId) : QueryUpdate Unit := do
  if left = right then throw .selfJoin
  let _ ← requireTable left
  let _ ← requireTable right
  let _ ← requireJoin id
  writeJoin id (fun join => join.withTable .left left)
  writeJoin id (fun join => join.withTable .right right)

def setJoinTable (id : JoinId) (side : JoinSide) (table : TableId) : QueryUpdate Unit := do
  let _ ← requireTable table
  let join ← requireJoin id
  if join.table? side.opposite = some table then throw .selfJoin
  writeJoin id (fun join => join.withTable side table)

def setJoinColumn (id : JoinId) (side : JoinSide) (column : Option String) :
    QueryUpdate Unit := do
  let chosen := column.filter (fun name => !isBlankText name)
  let join ← requireJoin id
  match chosen with
  | none => pure ()
  | some name => read (fun query => query.checkJoinColumn join side name)
  writeJoin id (fun join => join.withColumn chosen side)

/-- Choose the left column and then the right one. When the right one is refused, the join that was
there before is put back. -/
def setJoinColumns (id : JoinId) (left right : Option String) : QueryUpdate Unit := do
  let before ← read (fun query => .ok (query.join? id))
  setJoinColumn id .left left
  try
    setJoinColumn id .right right
  catch error =>
    match before with
    | none => pure ()
    | some join => writeJoin id (fun _ => join)
    throw error

def setJoinKind (id : JoinId) (kind : JoinKind) : QueryUpdate Unit := do
  let _ ← requireJoin id
  writeJoin id (fun join => { join with kind })

def removeJoin (id : JoinId) : QueryUpdate Join := do
  let (removed, joins) ← require (.unknownJoin id) (fun query =>
    takeFirst? (fun join => join.id = id) query.joins)
  write (fun query => { query with joins })
  return removed

end QueryUpdate

end QueryComposer
