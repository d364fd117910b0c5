import QueryComposer.Query.Basic

set_option autoImplicit false

/-!
Changes to the joins of a query. No change joins a table to itself, and a column is only chosen on
a side whose table is chosen.
-/

namespace QueryComposer.Query

open QueryComposer.Text

/-- Add an inner join with nothing chosen. -/
def addJoin (query : Query) (id : JoinId) : Query :=
  { query with joins := query.joins ++ [{ id }] }

/-- A join by its identity. -/
def join? (query : Query) (id : JoinId) : Option Join :=
  query.joins.find? (fun join => join.id = id)

def requireJoin (query : Query) (id : JoinId) : Except Error Join :=
  match query.join? id with
  | some join => .ok join
  | none => .error (.unknownJoin id)

def editJoin (query : Query) (id : JoinId) (edit : Join → Except Error Join) :
    Except Error Query :=
  (editFirst (fun join => join.id = id) (.unknownJoin id)
    (fun join => (edit join).map (fun edited => ((), edited))) query.joins).map
    (fun (_, joins) => { query with joins })

/-- Choose both tables of a join. -/
def setJoinTables (query : Query) (id : JoinId) (left right : TableId) : Except Error Query :=
  if left = right then .error .selfJoin
  else
    match query.requireTable left, query.requireTable right with
    | .error error, _ => .error error
    | .ok _, .error error => .error error
    | .ok _, .ok _ =>
      query.editJoin id (fun join => .ok ((join.withTable .left left).withTable .right right))

/-- Choose the table of one side of a join. -/
def setJoinTable (query : Query) (id : JoinId) (side : JoinSide) (table : TableId) :
    Except Error Query :=
  match query.requireTable table with
  | .error error => .error error
  | .ok _ =>
    query.editJoin id (fun join =>
      if join.table? side.opposite = some table then .error .selfJoin
      else .ok (join.withTable side table))

/-- A column may be chosen on a side of a join: the side's table is chosen and has such a column,
unless its columns are not known. -/
def checkJoinColumn (query : Query) (join : Join) (side : JoinSide) (column : String) :
    Except Error Unit :=
  match join.table? side with
  | none => .error (.columnBeforeTable side)
  | some id =>
    match query.requireTable id with
    | .error error => .error error
    | .ok table =>
      if table.columns.isEmpty || (table.column? column).isSome then .ok ()
      else .error (.unknownColumn table.name column)

/-- Choose the column of one side of a join; a blank one is none. -/
def setJoinColumn (query : Query) (id : JoinId) (side : JoinSide) (column : Option String) :
    Except Error Query :=
  query.editJoin id (fun join =>
    match column.filter (fun name => !isBlankText name) with
    | none => .ok (join.withColumn none side)
    | some name =>
      (query.checkJoinColumn join side name).map (fun _ => join.withColumn (some name) side))

/-- Choose the columns of both sides, or of none of them. -/
def setJoinColumns (query : Query) (id : JoinId) (left right : Option String) :
    Except Error Query :=
  match query.setJoinColumn id .left left with
  | .error error => .error error
  | .ok changed => changed.setJoinColumn id .right right

/-- Choose the kind of a join. -/
def setJoinKind (query : Query) (id : JoinId) (kind : JoinKind) : Except Error Query :=
  query.editJoin id (fun join => .ok { join with kind })

def removeJoin (query : Query) (id : JoinId) : Except Error (Join × Query) :=
  match takeFirst? (fun join => join.id = id) query.joins with
  | none => .error (.unknownJoin id)
  | some (removed, joins) => .ok (removed, { query with joins })

end QueryComposer.Query
