import QueryComposer.Query.Table

set_option autoImplicit false

/-!
Joins between two tables of a query, and the column pairs that are suggested for them.
-/

namespace QueryComposer

open QueryComposer.Number

/-- The identity of a join within a query. -/
abbrev JoinId := Uuid

/-- Which rows a join keeps. -/
inductive JoinKind
  | inner
  | left
  | right
  | full
deriving DecidableEq, Repr, Inhabited

namespace JoinKind

def all : List JoinKind :=
  [.inner, .left, .right, .full]

def name : JoinKind → String
  | .inner => "INNER"
  | .left => "LEFT"
  | .right => "RIGHT"
  | .full => "FULL"

/-- The kind as it introduces a table in SQL. -/
def keyword (kind : JoinKind) : String :=
  kind.name ++ " JOIN"

/-- The kind that keeps the same rows when the two sides are exchanged. -/
def mirrored : JoinKind → JoinKind
  | .left => .right
  | .right => .left
  | kind => kind

end JoinKind

/-- A side of a join. -/
inductive JoinSide
  | left
  | right
deriving DecidableEq, Repr

namespace JoinSide

def name : JoinSide → String
  | .left => "Left"
  | .right => "Right"

def opposite : JoinSide → JoinSide
  | .left => .right
  | .right => .left

end JoinSide

/-- A pair of columns on which two tables may be joined, and how sure the suggestion is. -/
structure RelationshipSuggestion where
  leftColumn : String
  rightColumn : String
  confidence : Binary64
deriving DecidableEq, Repr

/-- A join whose sides are chosen one by one, with the stored suggestions for its tables. -/
structure Join where
  id : JoinId
  leftTable : Option TableId := none
  leftColumn : Option String := none
  rightTable : Option TableId := none
  rightColumn : Option String := none
  kind : JoinKind := .inner
  suggestions : List RelationshipSuggestion := []
deriving DecidableEq, Repr

namespace Join

/-- Either side is the table. -/
def touches (join : Join) (table : TableId) : Bool :=
  join.leftTable = some table || join.rightTable = some table

/-- Both tables, once both are chosen. -/
def endpoints? (join : Join) : Option (TableId × TableId) :=
  match join.leftTable, join.rightTable with
  | some left, some right => some (left, right)
  | _, _ => none

/-- Both tables and both columns are chosen. -/
def isComplete (join : Join) : Bool :=
  join.endpoints?.isSome && join.leftColumn.isSome && join.rightColumn.isSome

def table? (join : Join) : JoinSide → Option TableId
  | .left => join.leftTable
  | .right => join.rightTable

def column? (join : Join) : JoinSide → Option String
  | .left => join.leftColumn
  | .right => join.rightColumn

/-- Choose the column of a side, or none. -/
def withColumn (join : Join) (column : Option String) : JoinSide → Join
  | .left => { join with leftColumn := column }
  | .right => { join with rightColumn := column }

/-- Choose the table of a side. A table that is not the present one takes the side's column and the
suggestions away. -/
def withTable (join : Join) (side : JoinSide) (table : TableId) : Join :=
  if join.table? side = some table then join
  else
    match side with
    | .left => { join with leftTable := some table, leftColumn := none, suggestions := [] }
    | .right => { join with rightTable := some table, rightColumn := none, suggestions := [] }

end Join

end QueryComposer
