import QueryComposer.Text.Basic
import QueryComposer.Uuid
import QueryComposer.Value.Basic

set_option autoImplicit false

/-!
The tables of a query with their columns, and references to such columns.
-/

namespace QueryComposer

open QueryComposer.Text

/-- The identity of a table within a query. -/
abbrev TableId := Uuid

/-- A function over the rows of a group. -/
inductive Aggregate
  | count
  | sum
  | average
  | maximum
  | minimum
deriving DecidableEq, Repr

namespace Aggregate

def all : List Aggregate :=
  [.count, .sum, .average, .maximum, .minimum]

/-- The name of the function in SQL. -/
def keyword : Aggregate → String
  | .count => "COUNT"
  | .sum => "SUM"
  | .average => "AVG"
  | .maximum => "MAX"
  | .minimum => "MIN"

end Aggregate

/-- A column of a table: whether it is part of the answer, and under which aggregate. -/
structure Column where
  name : String
  type : ValueType
  selected : Bool := false
  aggregate : Option Aggregate := none
deriving DecidableEq, Repr

/-- A table of a query. An empty schema is the default one. -/
structure Table where
  id : TableId
  schema : String := ""
  name : String
  aliasName : Option String := none
  columns : List Column := []
deriving DecidableEq, Repr

namespace Table

/-- The alias, unless it is blank. -/
def shownAlias? (table : Table) : Option String :=
  table.aliasName.filter (fun text => !isBlankText text)

/-- The name in front of the table's columns. -/
def qualifier (table : Table) : String :=
  table.shownAlias?.getD table.name

/-- The name of the table with its schema. -/
def qualifiedName (table : Table) : String :=
  if isBlankText table.schema then table.name else table.schema ++ "." ++ table.name

/-- The table as it is introduced into a query, with its alias. -/
def reference (table : Table) : String :=
  match table.shownAlias? with
  | some text => table.qualifiedName ++ " AS " ++ text
  | none => table.qualifiedName

def column? (table : Table) (name : String) : Option Column :=
  table.columns.find? (fun column => column.name = name)

/-- A column's name behind the name of its table. -/
def qualify (table : Table) (column : String) : String :=
  table.qualifier ++ "." ++ column

end Table

/-- A reference to a column of a table in the query. -/
structure ColumnRef where
  tableId : TableId
  name : String
  type : ValueType
deriving DecidableEq, Repr

/-- The direction of an order. -/
inductive SortDirection
  | ascending
  | descending
deriving DecidableEq, Repr, Inhabited

namespace SortDirection

/-- The direction in SQL. -/
def keyword : SortDirection → String
  | .ascending => "ASC"
  | .descending => "DESC"

end SortDirection

/-- A column to sort by. -/
structure OrderEntry where
  column : ColumnRef
  direction : SortDirection
deriving DecidableEq, Repr

end QueryComposer
