import QueryComposer.Query.Basic
import QueryComposer.Sql.JoinPlan

set_option autoImplicit false

/-!
A query as an SQL statement: what is selected, how the tables are introduced, which rows are kept,
and how they are grouped, sorted and paged; each part is a line of the text. A query that lacks
something has its faults beside what can be written of it.
-/

namespace QueryComposer

open QueryComposer.Text

/-- How queries are compiled. -/
structure CompilerSettings where
  literalPolicy : LiteralPolicy := .permissive
  duplicateJoins : DuplicateJoinPolicy := .allow
deriving DecidableEq, Repr

/-! ### Statements -/

/-- A selected column with its aggregate. -/
structure SelectItem where
  table : Table
  column : Column
deriving DecidableEq, Repr

namespace SelectItem

/-- The column behind the qualifier of its table. -/
def qualified (item : SelectItem) : String :=
  item.table.qualify item.column.name

/-- The column under its aggregate. -/
def text (item : SelectItem) : String :=
  match item.column.aggregate with
  | some aggregate => aggregate.keyword ++ "(" ++ item.qualified ++ ")"
  | none => item.qualified

end SelectItem

/-- An SQL statement. -/
structure Statement where
  selected : List SelectItem
  first : Table
  joins : List JoinClause
  condition : WherePart
  groupBy : List String
  orderBy : List (String × SortDirection)
  limit : Option UInt64
  offset : Option UInt64
deriving Repr

namespace Statement

/-- The selected columns, or a star. -/
def selectText (selected : List SelectItem) : String :=
  if selected.isEmpty then "SELECT *"
  else "SELECT " ++ join ", " (selected.map SelectItem.text)

/-- A clause with a list of columns, unless the list is empty. -/
def columnsLine (clause : ColumnClause) (columns : List String) : List String :=
  if columns.isEmpty then [] else [clause.keyword ++ " " ++ join ", " columns]

/-- The lines about paging. An offset needs a limit, and none is written that skips nothing. -/
def pagingLines (limit offset : Option UInt64) : List String :=
  match limit with
  | none => []
  | some rows =>
    ("LIMIT " ++ toString rows.toNat) ::
      (offset.filter (fun skipped => 0 < skipped)).toList.map (fun skipped =>
        "OFFSET " ++ toString skipped.toNat)

def lines (statement : Statement) : List String :=
  (selectText statement.selected ++ " FROM " ++ statement.first.reference) ::
    (statement.joins.map JoinClause.text ++
      (statement.condition.map (fun tokens => "WHERE " ++ WherePart.text tokens)).toList ++
      columnsLine .groupBy statement.groupBy ++
      columnsLine .orderBy (statement.orderBy.map (fun (column, direction) =>
        column ++ " " ++ direction.keyword)) ++
      pagingLines statement.limit statement.offset)

def text (statement : Statement) : String :=
  join "\n" statement.lines

end Statement

/-! ### Compiled queries -/

/-- The text of a query, with what it lacks and what is suspicious about it. -/
structure CompiledQuery where
  sql : String
  faults : List QueryFault
  warnings : List QueryWarning
deriving DecidableEq, Repr

namespace CompiledQuery

/-- The query lacks nothing. -/
def isValid (compiled : CompiledQuery) : Bool :=
  compiled.faults.isEmpty

/-- The text of a query that lacks nothing. -/
def sql? (compiled : CompiledQuery) : Except Error String :=
  if compiled.isValid then .ok compiled.sql else .error (.notCompiled compiled.faults)

def toJson (compiled : CompiledQuery) : Json :=
  .object [("sql", .string compiled.sql), ("valid", .bool compiled.isValid),
    ("errors", .array (compiled.faults.map (fun fault => .string fault.message))),
    ("warnings", .array (compiled.warnings.map (fun warning => .string warning.message)))]

end CompiledQuery

namespace Query

/-- The selected columns in the order of the tables. -/
def selectedItems (query : Query) : List SelectItem :=
  query.tables.flatMap (fun table =>
    (table.columns.filter Column.selected).map (fun column => { table, column }))

/-- The query is grouped by the column. -/
def groupsBy (query : Query) (item : SelectItem) : Bool :=
  query.groupBy.any (fun column =>
    column.tableId = item.table.id && column.name = item.column.name)

/-- One warning for each column that stands beside aggregates without being grouped. -/
def selectWarnings (query : Query) : List QueryWarning :=
  let items := query.selectedItems
  if items.any (fun item => item.column.aggregate.isSome) then
    (items.filter (fun item => item.column.aggregate.isNone && !query.groupsBy item)).map
      (fun item => .ungroupedColumn item.qualified)
  else []

/-- A column of a clause behind the qualifier of its table. -/
def clauseColumn (query : Query) (clause : ColumnClause) (column : ColumnRef) :
    Except QueryFault String :=
  match resolveTable? query.tables column.tableId with
  | some table => .ok (table.qualify column.name)
  | none => .error (.columnOfUnselected clause column.name)

def successes {α ε : Type} (results : List (Except ε α)) : List α :=
  results.filterMap Except.toOption

/-- The errors in place of results. -/
def failures {α ε : Type} (results : List (Except ε α)) : List ε :=
  results.filterMap (fun
    | .ok _ => none
    | .error error => some error)

def groupByColumns (query : Query) : List (Except QueryFault String) :=
  query.groupBy.map (query.clauseColumn .groupBy)

def orderByColumns (query : Query) : List (Except QueryFault (String × SortDirection)) :=
  query.orderBy.map (fun entry =>
    (query.clauseColumn .orderBy entry.column).map (fun column => (column, entry.direction)))

def acceptedJoins (query : Query) (settings : CompilerSettings) : AcceptedJoins :=
  AcceptedJoins.ofJoins query.tables settings.duplicateJoins 0 [] query.joins

/-- The clauses that introduce all tables after the first. -/
def joinClauses (query : Query) (settings : CompilerSettings) : List JoinClause :=
  match query.tables with
  | [] => []
  | first :: others => JoinPlan.clausesFor first others (query.acceptedJoins settings).joins

/-- The condition, with its faults. -/
def wherePart (query : Query) (settings : CompilerSettings) : WherePart × List QueryFault :=
  query.conditions.wherePart query.tables settings.literalPolicy

/-- What the query lacks. -/
def faults (query : Query) (settings : CompilerSettings) : List QueryFault :=
  (query.acceptedJoins settings).faults ++ (query.wherePart settings).2 ++
    failures query.groupByColumns ++ failures query.orderByColumns

/-- What is suspicious about the query. -/
def warnings (query : Query) (settings : CompilerSettings) : List QueryWarning :=
  query.selectWarnings ++ (query.acceptedJoins settings).warnings ++
    (query.joinClauses settings).filterMap JoinClause.warning?

def statement (query : Query) (settings : CompilerSettings) (first : Table) : Statement :=
  { selected := query.selectedItems
    first
    joins := query.joinClauses settings
    condition := (query.wherePart settings).1
    groupBy := successes query.groupByColumns
    orderBy := successes query.orderByColumns
    limit := query.limit
    offset := query.offset }

/-- The query in SQL. Without a table there is nothing to write. -/
def compile (query : Query) (settings : CompilerSettings) : CompiledQuery :=
  match query.tables with
  | [] => { sql := "", faults := [.noTables], warnings := [] }
  | first :: _ =>
    { sql := (query.statement settings first).text
      faults := query.faults settings
      warnings := query.warnings settings }

end Query

end QueryComposer
