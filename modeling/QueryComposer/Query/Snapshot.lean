import QueryComposer.Json.Reader
import QueryComposer.Json.Writer
import QueryComposer.Query.Codec

set_option autoImplicit false

/-!
Snapshots: queries as texts that can be kept and restored. A text is restored only to a query whose
tables and joins are all different and that refers to no table outside itself.
-/

namespace QueryComposer.Query

/-- The tables that the query refers to apart from listing them, in order. -/
def referencedTables (query : Query) : List TableId :=
  query.joins.flatMap (fun join => join.leftTable.toList ++ join.rightTable.toList) ++
    query.conditions.leaves.filterMap Comparison.tableId ++
    query.groupBy.map ColumnRef.tableId ++
    query.orderBy.map (fun entry => entry.column.tableId)

/-- The query as it is, unless a table or a join stands in it twice or a table is referred to that
is not one of its own. -/
def checked (query : Query) : Except Error Query :=
  match firstRepeated? Table.id [] query.tables with
  | some table => .error (.repeatedTable table.id)
  | none =>
    match firstRepeated? Join.id [] query.joins with
    | some join => .error (.repeatedJoin join.id)
    | none =>
      match query.referencedTables.find? (fun id => !(query.tables.map Table.id).contains id) with
      | some id => .error (.unknownTable id)
      | none => .ok query

/-- The query as a text. -/
def snapshot (query : Query) : String :=
  query.toJson.render

/-- The query that a text holds, without a look at what it refers to. -/
def read (text : String) : Except Error Query :=
  match (Json.parse? text).bind ofJson? with
  | none => .error .malformedData
  | some query => .ok query

/-- The query that a text holds. -/
def restore (text : String) : Except Error Query :=
  (read text).bind checked

end QueryComposer.Query
