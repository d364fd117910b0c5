import QueryComposer.Query.Basic
import QueryComposer.Value.Codec

set_option autoImplicit false

/-!
The parts of a query as data values, and back.
-/

namespace QueryComposer

/-! ### Tables and columns -/

namespace Aggregate

def toJson (aggregate : Aggregate) : Json :=
  .string aggregate.keyword

def ofJson? : Json → Option Aggregate :=
  Json.asChoice? (all.map (fun aggregate => (aggregate.keyword, aggregate)))

end Aggregate

namespace Column

def toJson (column : Column) : Json :=
  .object ([("name", .string column.name), ("declaredType", column.type.toJson),
    ("selected", .bool column.selected)] ++
    Json.memberIfSet "aggregate" Aggregate.toJson column.aggregate)

def ofJson? (json : Json) : Option Column := do
  let fields ← json.fields? ["name", "declaredType", "selected", "aggregate"]
  let name ← fields.required "name" Json.asString?
  let type ← fields.required "declaredType" ValueType.ofJson?
  let selected ← fields.defaulted "selected" false Json.asBool?
  let aggregate ← fields.optional "aggregate" Aggregate.ofJson?
  some { name, type, selected, aggregate }

end Column

namespace Table

def toJson (table : Table) : Json :=
  .object ([("id", table.id.toJson), ("schemaName", .string table.schema),
    ("tableName", .string table.name)] ++ Json.memberIfSet "alias" .string table.aliasName ++
    [("columns", .array (table.columns.map Column.toJson))])

def ofJson? (json : Json) : Option Table := do
  let fields ← json.fields? ["id", "schemaName", "tableName", "alias", "columns"]
  let id ← fields.required "id" Uuid.ofJson?
  let schema ← fields.defaulted "schemaName" "" Json.asString?
  let name ← fields.required "tableName" Json.asString?
  let aliasName ← fields.optional "alias" Json.asString?
  let columns ← fields.defaulted "columns" [] (Json.asList? Column.ofJson?)
  some { id, schema, name, aliasName, columns }

end Table

namespace ColumnRef

def toJson (column : ColumnRef) : Json :=
  .object [("tableId", column.tableId.toJson), ("name", .string column.name),
    ("declaredType", column.type.toJson)]

def ofJson? (json : Json) : Option ColumnRef := do
  let fields ← json.fields? ["tableId", "name", "declaredType"]
  let tableId ← fields.required "tableId" Uuid.ofJson?
  let name ← fields.required "name" Json.asString?
  let type ← fields.required "declaredType" ValueType.ofJson?
  some { tableId, name, type }

end ColumnRef

namespace SortDirection

def toJson (direction : SortDirection) : Json :=
  .string direction.keyword

def ofJson? : Json → Option SortDirection :=
  Json.asChoice? [("ASC", .ascending), ("DESC", .descending)]

end SortDirection

namespace OrderEntry

def toJson (entry : OrderEntry) : Json :=
  .object [("column", entry.column.toJson), ("direction", entry.direction.toJson)]

def ofJson? (json : Json) : Option OrderEntry := do
  let fields ← json.fields? ["column", "direction"]
  let column ← fields.required "column" ColumnRef.ofJson?
  let direction ← fields.defaulted "direction" .ascending SortDirection.ofJson?
  some { column, direction }

end OrderEntry

/-! ### Joins -/

namespace JoinKind

def toJson (kind : JoinKind) : Json :=
  .string kind.name

def ofJson? : Json → Option JoinKind :=
  Json.asChoice? (all.map (fun kind => (kind.name, kind)))

end JoinKind

namespace RelationshipSuggestion

def toJson (suggestion : RelationshipSuggestion) : Json :=
  .object [("leftColumn", .string suggestion.leftColumn),
    ("rightColumn", .string suggestion.rightColumn),
    ("confidence", .ofBinary64 suggestion.confidence)]

def ofJson? (json : Json) : Option RelationshipSuggestion := do
  let fields ← json.fields? ["leftColumn", "rightColumn", "confidence"]
  let leftColumn ← fields.required "leftColumn" Json.asString?
  let rightColumn ← fields.required "rightColumn" Json.asString?
  let confidence ← fields.required "confidence" Json.asBinary64?
  some { leftColumn, rightColumn, confidence }

end RelationshipSuggestion

namespace Join

/-- The stored suggestions as a member, left out when there are none. -/
def suggestionMember (suggestions : List RelationshipSuggestion) : List (String × Json) :=
  if suggestions.isEmpty then []
  else [("suggestions", .array (suggestions.map RelationshipSuggestion.toJson))]

def toJson (join : Join) : Json :=
  .object ([("id", join.id.toJson), ("leftTableId", Json.orNull Uuid.toJson join.leftTable),
    ("leftColumn", Json.orNull .string join.leftColumn),
    ("rightTableId", Json.orNull Uuid.toJson join.rightTable),
    ("rightColumn", Json.orNull .string join.rightColumn), ("kind", join.kind.toJson)] ++
    suggestionMember join.suggestions)

def ofJson? (json : Json) : Option Join := do
  let fields ← json.fields?
    ["id", "leftTableId", "leftColumn", "rightTableId", "rightColumn", "kind", "suggestions"]
  let id ← fields.required "id" Uuid.ofJson?
  let leftTable ← fields.optional "leftTableId" Uuid.ofJson?
  let leftColumn ← fields.optional "leftColumn" Json.asString?
  let rightTable ← fields.optional "rightTableId" Uuid.ofJson?
  let rightColumn ← fields.optional "rightColumn" Json.asString?
  let kind ← fields.defaulted "kind" .inner JoinKind.ofJson?
  let suggestions ←
    fields.defaulted "suggestions" [] (Json.asList? RelationshipSuggestion.ofJson?)
  some { id, leftTable, leftColumn, rightTable, rightColumn, kind, suggestions }

end Join

/-! ### Conditions -/

namespace Logic

def toJson (logic : Logic) : Json :=
  .string logic.keyword

/-- The connective that a data value names, given how the value was delivered. -/
def read? (delivery : Json.Delivery) : Json → Option Logic :=
  Json.choose? delivery [("AND", .and), ("OR", .or)]

def ofJson? : Json → Option Logic :=
  read? .direct

end Logic

namespace Operator

def toJson (operator : Operator) : Json :=
  .string operator.symbol

/-- The operator that a data value names, given how the value was delivered. -/
def read? (delivery : Json.Delivery) : Json → Option Operator :=
  Json.choose? delivery (all.map (fun operator => (operator.symbol, operator)))

def ofJson? : Json → Option Operator :=
  read? .direct

/-- The types that the operator applies to, as a data value. -/
def typesToJson (operator : Operator) : Json :=
  match operator.onlyTypes? with
  | none => .string "all"
  | some types => .array (types.map ValueType.toJson)

/-- The members of an entry about the operator in a list to choose from. -/
def entryMembers (operator : Operator) : List (String × Json) :=
  [("operator", operator.toJson), ("label", .string operator.label),
    ("arity", .string operator.arity.name), ("applies_to", operator.typesToJson)]

end Operator

namespace Comparison

/-- The names of a comparison's fields. -/
def fieldNames : List String :=
  ["tableId", "column", "operator", "valueType", "value"]

def members (comparison : Comparison) : List (String × Json) :=
  Json.memberIfSet "tableId" Uuid.toJson comparison.tableId ++
    [("column", .string comparison.column), ("operator", comparison.operator.toJson),
      ("valueType", comparison.type.toJson), ("value", comparison.value.toJson)]

/-- The comparison with the given fields, which were held back until their kind was known. -/
def ofFields? (fields : Json.Fields) : Option Comparison := do
  let tableId ← fields.optional "tableId" Uuid.ofJson?
  let column ← fields.required "column" Json.asString?
  let operator ← fields.required "operator" (Operator.read? .held)
  let type ← fields.required "valueType" (ValueType.read? .held)
  let value ← fields.required "value" (ConditionValue.read? .held)
  some { tableId, column, operator, type, value }

end Comparison

namespace Condition

/-- A condition is a comparison or a group. -/
inductive NodeKind
  | leaf
  | group
deriving DecidableEq, Repr

/-- The names of the two kinds. -/
def nodeKinds : List (String × NodeKind) :=
  [("leaf", .leaf), ("group", .group)]

/-- The kind that a tag names. In a condition that was held back a number may count the kinds. -/
def kindOfTag? (delivery : Json.Delivery) : Json → Option NodeKind
  | .string name => List.lookup name nodeKinds
  | .number (.integer index) =>
    if delivery = .held && 0 ≤ index then (nodeKinds.map Prod.snd)[index.toNat]? else none
  | _ => none

/-- The kind that a data value is tagged with. The other parts of the value wait for its kind, so
that all of them have to be readable. -/
def nodeKind? (delivery : Json.Delivery) (json : Json) : Option NodeKind :=
  if !json.isReadable then none
  else
    match json with
    | .array (tag :: _) => kindOfTag? delivery tag
    | .object _ =>
      (json.fields? ["node"]).bind (fun fields => fields.required "node" (kindOfTag? delivery))
    | _ => none

/-- The members of a group as fields, with the group's connective. -/
def groupFields? (json : Json) : Option Json.Fields :=
  json.fields? ["node", "logic", "conditions"]

mutual

def toJson : Condition → Json
  | .leaf comparison => .object (("node", .string "leaf") :: comparison.members)
  | .group logic members =>
    .object [("node", .string "group"), ("logic", logic.toJson),
      ("conditions", .array (membersToJson members))]

/-- The members of a group as data values. -/
def membersToJson : List Condition → List Json
  | [] => []
  | member :: members => toJson member :: membersToJson members

end

/-- The condition that a data value stands for, given how the data value was delivered. The members
of a group were held back with it. -/
def read? (delivery : Json.Delivery) (json : Json) : Option Condition :=
  match nodeKind? delivery json with
  | none => none
  | some .leaf =>
    (json.fields? ("node" :: Comparison.fieldNames)).bind (fun fields =>
      (Comparison.ofFields? fields).map .leaf)
  | some .group =>
    match present : groupFields? json with
    | none => none
    | some fields =>
      (fields.required "logic" (Logic.read? .held)).bind (fun logic =>
        match found : fields.get? "conditions" with
        | none => some (.group logic [])
        | some members =>
          (members.asListWithin? (fun member smaller =>
            have := Json.Fields.sizeOf_get? present found
            have := smaller
            read? .held member)).map (Condition.group logic))
termination_by sizeOf json
decreasing_by omega

def ofJson? (json : Json) : Option Condition :=
  read? .direct json

end Condition

namespace ConditionGroup

def toJson (group : ConditionGroup) : Json :=
  .object [("logic", group.logic.toJson),
    ("conditions", .array (Condition.membersToJson group.members))]

def ofJson? (json : Json) : Option ConditionGroup := do
  let fields ← json.fields? ["logic", "conditions"]
  let logic ← fields.required "logic" Logic.ofJson?
  let members ← fields.defaulted "conditions" [] (Json.asList? Condition.ofJson?)
  some { logic, members }

end ConditionGroup

/-! ### Queries -/

namespace Query

/-- A whole number of 64 bits as a data value. -/
def countToJson (count : UInt64) : Json :=
  .ofNat count.toNat

def toJson (query : Query) : Json :=
  .object ([("tables", .array (query.tables.map Table.toJson)),
    ("joins", .array (query.joins.map Join.toJson)), ("conditions", query.conditions.toJson),
    ("groupBy", .array (query.groupBy.map ColumnRef.toJson)),
    ("orderBy", .array (query.orderBy.map OrderEntry.toJson))] ++
    Json.memberIfSet "limit" countToJson query.limit ++
    Json.memberIfSet "offset" countToJson query.offset)

/-- The query that a data value stands for. Every part may be missing. -/
def ofJson? (json : Json) : Option Query := do
  let fields ← json.fields?
    ["tables", "joins", "conditions", "groupBy", "orderBy", "limit", "offset"]
  let tables ← fields.defaulted "tables" [] (Json.asList? Table.ofJson?)
  let joins ← fields.defaulted "joins" [] (Json.asList? Join.ofJson?)
  let conditions ← fields.defaulted "conditions" {} ConditionGroup.ofJson?
  let groupBy ← fields.defaulted "groupBy" [] (Json.asList? ColumnRef.ofJson?)
  let orderBy ← fields.defaulted "orderBy" [] (Json.asList? OrderEntry.ofJson?)
  let limit ← fields.optional "limit" Json.asUInt64?
  let offset ← fields.optional "offset" Json.asUInt64?
  some { tables, joins, conditions, groupBy, orderBy, limit, offset }

end Query

end QueryComposer
