import QueryComposer.Execution.Status
import QueryComposer.Parameter.Binder
import QueryComposer.Query.Suggestion
import QueryComposer.Value.ColumnType

set_option autoImplicit false

/-!
The services that a session deals with, as functions from what they are asked to what they answer,
and the log of these dealings.
-/

namespace QueryComposer

/-- A column as a database describes it. -/
structure ColumnMetadata where
  name : String
  columnType : String
  nullable : Bool := false
  primaryKey : Bool := false
deriving DecidableEq, Repr

namespace ColumnMetadata

def type (column : ColumnMetadata) : ValueType :=
  .ofColumnType column.columnType

def toJson (column : ColumnMetadata) : Json :=
  .object [("name", .string column.name), ("type", .string column.columnType),
    ("nullable", .bool column.nullable), ("primaryKey", .bool column.primaryKey)]

def ofJson? (json : Json) : Option ColumnMetadata := do
  let fields ← json.fields? ["name", "type", "nullable", "primaryKey"]
  let name ← fields.required "name" Json.asString?
  let columnType ← fields.required "type" Json.asString?
  let nullable ← fields.defaulted "nullable" false Json.asBool?
  let primaryKey ← fields.defaulted "primaryKey" false Json.asBool?
  some { name, columnType, nullable, primaryKey }

end ColumnMetadata

/-- A query as it is submitted for execution. -/
structure ExecutionRequest where
  source : String
  sql : String
  parameters : List BoundParameter
  pageSize : UInt32
  timeoutMs : UInt64
deriving Repr

namespace ExecutionRequest

def toJson (request : ExecutionRequest) : Json :=
  .object [("dataSourceId", .string request.source), ("sql", .string request.sql),
    ("parameters", .object [("values", .array (request.parameters.map BoundParameter.toJson))]),
    ("pageSize", .ofNat request.pageSize.toNat), ("timeoutMs", .ofNat request.timeoutMs.toNat)]

end ExecutionRequest

/-- The answers of the services. Columns are asked for by source, schema and table, suggestions by
source and the two tables. The answer to a submission may depend on how many came before it, and the
answer to a status check on how many checks did. -/
structure Services where
  columns : String → String → String → Except Error (List ColumnMetadata)
  suggest : String → String → String → Except Error (List RelationshipSuggestion)
  submit : Nat → ExecutionRequest → Except Error String
  status : Nat → Except Error ExecutionStatus

/-- A call for suggestions. -/
structure SuggestionCall where
  source : String
  left : String
  right : String
deriving DecidableEq, Repr

/-- What the services were asked, each list in the order of time. -/
structure ServiceLog where
  suggestionCalls : List SuggestionCall := []
  requests : List ExecutionRequest := []
  checks : Nat := 0
deriving Repr

end QueryComposer
