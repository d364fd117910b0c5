import QueryComposer.Execution.Preview
import QueryComposer.Query.Snapshot
import QueryComposer.Session.Services
import QueryComposer.Template.Store

set_option autoImplicit false

/-!
Sessions in which a query is composed. The SQL of a session is that of its query, or a text written
by hand; the parameters are always those of the SQL. An operation that fails leaves the session as
it was, apart from what the services were asked.
-/

namespace QueryComposer

/-- A session. -/
structure Session where
  settings : Settings
  binder : Binder := {}
  query : Query := {}
  handSql : Option String := none
  parameters : List Parameter := []
  values : ParameterValues := []
  preview : Option Preview := none
  now : Nat := 0
  store : TemplateStore := {}
  log : ServiceLog := {}

namespace Session

/-! ### SQL and parameters -/

/-- The query in SQL. -/
def compile (session : Session) : CompiledQuery :=
  session.query.compile session.settings.compiler

def currentSql (session : Session) : String :=
  session.handSql.getD session.compile.sql

/-- The SQL of the session is written by hand. -/
def isHandWritten (session : Session) : Bool :=
  session.handSql.isSome

/-- The session with the parameters of its SQL. -/
def refreshParameters (session : Session) : Session :=
  { session with parameters := Parameter.reextract session.currentSql session.parameters }

/-- Write the SQL by hand. -/
def setSql (session : Session) (sql : String) : Session :=
  refreshParameters { session with handSql := some sql }

/-- Go back to the SQL of the query. -/
def clearSql (session : Session) : Session :=
  refreshParameters { session with handSql := none }

/-- The SQL to execute: what is written by hand, unless it is blank, or that of a query that lacks
nothing. -/
def executableSql (session : Session) : Except Error String :=
  match session.handSql with
  | some sql => if Text.isBlankText sql then .error .nothingToExecute else .ok sql
  | none => session.compile.sql?

/-! ### Changes of the query -/

/-- Take a changed query. The preview is told, and the parameters follow unless the SQL is written
by hand. -/
def commit (session : Session) (query : Query) : Session :=
  let changed := { session with
    query
    preview := session.preview.map (fun preview => preview.notify session.now query) }
  if session.handSql.isNone then changed.refreshParameters else changed

/-- Change the query, if the change succeeds. -/
def edit {α : Type} (session : Session) (change : Query → Except Error (α × Query)) :
    Except Error α × Session :=
  match change session.query with
  | .error error => (.error error, session)
  | .ok (answer, query) => (.ok answer, session.commit query)

/-- Change the query, if the change succeeds, without an answer. -/
def editQuery (session : Session) (change : Query → Except Error Query) :
    Except Error Unit × Session :=
  session.edit (fun query => (change query).map (fun changed => ((), changed)))

/-- Add a table under a new identity, with the columns that the services know. -/
def addTable (session : Session) (services : Services) (id : TableId) (schema name : String) :
    Except Error TableId × Session :=
  match services.columns session.settings.dataSourceId schema name with
  | .error error => (.error error, session)
  | .ok columns =>
    let columns := columns.map (fun column => { name := column.name, type := column.type })
    (.ok id, session.commit (session.query.addTable { id, schema, name, columns }))

def addGroupBy (session : Session) (table : TableId) (column : String) :
    Except Error Unit × Session :=
  session.editQuery (fun query =>
    match query.columnRef table column with
    | .error error => .error error
    | .ok reference => query.addGroupBy reference)

/-- Sort by a column of a table. -/
def addOrderBy (session : Session) (table : TableId) (column : String)
    (direction : SortDirection) : Except Error Unit × Session :=
  session.editQuery (fun query =>
    match query.columnRef table column with
    | .error error => .error error
    | .ok reference => query.addOrderBy reference direction)

/-- Limit the number of rows and skip some. -/
def setPaging (session : Session) (limit offset : Option UInt64) : Session :=
  session.commit ((session.query.setLimit limit).setOffset offset)

/-- Add a join under a new identity. -/
def addJoin (session : Session) (id : JoinId) : Session :=
  session.commit (session.query.addJoin id)

/-- Change the group of conditions at the end of a path. -/
def editConditions (session : Session) (path : List Nat)
    (change : ConditionGroup → Except Error ConditionGroup) : Except Error Unit × Session :=
  session.editQuery (fun query =>
    query.updateConditions (fun root => root.updateAt path change))

/-! ### Suggestions -/

/-- A request for suggestions about a join, once both its tables are chosen. -/
def requestSuggestion (session : Session) (id : JoinId) :
    Except Error (Option SuggestionRequest) :=
  session.query.beginSuggestion id session.settings.dataSourceId

/-- Take the answer to a request into the query, unless it comes too late. -/
def applySuggestion (session : Session) (request : SuggestionRequest)
    (answer : Except Error (List RelationshipSuggestion)) : SuggestionOutcome × Session :=
  let (outcome, query) := session.query.applySuggestions request answer session.settings.suggestion
  match outcome with
  | .stale => (outcome, session)
  | .joinRemoved => (outcome, session)
  | _ => (outcome, session.commit query)

/-- Ask the services about a request and take their answer into the query. -/
def resolveSuggestion (session : Session) (services : Services) (request : SuggestionRequest) :
    SuggestionOutcome × Session :=
  let call : SuggestionCall := ⟨request.source, request.leftName, request.rightName⟩
  let answer := services.suggest call.source call.left call.right
  let log := { session.log with suggestionCalls := session.log.suggestionCalls ++ [call] }
  applySuggestion { session with log } request answer

/-- Ask the services about a join. -/
def suggestJoin (session : Session) (services : Services) (id : JoinId) :
    Except Error SuggestionOutcome × Session :=
  match session.requestSuggestion id with
  | .error error => (.error error, session)
  | .ok none => (.ok .noSuggestion, session)
  | .ok (some request) =>
    let (outcome, changed) := session.resolveSuggestion services request
    (.ok outcome, changed)

/-- Choose both tables of a join and ask the services about it. -/
def linkTables (session : Session) (services : Services) (id : JoinId) (left right : TableId) :
    Except Error SuggestionOutcome × Session :=
  match session.editQuery (fun query => query.setJoinTables id left right) with
  | (.error error, same) => (.error error, same)
  | (.ok (), linked) => linked.suggestJoin services id

/-! ### Parameters and their values -/

def editParameter (session : Session) (name : String) (change : Parameter → Parameter) :
    Except Error Unit × Session :=
  match editFirst (fun parameter => parameter.name = name) (Error.unknownParameter name)
      (fun parameter => .ok ((), change parameter)) session.parameters with
  | .error error => (.error error, session)
  | .ok (_, parameters) => (.ok (), { session with parameters })

/-- Choose the type of a parameter. -/
def setParameterType (session : Session) (name : String) (type : ValueType) :
    Except Error Unit × Session :=
  session.editParameter name (fun parameter => parameter.withType type)

/-- Choose whether a parameter needs a value, and what it is by default. -/
def setParameterRequired (session : Session) (name : String) (required : Bool)
    (defaultValue : Option Value) : Except Error Unit × Session :=
  session.editParameter name (fun parameter => { parameter with required, defaultValue })

/-- Supply a value. -/
def setValue (session : Session) (name : String) (value : Value) : Session :=
  { session with values := session.values.set name value }

/-- Take a supplied value away. -/
def clearValue (session : Session) (name : String) : Session :=
  { session with values := session.values.erase name }

/-- The failures of the supplied values. -/
def validate (session : Session) : ValidationReport :=
  session.binder.validateAll session.parameters session.values

/-! ### Previews and time -/

/-- Start the preview, if it is not there yet. -/
def startPreview (session : Session) : Session :=
  { session with
    preview := some (session.preview.getD (.ofSettings session.settings)) }

/-- What was previewed last. -/
def latestPreview? (session : Session) : Option CompiledQuery :=
  session.preview.bind Preview.latest?

/-- Let time go by, in milliseconds. What is due at its very end is still to come. -/
def sleep (session : Session) (duration : Nat) : Session :=
  let now := session.now + duration
  { session with now, preview := session.preview.map (fun preview => preview.advance now) }

/-- Let all happen that is due now. -/
def settle (session : Session) : Session :=
  { session with preview := session.preview.map (fun preview => preview.settle session.now) }

/-! ### Snapshots -/

/-- The query as a text. -/
def snapshot (session : Session) : String :=
  session.query.snapshot

/-- Take the query of a text. -/
def restore (session : Session) (text : String) : Except Error Unit × Session :=
  session.editQuery (fun _ => Query.restore text)

end Session

end QueryComposer
