import QueryComposer.Execution.Poller
import QueryComposer.Session.Basic

set_option autoImplicit false

/-!
Executing the SQL of a session, and keeping it as a template.
-/

namespace QueryComposer.Session

/-! ### Execution -/

/-- The request for a text with bound parameters. -/
def requestFor (session : Session) (sql : String) (parameters : List BoundParameter) :
    ExecutionRequest :=
  { source := session.settings.dataSourceId, sql, parameters,
    pageSize := session.settings.execution.pageSize,
    timeoutMs := session.settings.execution.timeoutMs }

def submit (session : Session) (services : Services) (request : ExecutionRequest) :
    Except Error String × Session :=
  let requests := session.log.requests
  (services.submit requests.length request,
    { session with log := { session.log with requests := requests ++ [request] } })

/-- Submit the SQL with the supplied values, once both are as they have to be. The answer is the
handle of the submitted query. -/
def execute (session : Session) (services : Services) : Except Error String × Session :=
  match session.executableSql with
  | .error error => (.error error, session)
  | .ok sql =>
    let current := { session with parameters := Parameter.reextract sql session.parameters }
    match session.binder.bind current.parameters session.values with
    | .error error => (.error error, current)
    | .ok bound => current.submit services (current.requestFor sql bound)

/-- Submit the SQL and wait until the query is done, and with it all that is due by then. -/
def executeAndWait (session : Session) (services : Services) :
    Except Error ExecutionStatus × Session :=
  match session.execute services with
  | (.error error, after) => (.error error, after)
  | (.ok _, submitted) =>
    let earlier := submitted.log.checks
    let finished := (Poller.ofSettings submitted.settings.execution).run
      (fun number => services.status (earlier + number)) none
    let log := { submitted.log with checks := earlier + finished.checks }
    (finished.outcome.toResult, { (submitted.sleep finished.elapsed).settle with log })

/-! ### Templates -/

/-- The SQL as a template with the parameters of the session. -/
def toTemplate (session : Session) : Except Error Template :=
  let sql : Except Error String :=
    match session.handSql with
    | some sql => .ok sql
    | none => session.compile.sql?
  sql.map (fun text =>
    { sql := text, parameters := Parameter.reextract text session.parameters })

/-- Store the SQL as a template under a new identity. -/
def saveTemplate (session : Session) (id : Uuid) (name description : String)
    (tags : List String) (isPublic : Bool) : Except Error Uuid × Session :=
  match session.toTemplate with
  | .error error => (.error error, session)
  | .ok template =>
    let record := { TemplateRecord.ofTemplate name template with description, tags, isPublic }
    (.ok id, { session with store := session.store.create id record })

/-- Take the SQL of a stored template as written by hand. -/
def loadTemplate (session : Session) (id : Uuid) : Except Error Unit × Session :=
  match session.store.get? id with
  | none => (.error (.unknownTemplate id), session)
  | some record =>
    let template := record.template
    (.ok (), { session with handSql := some template.sql, parameters := template.parameters })

end QueryComposer.Session
