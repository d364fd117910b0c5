import QueryComposer.Proofs.Change.Basic
import QueryComposer.Session.Execution

set_option autoImplicit false

/-!
Operations on a session as data, and runs of them. Each operation of a run meets the services as
they answer at that time, so that nothing is supposed about what they answered before. An operation
that the services refuse is one of the ways in which an operation goes.
-/

namespace QueryComposer

/-- What can be done with a session, and what can happen around it: time goes by, and others put
whatever they like into the store of templates. -/
inductive SessionOperation
  | setBinder (binder : Binder)
  | addTable (id : TableId) (schema name : String)
  | change (change : QueryChange)
  | addGroupBy (table : TableId) (column : String)
  | addOrderBy (table : TableId) (column : String) (direction : SortDirection)
  | setPaging (limit offset : Option UInt64)
  | addJoin (id : JoinId)
  | linkTables (id : JoinId) (left right : TableId)
  | suggestJoin (id : JoinId)
  | resolveSuggestion (request : SuggestionRequest)
  | applySuggestion (request : SuggestionRequest)
      (answer : Except Error (List RelationshipSuggestion))
  | editConditions (path : List Nat) (edit : ConditionGroup → Except Error ConditionGroup)
  | setSql (sql : String)
  | clearSql
  | startPreview
  | refreshParameters
  | setParameterType (name : String) (type : ValueType)
  | setParameterRequired (name : String) (required : Bool) (defaultValue : Option Value)
  | setValue (name : String) (value : Value)
  | clearValue (name : String)
  | execute
  | executeAndWait
  | saveTemplate (id : Uuid) (name description : String) (tags : List String) (isPublic : Bool)
  | loadTemplate (id : Uuid)
  | restore (text : String)
  | sleep (duration : Nat)
  | settle
  | replaceStore (store : TemplateStore)

namespace Session

/-- A new session, beside a store that may hold templates already. -/
def start (settings : Settings) (binder : Binder) (store : TemplateStore) : Session :=
  { settings, binder, store }

/-- The session after an operation. -/
def perform (session : Session) (services : Services) : SessionOperation → Session
  | .setBinder binder => { session with binder }
  | .addTable id schema name => (session.addTable services id schema name).2
  | .change change => (session.editQuery change.apply).2
  | .addGroupBy table column => (session.addGroupBy table column).2
  | .addOrderBy table column direction => (session.addOrderBy table column direction).2
  | .setPaging limit offset => session.setPaging limit offset
  | .addJoin id => session.addJoin id
  | .linkTables id left right => (session.linkTables services id left right).2
  | .suggestJoin id => (session.suggestJoin services id).2
  | .resolveSuggestion request => (session.resolveSuggestion services request).2
  | .applySuggestion request answer => (session.applySuggestion request answer).2
  | .editConditions path edit => (session.editConditions path edit).2
  | .setSql sql => session.setSql sql
  | .clearSql => session.clearSql
  | .startPreview => session.startPreview
  | .refreshParameters => session.refreshParameters
  | .setParameterType name type => (session.setParameterType name type).2
  | .setParameterRequired name required defaultValue =>
    (session.setParameterRequired name required defaultValue).2
  | .setValue name value => session.setValue name value
  | .clearValue name => session.clearValue name
  | .execute => (session.execute services).2
  | .executeAndWait => (session.executeAndWait services).2
  | .saveTemplate id name description tags isPublic =>
    (session.saveTemplate id name description tags isPublic).2
  | .loadTemplate id => (session.loadTemplate id).2
  | .restore text => (session.restore text).2
  | .sleep duration => session.sleep duration
  | .settle => session.settle
  | .replaceStore store => { session with store }

/-- The session after several operations, each beside the services it meets. -/
def run (session : Session) (script : List (Services × SessionOperation)) : Session :=
  script.foldl (fun earlier step => earlier.perform step.1 step.2) session

theorem run_nil (session : Session) : session.run [] = session :=
  rfl

theorem run_cons (session : Session) (services : Services) (operation : SessionOperation)
    (script : List (Services × SessionOperation)) :
    session.run ((services, operation) :: script) =
      (session.perform services operation).run script :=
  rfl

theorem run_append (session : Session) (earlier later : List (Services × SessionOperation)) :
    session.run (earlier ++ later) = (session.run earlier).run later :=
  List.foldl_append

end Session

/-! ### What an operation does -/

/-- The parameter is still the same one, and its type is the one it had or was chosen by hand. -/
structure Parameter.Overrides (changed parameter : Parameter) : Prop where
  name : changed.name = parameter.name
  kind : changed.kind = parameter.kind
  type : changed.typeLocked = false → parameter.typeLocked = false ∧ changed.type = parameter.type

namespace Session

/-- Nothing about the query, the SQL and the parameters is different, and nothing was submitted. -/
structure Aside (session changed : Session) : Prop where
  settings : changed.settings = session.settings
  query : changed.query = session.query
  handSql : changed.handSql = session.handSql
  parameters : changed.parameters = session.parameters
  requests : changed.log.requests = session.log.requests

theorem Aside.refl (session : Session) : session.Aside session :=
  ⟨rfl, rfl, rfl, rfl, rfl⟩

/-- What operations come to that submit nothing: the query is replaced, the SQL is written by hand
or not any more, something is decided about one parameter, or a template is loaded. -/
inductive Moves : Session → Session → Prop
  | aside {session changed : Session} (same : session.Aside changed) : Moves session changed
  | commit (session : Session) (query : Query) : Moves session (session.commit query)
  | write (session : Session) (handSql : Option String) :
      Moves session (refreshParameters { session with handSql })
  | override (session : Session) (name : String) (change : Parameter → Parameter)
      (overrides : ∀ parameter : Parameter, (change parameter).Overrides parameter) :
      Moves session (session.editParameter name change).2
  | load (session : Session) (record : TemplateRecord) :
      Moves session
        { session with
          handSql := some record.template.sql
          parameters := record.template.parameters }
  | trans {first second third : Session} (before : Moves first second)
      (after : Moves second third) : Moves first third

namespace Moves

theorem refl (session : Session) : session.Moves session :=
  .aside (Aside.refl session)

theorem edit {α : Type} (session : Session) (change : Query → Except Error (α × Query)) :
    session.Moves (session.edit change).2 := by
  unfold Session.edit
  cases change session.query with
  | error cause => exact refl session
  | ok done => exact .commit session done.2

theorem editQuery (session : Session) (change : Query → Except Error Query) :
    session.Moves (session.editQuery change).2 :=
  edit session _

theorem addTable (session : Session) (services : Services) (id : TableId) (schema name : String) :
    session.Moves (session.addTable services id schema name).2 := by
  unfold Session.addTable
  cases services.columns session.settings.dataSourceId schema name with
  | error cause => exact refl session
  | ok columns => exact .commit session _

theorem applySuggestion (session : Session) (request : SuggestionRequest)
    (answer : Except Error (List RelationshipSuggestion)) :
    session.Moves (session.applySuggestion request answer).2 := by
  unfold Session.applySuggestion
  simp only
  split
  · exact refl session
  · exact refl session
  · exact .commit session _

theorem resolveSuggestion (session : Session) (services : Services)
    (request : SuggestionRequest) :
    session.Moves (session.resolveSuggestion services request).2 := by
  unfold Session.resolveSuggestion
  refine .trans (.aside ?_) (applySuggestion _ request _)
  exact ⟨rfl, rfl, rfl, rfl, rfl⟩

theorem suggestJoin (session : Session) (services : Services) (id : JoinId) :
    session.Moves (session.suggestJoin services id).2 := by
  unfold Session.suggestJoin
  split
  · exact refl session
  · exact refl session
  · exact resolveSuggestion session services _

theorem linkTables (session : Session) (services : Services) (id : JoinId)
    (left right : TableId) : session.Moves (session.linkTables services id left right).2 := by
  have linked := editQuery session (fun query => query.setJoinTables id left right)
  unfold Session.linkTables
  split
  · rename_i same edited
    rwa [edited] at linked
  · rename_i changed edited
    rw [edited] at linked
    exact linked.trans (suggestJoin changed services id)

theorem saveTemplate (session : Session) (id : Uuid) (name description : String)
    (tags : List String) (isPublic : Bool) :
    session.Moves (session.saveTemplate id name description tags isPublic).2 := by
  unfold Session.saveTemplate
  split
  · exact refl session
  · exact .aside ⟨rfl, rfl, rfl, rfl, rfl⟩

theorem loadTemplate (session : Session) (id : Uuid) :
    session.Moves (session.loadTemplate id).2 := by
  unfold Session.loadTemplate
  split
  · exact refl session
  · exact .load session _

/-- Every operation but the two that execute is made of such moves. -/
theorem perform (session : Session) (services : Services) {operation : SessionOperation}
    (notExecute : operation ≠ .execute) (notWait : operation ≠ .executeAndWait) :
    session.Moves (session.perform services operation) := by
  cases operation with
  | setBinder binder => exact .aside ⟨rfl, rfl, rfl, rfl, rfl⟩
  | addTable id schema name => exact addTable session services id schema name
  | change change => exact editQuery session change.apply
  | addGroupBy table column => exact editQuery session _
  | addOrderBy table column direction => exact editQuery session _
  | setPaging limit offset => exact .commit session _
  | addJoin id => exact .commit session _
  | linkTables id left right => exact linkTables session services id left right
  | suggestJoin id => exact suggestJoin session services id
  | resolveSuggestion request => exact resolveSuggestion session services request
  | applySuggestion request answer => exact applySuggestion session request answer
  | editConditions path edit => exact editQuery session _
  | setSql sql => exact .write session (some sql)
  | clearSql => exact .write session none
  | startPreview => exact .aside ⟨rfl, rfl, rfl, rfl, rfl⟩
  | refreshParameters => exact .write session session.handSql
  | setParameterType name type =>
    refine .override session name _ (fun parameter => ⟨rfl, rfl, ?_⟩)
    intro unlocked
    contradiction
  | setParameterRequired name required defaultValue =>
    exact .override session name _ (fun parameter => ⟨rfl, rfl, fun unlocked => ⟨unlocked, rfl⟩⟩)
  | setValue name value => exact .aside ⟨rfl, rfl, rfl, rfl, rfl⟩
  | clearValue name => exact .aside ⟨rfl, rfl, rfl, rfl, rfl⟩
  | execute => exact absurd rfl notExecute
  | executeAndWait => exact absurd rfl notWait
  | saveTemplate id name description tags isPublic =>
    exact saveTemplate session id name description tags isPublic
  | loadTemplate id => exact loadTemplate session id
  | restore text => exact editQuery session _
  | sleep duration => exact .aside ⟨rfl, rfl, rfl, rfl, rfl⟩
  | settle => exact .aside ⟨rfl, rfl, rfl, rfl, rfl⟩
  | replaceStore store => exact .aside ⟨rfl, rfl, rfl, rfl, rfl⟩

end Moves

/-! ### What executing does -/

/-- The live SQL, where it can be executed. -/
theorem executableSql_eq_ok {session : Session} {sql : String}
    (found : session.executableSql = .ok sql) :
    sql = session.currentSql ∧
      ((session.handSql = some sql ∧ Text.isBlankText sql = false) ∨
        (session.handSql = none ∧ session.compile.isValid = true)) := by
  unfold executableSql at found
  unfold currentSql
  cases written : session.handSql with
  | some text =>
    rw [written] at found
    simp only at found
    split at found
    · contradiction
    · rename_i visible
      cases found
      exact ⟨rfl, Or.inl ⟨rfl, by simpa using visible⟩⟩
  | none =>
    rw [written] at found
    simp only [CompiledQuery.sql?] at found
    split at found
    · rename_i valid
      cases found
      exact ⟨rfl, Or.inr ⟨rfl, valid⟩⟩
    · contradiction

end Session

end QueryComposer
