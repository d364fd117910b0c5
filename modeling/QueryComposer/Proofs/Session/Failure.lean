import QueryComposer.Proofs.Change.InPlace
import QueryComposer.Proofs.Session.Parameters
import QueryComposer.Proofs.Suggestion.Merge
import QueryComposer.Session.Call

set_option autoImplicit false

/-!
Operations that fail. Whatever was done with a session before and whatever the services answer, an
operation that answers with an error leaves the query, the SQL written by hand, the parameters and
the supplied values as they were, and the preview is told nothing. To execute writes the parameters
before they are checked, but in every session that operations lead to it writes what is there; and
to link two tables cannot fail any more once they are chosen.
-/

namespace QueryComposer

/-- What is asked of a session: the operations and whatever else may be refused, a request for
suggestions, a template of the SQL, and templates kept by a service that may fail. -/
inductive SessionCall
  | operation (operation : SessionOperation)
  | requestSuggestion (id : JoinId)
  | toTemplate
  | saveTemplateIn (service : TemplateService) (name description : String) (tags : List String)
      (isPublic : Bool)
  | loadTemplateFrom (service : TemplateService) (id : Uuid)

namespace Session

/-- A result of which only counts whether it is an error. -/
def answered {α : Type} (result : Except Error α × Session) : Except Error Unit × Session :=
  (result.1.map (fun _ => ()), result.2)

/-- An operation with its answer. Those that are never refused just answer. -/
def attempt (session : Session) (services : Services) :
    SessionOperation → Except Error Unit × Session
  | .addTable id schema name => answered (session.addTable services id schema name)
  | .change change => session.editInPlace change.perform
  | .addGroupBy table column => session.addGroupBy table column
  | .addOrderBy table column direction => session.addOrderBy table column direction
  | .linkTables id left right => answered (session.linkTables services id left right)
  | .suggestJoin id => answered (session.suggestJoin services id)
  | .editConditions path edit => session.editConditions path edit
  | .setParameterType name type => session.setParameterType name type
  | .setParameterRequired name required defaultValue =>
    session.setParameterRequired name required defaultValue
  | .execute => answered (session.execute services)
  | .executeAndWait => answered (session.executeAndWait services)
  | .saveTemplate id name description tags isPublic =>
    answered (session.saveTemplate id name description tags isPublic)
  | .loadTemplate id => session.loadTemplate id
  | .restore text => session.restore text
  | operation => (.ok (), session.perform services operation)

/-- A call with its answer. -/
def call (session : Session) (services : Services) : SessionCall → Except Error Unit × Session
  | .operation operation => session.attempt services operation
  | .requestSuggestion id => answered (session.requestSuggestion id, session)
  | .toTemplate => answered (session.toTemplate, session)
  | .saveTemplateIn service name description tags isPublic =>
    answered (session.saveTemplateIn service name description tags isPublic, session)
  | .loadTemplateFrom service id => session.loadTemplateFrom service id

/-- The session after several calls, each beside the services it meets. -/
def afterCalls (session : Session) (script : List (Services × SessionCall)) : Session :=
  script.foldl (fun earlier step => (earlier.call step.1 step.2).2) session

/-! ### Changes in place -/

theorem editQuery_of_ok {session : Session} {change : Query → Except Error Query}
    {changed : Query} (done : change session.query = .ok changed) :
    session.editQuery change = (.ok (), session.commit changed) := by
  unfold editQuery edit
  dsimp only
  rw [done]
  rfl

theorem editQuery_of_error {session : Session} {change : Query → Except Error Query}
    {error : Error} (refused : change session.query = .error error) :
    session.editQuery change = (.error error, session) := by
  unfold editQuery edit
  dsimp only
  rw [refused]
  rfl

/-- To change a copy in place is to take the changed query, if there is one. -/
theorem editInPlace_perform (session : Session) (change : QueryChange) :
    session.editInPlace change.perform = session.editQuery change.apply := by
  unfold editInPlace
  rw [change.perform_eq session.query]
  cases made : change.apply session.query with
  | error cause =>
    rw [editQuery_of_error (by rw [made])]
    rfl
  | ok changed =>
    rw [editQuery_of_ok (by rw [made])]
    rfl

theorem attempt_snd (session : Session) (services : Services) (operation : SessionOperation) :
    (session.attempt services operation).2 = session.perform services operation := by
  cases operation with
  | change change => exact congrArg Prod.snd (session.editInPlace_perform change)
  | _ => rfl

/-! ### What is left as it was -/

/-- The session is as it was, apart from what the services were asked and from the time that went
by; the preview was told nothing, so that it has at most published what was due by now. -/
structure Unchanged (session after : Session) : Prop where
  settings : after.settings = session.settings
  binder : after.binder = session.binder
  query : after.query = session.query
  handSql : after.handSql = session.handSql
  parameters : after.parameters = session.parameters
  values : after.values = session.values
  store : after.store = session.store
  preview : after.preview = session.preview ∨
    after.preview = session.preview.map (fun preview => preview.settle after.now)

/-- An error leaves the session as it was. -/
def Keeps {α : Type} (session : Session) (result : Except Error α × Session) : Prop :=
  ∀ error, result.1 = .error error → session.Unchanged result.2

theorem Unchanged.withLog (session : Session) (log : ServiceLog) :
    session.Unchanged { session with log } :=
  ⟨rfl, rfl, rfl, rfl, rfl, rfl, rfl, Or.inl rfl⟩

theorem Unchanged.refl (session : Session) : session.Unchanged session :=
  .withLog session session.log

namespace Keeps

variable {α : Type} {session : Session}

theorem of_same {result : Except Error α × Session} (same : result.2 = session) :
    session.Keeps result :=
  fun _ _ => same ▸ Unchanged.refl session

theorem of_ok {answer : α} {after : Session} : session.Keeps (Except.ok answer, after) :=
  fun _ failed => by contradiction

theorem answered {result : Except Error α × Session} (keeps : session.Keeps result) :
    session.Keeps (answered result) := by
  obtain ⟨answer, after⟩ := result
  cases answer with
  | error cause => exact fun _ _ => keeps cause rfl
  | ok answer => exact of_ok

theorem edit (session : Session) (change : Query → Except Error (α × Query)) :
    session.Keeps (session.edit change) := by
  unfold Session.edit
  cases change session.query with
  | error cause => exact of_same rfl
  | ok done => exact of_ok

theorem editQuery (session : Session) (change : Query → Except Error Query) :
    session.Keeps (session.editQuery change) :=
  edit session _

theorem addTable (session : Session) (services : Services) (id : TableId) (schema name : String) :
    session.Keeps (session.addTable services id schema name) := by
  unfold Session.addTable
  cases services.columns session.settings.dataSourceId schema name with
  | error cause => exact of_same rfl
  | ok columns => exact of_ok

theorem suggestJoin (session : Session) (services : Services) (id : JoinId) :
    session.Keeps (session.suggestJoin services id) := by
  unfold Session.suggestJoin
  split
  · exact of_same rfl
  · exact of_ok
  · exact of_ok

theorem editParameter (session : Session) (name : String) (change : Parameter → Parameter) :
    session.Keeps (session.editParameter name change) := by
  unfold Session.editParameter
  split
  · exact of_same rfl
  · exact of_ok

theorem saveTemplate (session : Session) (id : Uuid) (name description : String)
    (tags : List String) (isPublic : Bool) :
    session.Keeps (session.saveTemplate id name description tags isPublic) := by
  unfold Session.saveTemplate
  split
  · exact of_same rfl
  · exact of_ok

theorem loadTemplateFrom (session : Session) (service : TemplateService) (id : Uuid) :
    session.Keeps (session.loadTemplateFrom service id) := by
  unfold Session.loadTemplateFrom
  split
  · exact of_same rfl
  · exact of_same rfl
  · exact of_ok

end Keeps

end Session

/-! ### Linked tables -/

namespace Query

variable {query changed : Query} {id : JoinId}

theorem join?_of_editJoin {edit : Join → Except Error Join}
    (kept : ∀ {join edited}, edit join = .ok edited → edited.id = join.id)
    (done : query.editJoin id edit = .ok changed) :
    ∃ join edited, edit join = .ok edited ∧ changed.join? id = some edited ∧
      changed.tables = query.tables := by
  obtain ⟨before, join, edited, after, _, skipped, named, edits, rfl⟩ := editJoin_split done
  have same : edited.id = id := (kept edits).trans named
  refine ⟨join, edited, edits, ?_, rfl⟩
  rw [join?, List.find?_append, List.find?_eq_none.mpr (by simpa using skipped),
    List.find?_cons_of_pos (by simpa using same), Option.none_or]

/-- Two tables that were chosen for a join can be asked about. -/
theorem beginSuggestion_of_setJoinTables {left right : TableId}
    (done : query.setJoinTables id left right = .ok changed) (source : String) :
    ∃ request, changed.beginSuggestion id source = .ok (some request) := by
  unfold setJoinTables at done
  split at done
  · contradiction
  · rename_i apart
    split at done
    · contradiction
    · contradiction
    · rename_i leftTable rightTable leftFound rightFound
      obtain ⟨join, edited, edits, found, tables⟩ := join?_of_editJoin (fun {_ edited} edits => by
        cases edits
        rw [Join.id_withTable, Join.id_withTable]) done
      cases edits
      have chosen := Join.endpoints?_of_tables
        (((join.withTable .left left).table?_withTable_opposite .right right).trans
          (join.table?_withTable_self .left left))
        ((join.withTable .left left).table?_withTable_self .right right)
      have known (table : TableId) : changed.requireTable table = query.requireTable table := by
        unfold requireTable table?
        rw [tables]
      unfold beginSuggestion requireJoin
      simp only [found, chosen, if_neg apart, known, leftFound, rightFound]
      exact ⟨_, rfl⟩

end Query

namespace Session

/-- Once both tables of a join are chosen, there is an answer. -/
theorem linkTables_of_setJoinTables {session : Session} {id : JoinId} {left right : TableId}
    {linked : Query} (done : session.query.setJoinTables id left right = .ok linked)
    (services : Services) :
    ∃ outcome, (session.linkTables services id left right).1 = .ok outcome := by
  obtain ⟨request, asked⟩ := Query.beginSuggestion_of_setJoinTables done
    (session.commit linked).settings.dataSourceId
  unfold linkTables suggestJoin requestSuggestion
  rw [editQuery_of_ok done]
  dsimp only
  rw [query_commit, asked]
  exact ⟨_, rfl⟩

theorem linkTables_refused {session : Session} {services : Services} {id : JoinId}
    {left right : TableId} {error : Error}
    (failed : (session.linkTables services id left right).1 = .error error) :
    session.query.setJoinTables id left right = .error error ∧
      (session.linkTables services id left right).2 = session := by
  cases done : session.query.setJoinTables id left right with
  | ok linked =>
    obtain ⟨outcome, answer⟩ := linkTables_of_setJoinTables done services
    cases answer.symm.trans failed
  | error cause =>
    have refused : session.linkTables services id left right = (.error cause, session) := by
      unfold linkTables
      rw [editQuery_of_error done]
    rw [refused] at failed ⊢
    exact ⟨congrArg Except.error (Except.error.inj failed), rfl⟩

/-! ### Executing -/

/-- To read the parameters off the SQL again changes nothing in a session in step with it. -/
theorem InStep.refreshParameters_eq {session : Session} (inStep : session.InStep) :
    session.refreshParameters = session := by
  unfold refreshParameters
  rw [(Parameter.reextract_eq_iff _ _).mpr inStep]

/-- What executing leaves, however it ends. -/
theorem InStep.execute_eq {session : Session} (inStep : session.InStep) (services : Services) :
    ∃ log, (session.execute services).2 = { session with log } := by
  cases found : session.executableSql with
  | error cause =>
    refine ⟨session.log, ?_⟩
    unfold Session.execute
    rw [found]
  | ok sql =>
    -- the parameters are written before the values are bound, which may fail
    rw [execute_of_executable found, inStep.refreshParameters_eq]
    split
    · exact ⟨session.log, rfl⟩
    · exact ⟨_, rfl⟩

theorem settle_sleep (session : Session) (duration : Nat) :
    ((session.sleep duration).settle).preview =
      session.preview.map (fun preview => preview.settle (session.now + duration)) := by
  unfold sleep settle
  rw [Option.map_map]
  refine congrArg (fun change => session.preview.map change) (funext (fun preview => ?_))
  exact preview.advance_advance (Nat.le_succ _)

theorem InStep.keeps_executeAndWait {session : Session} (inStep : session.InStep)
    (services : Services) : session.Keeps (session.executeAndWait services) := by
  obtain ⟨log, left⟩ := inStep.execute_eq services
  intro error _
  unfold Session.executeAndWait
  split
  · rename_i executed
    rw [executed] at left
    exact left ▸ Unchanged.withLog session log
  · rename_i executed
    rw [executed] at left
    obtain rfl := left
    exact ⟨rfl, rfl, rfl, rfl, rfl, rfl, rfl, Or.inr (settle_sleep _ _)⟩

/-- A call that ends with an error leaves a session as it was that is in step with its SQL. -/
theorem InStep.keeps_call {session : Session} (inStep : session.InStep) (services : Services)
    (call : SessionCall) : session.Keeps (session.call services call) := by
  cases call with
  | requestSuggestion id => exact .of_same rfl
  | toTemplate => exact .of_same rfl
  | saveTemplateIn service name description tags isPublic => exact .of_same rfl
  | loadTemplateFrom service id => exact .loadTemplateFrom session service id
  | operation operation =>
    cases operation with
    | addTable id schema name => exact (Keeps.addTable session services id schema name).answered
    | change change =>
      change session.Keeps (session.editInPlace change.perform)
      rw [editInPlace_perform]
      exact .editQuery session change.apply
    | addGroupBy table column => exact .editQuery session _
    | addOrderBy table column direction => exact .editQuery session _
    | linkTables id left right =>
      refine Keeps.answered (fun error failed => ?_)
      rw [(linkTables_refused failed).2]
      exact .refl session
    | suggestJoin id => exact (Keeps.suggestJoin session services id).answered
    | editConditions path edit => exact .editQuery session _
    | setParameterType name type => exact .editParameter session name _
    | setParameterRequired name required defaultValue => exact .editParameter session name _
    | execute =>
      obtain ⟨log, left⟩ := inStep.execute_eq services
      exact Keeps.answered (fun error _ => left ▸ Unchanged.withLog session log)
    | executeAndWait => exact (inStep.keeps_executeAndWait services).answered
    | saveTemplate id name description tags isPublic =>
      exact (Keeps.saveTemplate session id name description tags isPublic).answered
    | loadTemplate id =>
      change session.Keeps (session.loadTemplate id)
      rw [session.loadTemplate_eq id id]
      exact .loadTemplateFrom session _ id
    | restore text => exact .editQuery session _
    | _ => exact .of_ok

theorem InStep.call {session : Session} (inStep : session.InStep) (services : Services)
    (call : SessionCall) : (session.call services call).2.InStep := by
  cases call with
  | operation operation =>
    rw [Session.call, attempt_snd]
    exact inStep.perform services operation
  | requestSuggestion id => exact inStep
  | toTemplate => exact inStep
  | saveTemplateIn service name description tags isPublic => exact inStep
  | loadTemplateFrom service id =>
    unfold Session.call loadTemplateFrom
    dsimp only
    split
    · exact inStep
    · exact inStep
    · exact inStep.moves (.load session _)

theorem InStep.afterCalls {session : Session} (inStep : session.InStep)
    (script : List (Services × SessionCall)) : (session.afterCalls script).InStep := by
  induction script generalizing session with
  | nil => exact inStep
  | cons step script inner => exact inner (inStep.call step.1 step.2)

/-- After every run of calls, whatever the services answered, a call that ends with an error leaves
the session as it was: the query, the SQL written by hand, the parameters and the values, with
nothing told to the preview. To link two tables ends with no error any more once they are chosen for
the join. -/
theorem failed_call_keeps_session (settings : Settings) (binder : Binder) (store : TemplateStore)
    (script : List (Services × SessionCall)) (services : Services) :
    let session := (start settings binder store).afterCalls script
    (∀ call error, (session.call services call).1 = .error error →
      session.Unchanged (session.call services call).2) ∧
    ∀ id left right linked, session.query.setJoinTables id left right = .ok linked →
      ∃ outcome, (session.linkTables services id left right).1 = .ok outcome := by
  intro session
  have inStep : session.InStep := (inStep_start settings binder store).afterCalls script
  refine ⟨inStep.keeps_call services, ?_⟩
  intro id left right linked done
  exact linkTables_of_setJoinTables done services

/-- A preview is started and a table is added; the SQL to execute is another one, with a value for
its parameter. -/
def parameterOfNumbers : List (Services × SessionCall) :=
  [ .startPreview, .addTable (.uniform 1) "" "users", .setSql "SELECT :id",
    .setParameterType "id" .number, .setValue "id" (.int 3) ].map (fun operation =>
      (runningServices, .operation operation))

/-- The waiting ends with an error when the checks are used up, and all that is different then is
that the preview has published the query with the table. -/
theorem parameterOfNumbers_kept :
    let session := (start {} {} {}).afterCalls parameterOfNumbers
    let ended := session.call runningServices (.operation .executeAndWait)
    ended.1 = .error (.stillRunning 30) ∧ session.Unchanged ended.2 ∧
      session.latestPreview?.isNone = true ∧
      ended.2.latestPreview?.map CompiledQuery.sql = some "SELECT * FROM users" := by
  intro session ended
  have failed : ended.1 = .error (.stillRunning 30) := by
    have used : (match ended.1 with
      | .error (.stillRunning checks) => some checks
      | _ => none) = some 30 := by decide +kernel
    split at used
    · rename_i found
      rw [found, Option.some.inj used]
    · contradiction
  obtain ⟨keeps, _⟩ := failed_call_keeps_session {} {} {} parameterOfNumbers runningServices
  exact ⟨failed, keeps _ _ failed, by decide +kernel, by decide +kernel⟩

end Session

end QueryComposer
