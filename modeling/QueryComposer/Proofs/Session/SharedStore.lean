import QueryComposer.Proofs.Session.Parameters

set_option autoImplicit false

/-!
Sessions beside one store of templates. What one of them saves every one of them can load, with the
text and the parameters that it had, until somebody changes or removes the template.
-/

namespace QueryComposer

/-! ### The store -/

namespace TemplateStore

variable {store changed : TemplateStore} {id other : Uuid} {record : TemplateRecord}

theorem lookup_filter_ne (other id : Uuid) (records : List (Uuid × TemplateRecord)) :
    (records.filter (fun stored => stored.1 ≠ other)).lookup id =
      if id = other then none else records.lookup id := by
  induction records with
  | nil => split <;> rfl
  | cons stored records inner =>
    by_cases gone : stored.1 = other
    · rw [List.filter_cons_of_neg (by simpa using gone), inner, List.lookup_cons]
      split
      · rfl
      · rename_i ne
        rw [beq_false_of_ne (gone ▸ ne)]
    · rw [List.filter_cons_of_pos (by simpa using gone), List.lookup_cons, List.lookup_cons, inner]
      by_cases here : id = stored.1
      · rw [here, beq_self_eq_true]
        exact (if_neg gone).symm
      · rw [beq_false_of_ne here]

theorem get?_create (store : TemplateStore) (other id : Uuid) (record : TemplateRecord) :
    (store.create other record).get? id = if id = other then some record else store.get? id := by
  rw [get?, create, List.lookup_append, lookup_filter_ne]
  by_cases same : id = other
  · rw [if_pos same, if_pos same, same, List.lookup_cons, beq_self_eq_true]
    rfl
  · rw [if_neg same, if_neg same, List.lookup_cons, beq_false_of_ne same]
    exact Option.or_none

theorem get?_update_of_ne (ne : other ≠ id) (done : store.update other record = .ok changed) :
    changed.get? id = store.get? id := by
  unfold update at done
  cases edited : editFirst (fun stored : Uuid × TemplateRecord => stored.1 = other)
      (Error.unknownTemplate other) (fun _ => .ok ((), (other, record))) store.records with
  | error cause =>
    rw [edited] at done
    contradiction
  | ok result =>
    obtain ⟨_, records⟩ := result
    rw [edited] at done
    cases done
    obtain ⟨before, stored, _, after, whole, rfl, _, met, made⟩ := editFirst_split edited
    cases made
    have met : stored.1 = other := by simpa using met
    unfold get?
    rw [whole, List.lookup_append, List.lookup_append, List.lookup_cons, List.lookup_cons, met,
      beq_false_of_ne ne.symm]

theorem get?_delete_of_ne (ne : other ≠ id) (done : store.delete other = .ok changed) :
    changed.get? id = store.get? id := by
  unfold delete at done
  split at done
  · contradiction
  · rename_i stored records found
    cases done
    have met : stored.1 = other := by simpa using takeFirst?_meets found
    obtain ⟨before, after, whole, rest, _⟩ := takeFirst?_split found
    unfold get?
    rw [whole, rest, List.lookup_append, List.lookup_append, List.lookup_cons, met,
      beq_false_of_ne ne.symm]

end TemplateStore

/-! ### What a session does to the store -/

/-- The operation leaves what is stored under the identity. -/
def SessionOperation.Spares (id : Uuid) : SessionOperation → Prop
  | .saveTemplate other _ _ _ _ => other ≠ id
  | .replaceStore _ => False
  | _ => True

namespace Session

variable (session : Session)

theorem store_commit (query : Query) : (session.commit query).store = session.store := by
  unfold commit
  simp only
  split <;> rfl

theorem store_edit {α : Type} (change : Query → Except Error (α × Query)) :
    (session.edit change).2.store = session.store := by
  unfold edit
  split
  · rfl
  · exact session.store_commit _

theorem store_addTable (services : Services) (id : TableId) (schema name : String) :
    (session.addTable services id schema name).2.store = session.store := by
  unfold addTable
  split
  · rfl
  · exact session.store_commit _

theorem store_applySuggestion (request : SuggestionRequest)
    (answer : Except Error (List RelationshipSuggestion)) :
    (session.applySuggestion request answer).2.store = session.store := by
  unfold applySuggestion
  simp only
  split
  · rfl
  · rfl
  · exact session.store_commit _

theorem store_suggestJoin (services : Services) (id : JoinId) :
    (session.suggestJoin services id).2.store = session.store := by
  unfold suggestJoin
  split
  · rfl
  · rfl
  · exact store_applySuggestion _ _ _

theorem store_linkTables (services : Services) (id : JoinId) (left right : TableId) :
    (session.linkTables services id left right).2.store = session.store := by
  have linked : (session.editQuery (fun query => query.setJoinTables id left right)).2.store =
      session.store := session.store_edit _
  unfold linkTables
  split
  · rename_i edited
    rwa [edited] at linked
  · rename_i edited
    rw [edited] at linked
    exact (store_suggestJoin _ services id).trans linked

theorem store_editParameter (name : String) (change : Parameter → Parameter) :
    (session.editParameter name change).2.store = session.store := by
  unfold editParameter
  split <;> rfl

theorem store_execute (services : Services) :
    (session.execute services).2.store = session.store := by
  unfold execute
  split
  · rfl
  · simp only
    split <;> rfl

theorem store_executeAndWait (services : Services) :
    (session.executeAndWait services).2.store = session.store := by
  have executed := session.store_execute services
  unfold executeAndWait
  split
  · rename_i found
    rwa [found] at executed
  · rename_i found
    rw [found] at executed
    exact executed

theorem store_loadTemplate (id : Uuid) :
    (session.loadTemplate id).2.store = session.store := by
  unfold loadTemplate
  split <;> rfl

variable {session}

theorem get?_saveTemplate {id other : Uuid} (ne : other ≠ id) (name description : String)
    (tags : List String) (isPublic : Bool) :
    (session.saveTemplate other name description tags isPublic).2.store.get? id =
      session.store.get? id := by
  unfold saveTemplate
  split
  · rfl
  · exact (TemplateStore.get?_create _ _ _ _).trans (if_neg ne.symm)

theorem get?_perform {operation : SessionOperation} {id : Uuid} (spares : operation.Spares id)
    (services : Services) :
    (session.perform services operation).store.get? id = session.store.get? id := by
  have kept {changed : Session} (same : changed.store = session.store) :
      changed.store.get? id = session.store.get? id := congrArg (·.get? id) same
  cases operation with
  | setBinder binder => rfl
  | addTable table schema name => exact kept (session.store_addTable services table schema name)
  | change change => exact kept (session.store_edit _)
  | addGroupBy table column => exact kept (session.store_edit _)
  | addOrderBy table column direction => exact kept (session.store_edit _)
  | setPaging limit offset => exact kept (session.store_commit _)
  | addJoin join => exact kept (session.store_commit _)
  | linkTables join left right => exact kept (session.store_linkTables services join left right)
  | suggestJoin join => exact kept (session.store_suggestJoin services join)
  | resolveSuggestion request => exact kept (store_applySuggestion _ request _)
  | applySuggestion request answer => exact kept (session.store_applySuggestion request answer)
  | editConditions path edit => exact kept (session.store_edit _)
  | setSql sql => rfl
  | clearSql => rfl
  | startPreview => rfl
  | refreshParameters => rfl
  | setParameterType name type => exact kept (session.store_editParameter name _)
  | setParameterRequired name required defaultValue =>
    exact kept (session.store_editParameter name _)
  | setValue name value => rfl
  | clearValue name => rfl
  | execute => exact kept (session.store_execute services)
  | executeAndWait => exact kept (session.store_executeAndWait services)
  | saveTemplate other name description tags isPublic =>
    exact get?_saveTemplate spares name description tags isPublic
  | loadTemplate other => exact kept (session.store_loadTemplate other)
  | restore text => exact kept (session.store_edit _)
  | sleep duration => rfl
  | settle => rfl
  | replaceStore store => exact spares.elim

/-! ### What is saved and loaded -/

theorem InStep.toTemplate_eq_ok (inStep : session.InStep) {template : Template}
    (done : session.toTemplate = .ok template) :
    template = { sql := session.currentSql, parameters := session.parameters } := by
  -- whichever text is live, the session's own parameters are what an extraction makes of them
  have fixed := (Parameter.reextract_eq_iff _ _).mpr inStep
  unfold toTemplate CompiledQuery.sql? at done
  unfold currentSql at fixed ⊢
  split at done
  · rename_i sql written
    rw [written] at fixed ⊢
    cases done
    exact congrArg (Template.mk sql) fixed
  · rename_i written
    rw [written] at fixed ⊢
    split at done
    · cases done
      exact congrArg (Template.mk session.compile.sql) fixed
    · contradiction

/-- What is saved is a record that stands for the SQL and the parameters of the session. -/
theorem InStep.saveTemplate_eq_ok (inStep : session.InStep) {id saved : Uuid}
    {name description : String} {tags : List String} {isPublic : Bool}
    (done : (session.saveTemplate id name description tags isPublic).1 = .ok saved) :
    saved = id ∧ ∃ record : TemplateRecord,
      (session.saveTemplate id name description tags isPublic).2.store =
        session.store.create id record ∧
      record.template = { sql := session.currentSql, parameters := session.parameters } := by
  unfold saveTemplate at done ⊢
  split at done
  · contradiction
  · rename_i template made
    obtain rfl := inStep.toTemplate_eq_ok made
    cases done
    refine ⟨rfl, _, rfl, ?_⟩
    -- a record is reconciled with its text once more when it is read
    exact congrArg (Template.mk session.currentSql) ((Parameter.reextract_eq_iff _ _).mpr inStep)

theorem loadTemplate_of_get? {id : Uuid} {record : TemplateRecord}
    (stored : session.store.get? id = some record) :
    session.loadTemplate id =
      (.ok (), { session with
        handSql := some record.template.sql, parameters := record.template.parameters }) := by
  unfold loadTemplate
  rw [stored]

end Session

/-! ### Many sessions -/

/-- Sessions beside one store, which each of them finds as the others left it. -/
structure SharedStore where
  store : TemplateStore := {}
  sessions : List Session := []

/-- What can happen: a session comes in, one of them does something, or a template is stored,
changed or removed in the store itself. -/
inductive SharedStep
  | enter (settings : Settings) (binder : Binder)
  | act (number : Nat) (services : Services) (operation : SessionOperation)
  | create (id : Uuid) (record : TemplateRecord)
  | update (id : Uuid) (record : TemplateRecord)
  | delete (id : Uuid)

/-- The step neither changes nor removes the template under the identity, and gives the identity to
no other one. -/
def SharedStep.Spares (id : Uuid) : SharedStep → Prop
  | .enter _ _ => True
  | .act _ _ operation => operation.Spares id
  | .create other _ => other ≠ id
  | .update other _ => other ≠ id
  | .delete other => other ≠ id

namespace SharedStore

/-- A session as it is now, with the store as it is now. -/
def session? (shared : SharedStore) (number : Nat) : Option Session :=
  shared.sessions[number]?.map (fun session => { session with store := shared.store })

def act (shared : SharedStore) (number : Nat) (services : Services)
    (operation : SessionOperation) : SharedStore :=
  match shared.session? number with
  | none => shared
  | some session =>
    let changed := session.perform services operation
    { store := changed.store, sessions := shared.sessions.set number changed }

/-- Take the store that a change comes to, unless it is refused. -/
def adopt (shared : SharedStore) : Except Error TemplateStore → SharedStore
  | .error _ => shared
  | .ok store => { shared with store }

def perform (shared : SharedStore) : SharedStep → SharedStore
  | .enter settings binder =>
    { shared with sessions := shared.sessions ++ [Session.start settings binder shared.store] }
  | .act number services operation => shared.act number services operation
  | .create id record => { shared with store := shared.store.create id record }
  | .update id record => shared.adopt (shared.store.update id record)
  | .delete id => shared.adopt (shared.store.delete id)

def run (shared : SharedStore) (steps : List SharedStep) : SharedStore :=
  steps.foldl perform shared

theorem run_append (shared : SharedStore) (earlier later : List SharedStep) :
    shared.run (earlier ++ later) = (shared.run earlier).run later :=
  List.foldl_append

variable {shared : SharedStore}

theorem store_of_session? {number : Nat} {session : Session}
    (found : shared.session? number = some session) : session.store = shared.store := by
  unfold session? at found
  obtain ⟨_, _, rfl⟩ := Option.map_eq_some_iff.mp found
  rfl

def InStep (shared : SharedStore) : Prop :=
  ∀ session ∈ shared.sessions, session.InStep

theorem InStep.of_session? (inStep : shared.InStep) {number : Nat} {session : Session}
    (found : shared.session? number = some session) : session.InStep := by
  unfold session? at found
  obtain ⟨listed, place, rfl⟩ := Option.map_eq_some_iff.mp found
  exact inStep listed (List.mem_of_getElem? place)

theorem InStep.act (inStep : shared.InStep) (number : Nat) (services : Services)
    (operation : SessionOperation) : (shared.act number services operation).InStep := by
  unfold SharedStore.act
  split
  · exact inStep
  · rename_i session found
    intro changed listed
    rcases List.mem_or_eq_of_mem_set listed with other | rfl
    · exact inStep changed other
    · exact (inStep.of_session? found).perform services operation

theorem InStep.adopt (inStep : shared.InStep) (result : Except Error TemplateStore) :
    (shared.adopt result).InStep := by
  cases result with
  | error cause => exact inStep
  | ok store => exact inStep

theorem InStep.perform (inStep : shared.InStep) (step : SharedStep) :
    (shared.perform step).InStep := by
  cases step with
  | enter settings binder =>
    intro session listed
    rcases List.mem_append.mp listed with earlier | new
    · exact inStep session earlier
    · rw [List.mem_singleton.mp new]
      exact Session.inStep_start settings binder shared.store
  | act number services operation => exact inStep.act number services operation
  | create id record => exact inStep
  | update id record => exact inStep.adopt _
  | delete id => exact inStep.adopt _

theorem InStep.run (inStep : shared.InStep) (steps : List SharedStep) :
    (shared.run steps).InStep := by
  induction steps generalizing shared with
  | nil => exact inStep
  | cons step steps inner => exact inner (inStep.perform step)

theorem get?_act {operation : SessionOperation} {id : Uuid} (spares : operation.Spares id)
    (number : Nat) (services : Services) :
    (shared.act number services operation).store.get? id = shared.store.get? id := by
  unfold act
  split
  · rfl
  · rename_i session found
    rw [← store_of_session? found]
    exact Session.get?_perform spares services

theorem get?_perform {step : SharedStep} {id : Uuid} (spares : step.Spares id) :
    (shared.perform step).store.get? id = shared.store.get? id := by
  cases step with
  | enter settings binder => rfl
  | act number services operation => exact get?_act spares number services
  | create other record =>
    exact (TemplateStore.get?_create _ _ _ record).trans (if_neg (Ne.symm spares))
  | update other record =>
    cases done : shared.store.update other record with
    | error cause => rw [perform, done, adopt]
    | ok store =>
      rw [perform, done]
      exact TemplateStore.get?_update_of_ne spares done
  | delete other =>
    cases done : shared.store.delete other with
    | error cause => rw [perform, done, adopt]
    | ok store =>
      rw [perform, done]
      exact TemplateStore.get?_delete_of_ne spares done

theorem get?_run {steps : List SharedStep} {id : Uuid} (spares : ∀ step ∈ steps, step.Spares id) :
    (shared.run steps).store.get? id = shared.store.get? id := by
  induction steps generalizing shared with
  | nil => rfl
  | cons step steps inner =>
    have later : ((shared.perform step).run steps).store.get? id =
        (shared.perform step).store.get? id :=
      inner (fun other listed => spares other (List.mem_cons_of_mem step listed))
    exact later.trans (get?_perform (spares step List.mem_cons_self))

/-- What a session saves is loaded by every session beside the same store as it was: with the SQL
and the parameters of that session at that moment, whatever came before, and whatever comes in
between that neither changes nor removes the template. -/
theorem saved_template_loads (store : TemplateStore) (before after : List SharedStep)
    {number reader : Nat} {session other : Session} (services : Services) {id saved : Uuid}
    {name description : String} {tags : List String} {isPublic : Bool}
    (found : (run { store } before).session? number = some session)
    (done : (session.saveTemplate id name description tags isPublic).1 = .ok saved)
    (spares : ∀ step ∈ after, step.Spares saved)
    (reads : (run { store } (before ++
      .act number services (.saveTemplate id name description tags isPublic) ::
        after)).session? reader = some other) :
    ∃ loaded, other.loadTemplate saved = (.ok (), loaded) ∧
      loaded.currentSql = session.currentSql ∧ loaded.parameters = session.parameters := by
  have inStep : (run { store } before).InStep := by
    refine InStep.run ?_ before
    intro session listed
    contradiction
  obtain ⟨rfl, record, kept, template⟩ := (inStep.of_session? found).saveTemplate_eq_ok done
  have stored : other.store.get? saved = some record := by
    rw [store_of_session? reads, run_append]
    refine (get?_run spares).trans ?_
    rw [perform, act, found]
    simp only [Session.perform]
    rw [kept]
    exact (TemplateStore.get?_create _ _ _ record).trans (if_pos rfl)
  refine ⟨_, Session.loadTemplate_of_get? stored, ?_, ?_⟩
  · exact congrArg Template.sql template
  · exact congrArg Template.parameters template

/-! ### A template between two sessions -/

/-- Two sessions, the first of which writes a text and decides about its parameters. -/
def drafting : List SharedStep :=
  [ .enter {} {}, .enter {} {},
    .act 0 Session.runningServices (.setSql "SELECT * FROM orders WHERE id = :id AND state = ?"),
    .act 0 Session.runningServices (.setParameterType "id" .date),
    .act 0 Session.runningServices (.setParameterRequired "param1" false (some (.string "new"))) ]

/-- Meanwhile both write other texts, and another template comes and goes. -/
def meanwhile : List SharedStep :=
  [ .act 0 Session.runningServices (.setSql "SELECT 1"),
    .act 1 Session.runningServices (.setSql "SELECT :id"),
    .act 1 Session.runningServices (.saveTemplate (.uniform 2) "other" "" [] true),
    .update (.uniform 2) { name := "other", sql := "SELECT 2" },
    .delete (.uniform 2) ]

theorem drafted_template_loads :
    ∃ other loaded,
      (run {} (drafting ++
        .act 0 Session.runningServices (.saveTemplate (.uniform 1) "orders" "" [] false) ::
          meanwhile)).session? 1 = some other ∧
      other.loadTemplate (.uniform 1) = (.ok (), loaded) ∧
      loaded.currentSql = "SELECT * FROM orders WHERE id = :id AND state = ?" ∧
      loaded.parameters.map (fun parameter =>
        (parameter.name, parameter.type, parameter.typeLocked, parameter.required)) =
          [("id", .date, true, true), ("param1", .string, false, false)] := by
  obtain ⟨session, found⟩ : ∃ session, (run {} drafting).session? 0 = some session :=
    Option.isSome_iff_exists.mp (by decide +kernel)
  obtain ⟨other, reads⟩ : ∃ other, (run {} (drafting ++
      .act 0 Session.runningServices (.saveTemplate (.uniform 1) "orders" "" [] false) ::
        meanwhile)).session? 1 = some other :=
    Option.isSome_iff_exists.mp (by decide +kernel)
  have done : (session.saveTemplate (.uniform 1) "orders" "" [] false).1 = .ok (.uniform 1) := by
    have answer : ((run {} drafting).session? 0).map (fun session =>
        (session.saveTemplate (.uniform 1) "orders" "" [] false).1.toOption) =
          some (some (.uniform 1)) := by
      decide +kernel
    rw [found] at answer
    cases saved : (session.saveTemplate (.uniform 1) "orders" "" [] false).1 with
    | error cause => simp [saved, Except.toOption] at answer
    | ok id => simpa [saved, Except.toOption] using answer
  have sql : ((run {} drafting).session? 0).map Session.currentSql =
      some "SELECT * FROM orders WHERE id = :id AND state = ?" := by
    decide +kernel
  have parameters : ((run {} drafting).session? 0).map (fun session =>
      session.parameters.map (fun parameter =>
        (parameter.name, parameter.type, parameter.typeLocked, parameter.required))) =
      some [("id", .date, true, true), ("param1", .string, false, false)] := by
    decide +kernel
  rw [found, Option.map_some, Option.some.injEq] at sql parameters
  have spares : ∀ step ∈ meanwhile, step.Spares (.uniform 1) := by
    have ne : Uuid.uniform 2 ≠ Uuid.uniform 1 := by decide
    intro step listed
    simp only [meanwhile, List.mem_cons, List.not_mem_nil, or_false] at listed
    rcases listed with rfl | rfl | rfl | rfl | rfl
    · trivial
    · trivial
    · exact ne
    · exact ne
    · exact ne
  obtain ⟨loaded, loads, sameSql, sameParameters⟩ := saved_template_loads {} drafting meanwhile
    Session.runningServices found done spares reads
  exact ⟨other, loaded, reads, loads, sameSql.trans sql, by rw [sameParameters, parameters]⟩

end SharedStore

end QueryComposer
