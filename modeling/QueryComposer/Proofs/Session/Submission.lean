import QueryComposer.Proofs.Parameter.Binding
import QueryComposer.Proofs.Session.Operation
import QueryComposer.Proofs.Template.Parameters

set_option autoImplicit false

/-!
What is submitted for execution. Whatever was done with a session before, a request has the live SQL
of the session at that moment, a value for each of its placeholders, and no value that fails.
-/

namespace QueryComposer

namespace Session

/-- The request is one that the session may submit: it has the live SQL, which is written by hand
and not blank or that of a query that lacks nothing; it binds the names of the placeholders, each
once in the order of their first places; and no supplied value fails. -/
structure Admits (session : Session) (request : ExecutionRequest) : Prop where
  live : request.sql = session.currentSql
  executable :
    (session.handSql = some request.sql ∧ Text.isBlankText request.sql = false) ∨
      (session.handSql = none ∧ session.compile.isValid = true ∧
        request.sql = (session.query.compile session.settings.compiler).sql)
  names :
    request.parameters.map BoundParameter.name =
      distinctBy id [] ((Placeholder.scan request.sql).map Placeholder.name)
  valid :
    (session.binder.validateAll (Parameter.reextract request.sql session.parameters)
      session.values).errors = []

theorem kind_of_executableSql_eq_error {session : Session} {error : Error}
    (refused : session.executableSql = .error error) : error.kind = .compile := by
  unfold executableSql at refused
  split at refused
  · split at refused
    · cases refused
      rfl
    · contradiction
  · unfold CompiledQuery.sql? at refused
    split at refused
    · contradiction
    · cases refused
      rfl

/-- Where the live SQL can be executed, its parameters are bound as they are after a refresh. -/
theorem execute_of_executable {session : Session} {sql : String}
    (found : session.executableSql = .ok sql) (services : Services) :
    session.execute services =
      match session.binder.bind session.refreshParameters.parameters session.values with
      | .error error => (.error error, session.refreshParameters)
      | .ok bound =>
        session.refreshParameters.submit services
          (session.refreshParameters.requestFor sql bound) := by
  unfold execute refreshParameters
  rw [found]
  obtain ⟨rfl, _⟩ := executableSql_eq_ok found
  rfl

/-- A request for the live SQL with parameters that were bound is admitted. -/
theorem admits_of_bind {session : Session} {sql : String} {bound : List BoundParameter}
    (found : session.executableSql = .ok sql)
    (done : session.binder.bind session.refreshParameters.parameters session.values = .ok bound) :
    session.Admits (session.refreshParameters.requestFor sql bound) := by
  obtain ⟨live, executable⟩ := executableSql_eq_ok found
  obtain ⟨valid, rfl⟩ := Binder.bind_eq_ok_iff.mp done
  rw [refreshParameters, ← live] at valid
  refine ⟨live, ?_, ?_, valid⟩
  · refine executable.imp_right (fun ⟨compiled, lacksNothing⟩ => ⟨compiled, lacksNothing, ?_⟩)
    rw [currentSql, compiled] at live
    exact live
  · refine (Binder.names_bound _ _).trans ?_
    rw [refreshParameters, ← live]
    exact (Parameter.names_reextract _ _).trans (Parameter.names_extract sql)

/-- Executing is refused with a compile or a validation error, or it submits one request and answers
what the service answers. -/
theorem execute_cases (session : Session) (services : Services) :
    (∃ error, (error.kind = .compile ∨ error.kind = .validation) ∧
      (session.execute services).1 = .error error ∧ session.Moves (session.execute services).2) ∨
    ∃ request, session.Admits request ∧
      session.execute services = session.refreshParameters.submit services request := by
  cases found : session.executableSql with
  | error error =>
    have refused : session.execute services = (.error error, session) := by
      unfold execute
      rw [found]
    rw [refused]
    exact Or.inl ⟨error, Or.inl (kind_of_executableSql_eq_error found), rfl, Moves.refl session⟩
  | ok sql =>
    rw [execute_of_executable found]
    cases done : session.binder.bind session.refreshParameters.parameters session.values with
    | error error =>
      obtain ⟨-, rfl⟩ := Binder.bind_eq_error_iff.mp done
      exact Or.inl ⟨_, Or.inr rfl, rfl, .write session session.handSql⟩
    | ok bound => exact Or.inr ⟨_, admits_of_bind found done, rfl⟩

theorem Moves.requests {session changed : Session} (moves : session.Moves changed) :
    changed.log.requests = session.log.requests := by
  induction moves with
  | aside same => exact same.requests
  | commit session query =>
    unfold Session.commit
    simp only
    split <;> rfl
  | write session handSql => rfl
  | override session name change overrides =>
    unfold editParameter
    split <;> rfl
  | load session record => rfl
  | trans before after first second => rw [second, first]

theorem executeAndWait_requests (session : Session) (services : Services) :
    (session.executeAndWait services).2.log.requests =
      (session.execute services).2.log.requests := by
  unfold executeAndWait
  split
  · rename_i executed
    rw [executed]
  · rename_i executed
    rw [executed]

/-- An operation submits nothing, or it executes and submits one request that is admitted then. -/
theorem perform_requests (session : Session) (services : Services)
    (operation : SessionOperation) :
    (session.perform services operation).log.requests = session.log.requests ∨
    ((operation = .execute ∨ operation = .executeAndWait) ∧
      ∃ request, session.Admits request ∧
        (session.perform services operation).log.requests = session.log.requests ++ [request]) := by
  have executed :
      (session.execute services).2.log.requests = session.log.requests ∨
        ∃ request, session.Admits request ∧
          (session.execute services).2.log.requests = session.log.requests ++ [request] := by
    rcases session.execute_cases services with ⟨_, _, _, moves⟩ | ⟨request, admitted, submitted⟩
    · exact Or.inl moves.requests
    · refine Or.inr ⟨request, admitted, ?_⟩
      rw [submitted]
      rfl
  by_cases execute : operation = .execute
  · subst execute
    exact executed.imp_right (fun new => ⟨Or.inl rfl, new⟩)
  by_cases wait : operation = .executeAndWait
  · subst wait
    rw [← executeAndWait_requests] at executed
    exact executed.imp_right (fun new => ⟨Or.inr rfl, new⟩)
  · exact Or.inl (Moves.perform session services execute wait).requests

/-- A request that came at some place in a run was submitted by an operation that executes, after as
many others, and was admitted then. -/
theorem request_run {session : Session} {script : List (Services × SessionOperation)}
    {number : Nat} {request : ExecutionRequest}
    (received : (session.run script).log.requests[number]? = some request) :
    session.log.requests[number]? = some request ∨
    ∃ earlier services operation later, script = earlier ++ (services, operation) :: later ∧
      (operation = .execute ∨ operation = .executeAndWait) ∧
      (session.run earlier).log.requests.length = number ∧
      (session.run earlier).Admits request := by
  induction script generalizing session with
  | nil => exact Or.inl received
  | cons step script inner =>
    obtain ⟨services, operation⟩ := step
    rcases inner received with here | ⟨earlier, others, later, rest, rfl, executes, count, admitted⟩
    · rcases session.perform_requests services operation with
        same | ⟨executes, new, admitted, added⟩
      · rw [same] at here
        exact Or.inl here
      · rw [added] at here
        rcases Nat.lt_or_ge number session.log.requests.length with before | after
        · rw [List.getElem?_append_left before] at here
          exact Or.inl here
        · rw [List.getElem?_append_right after, List.getElem?_singleton] at here
          split at here
          · cases here
            have count : session.log.requests.length = number := by omega
            exact Or.inr ⟨[], services, operation, script, rfl, executes, count, admitted⟩
          · contradiction
    · exact Or.inr ⟨(services, operation) :: earlier, others, later, rest, rfl, executes, count,
        admitted⟩

/-- An execution that ends in a compile or a validation error submits nothing, unless it is the
service that answers so. -/
theorem execute_refused {session : Session} {services : Services} {error : Error}
    (ends : (session.execute services).1 = .error error) :
    (session.execute services).2.log.requests = session.log.requests ∨
      ∃ request, services.submit session.log.requests.length request = .error error ∧
        (session.execute services).2.log.requests = session.log.requests ++ [request] := by
  rcases session.execute_cases services with ⟨_, _, _, moves⟩ | ⟨request, _, submitted⟩
  · exact Or.inl moves.requests
  · rw [submitted] at ends ⊢
    exact Or.inr ⟨request, ends, rfl⟩

theorem kind_of_toResult_eq_error {outcome : PollOutcome} {error : Error}
    (ends : outcome.toResult = .error error) : error.kind = .service ∨ error.kind = .timeout := by
  unfold PollOutcome.toResult at ends
  split at ends
  · cases ends
    exact Or.inl rfl
  · contradiction
  · cases ends
    exact Or.inr rfl
  · cases ends
    exact Or.inl rfl

/-- To wait for a submitted query ends in other errors. -/
theorem executeAndWait_refused {session : Session} {services : Services} {error : Error}
    (kind : error.kind = .compile ∨ error.kind = .validation)
    (ends : (session.executeAndWait services).1 = .error error) :
    (session.execute services).1 = .error error := by
  unfold executeAndWait at ends
  split at ends
  · rename_i executed
    rw [executed]
    cases ends
    rfl
  · have other := kind_of_toResult_eq_error ends
    rcases kind with compile | validation
    · rw [compile] at other
      simp at other
    · rw [validation] at other
      simp at other

/-- Along every run of operations, whatever the services answer, each request was submitted by an
operation that executes, and the session as it was then admits it. An execution of any session that
ends in a compile or a validation error submits nothing, unless the service itself answered so to
what was submitted. -/
theorem run_submits_admitted (settings : Settings) (binder : Binder) (store : TemplateStore)
    (script : List (Services × SessionOperation)) :
    (∀ (number : Nat) (request : ExecutionRequest),
      ((start settings binder store).run script).log.requests[number]? = some request →
      ∃ earlier services operation later, script = earlier ++ (services, operation) :: later ∧
        (operation = .execute ∨ operation = .executeAndWait) ∧
        ((start settings binder store).run earlier).log.requests.length = number ∧
        ((start settings binder store).run earlier).Admits request) ∧
    ∀ (session : Session) (services : Services) (error : Error),
      error.kind = .compile ∨ error.kind = .validation →
      ((session.execute services).1 = .error error →
        (session.execute services).2.log.requests = session.log.requests ∨
        ∃ request, services.submit session.log.requests.length request = .error error ∧
          (session.execute services).2.log.requests = session.log.requests ++ [request]) ∧
      ((session.executeAndWait services).1 = .error error →
        (session.executeAndWait services).2.log.requests = session.log.requests ∨
        ∃ request, services.submit session.log.requests.length request = .error error ∧
          (session.executeAndWait services).2.log.requests =
            session.log.requests ++ [request]) := by
  constructor
  · intro number request received
    rcases request_run received with impossible | submitted
    · contradiction
    · exact submitted
  · intro session services error kind
    refine ⟨execute_refused, ?_⟩
    intro ends
    rw [executeAndWait_requests]
    exact execute_refused (executeAndWait_refused kind ends)

/-- Services that know nothing and take every query, which then never comes to its end. -/
def runningServices : Services :=
  { columns := fun _ _ _ => .ok []
    suggest := fun _ _ _ => .ok []
    submit := fun number _ => .ok (toString number)
    status := fun _ => .ok .running }

/-- The first of the two executions lacks a value. -/
example :
    (((start {} {} {}).run
        [ (runningServices, .setSql "SELECT :id, ':name'"),
          (runningServices, .execute),
          (runningServices, .setValue "id" (.int 3)),
          (runningServices, .execute) ]).log.requests.map (fun request =>
        (request.sql, request.parameters.map BoundParameter.name))) =
      [("SELECT :id, ':name'", ["id"])] := by
  decide +kernel

end Session

end QueryComposer
