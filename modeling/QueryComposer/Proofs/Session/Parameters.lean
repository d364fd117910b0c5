import QueryComposer.Proofs.Session.Submission

set_option autoImplicit false

/-!
The parameters of a session are always those of its SQL. To extract the parameters once more changes
nothing: what was decided about a parameter is kept by each extraction, and all else about it is
read off the text again.
-/

namespace QueryComposer

namespace Parameter

/-- To decide about a parameter by hand leaves it one that follows the text. -/
theorem Follows.override {fresh parameter changed : Parameter} (follows : fresh.Follows parameter)
    (overrides : changed.Overrides parameter) : fresh.Follows changed := by
  refine ⟨overrides.name.trans follows.name, overrides.kind.trans follows.kind, ?_⟩
  intro unlocked
  obtain ⟨before, same⟩ := overrides.type unlocked
  exact same.trans (follows.type before)

theorem forall₂_follows_override {fresh before after : List Parameter}
    {parameter changed : Parameter}
    (follow : List.Forall₂ Follows fresh (before ++ parameter :: after))
    (overrides : changed.Overrides parameter) :
    List.Forall₂ Follows fresh (before ++ changed :: after) := by
  induction before generalizing fresh with
  | nil =>
    obtain ⟨first, others, here, later, rfl⟩ := List.forall₂_cons_right_iff.mp follow
    exact .cons (here.override overrides) later
  | cons earlier before inner =>
    obtain ⟨first, others, here, later, rfl⟩ := List.forall₂_cons_right_iff.mp follow
    exact .cons here (inner later)

end Parameter

namespace Session

/-- The parameters of the session are those of its SQL. -/
def InStep (session : Session) : Prop :=
  Parameter.AllFollow session.currentSql session.parameters

theorem inStep_refreshParameters (session : Session) : session.refreshParameters.InStep :=
  Parameter.allFollow_reextract session.currentSql session.parameters

theorem Aside.currentSql {session changed : Session} (same : session.Aside changed) :
    changed.currentSql = session.currentSql := by
  unfold Session.currentSql compile
  rw [same.handSql, same.query, same.settings]

theorem InStep.commit {session : Session} (inStep : session.InStep) (query : Query) :
    (session.commit query).InStep := by
  unfold Session.commit
  simp only
  split
  · exact inStep_refreshParameters _
  · rename_i written
    -- The SQL is written by hand, so that the query has no part in it.
    obtain ⟨sql, found⟩ : ∃ sql, session.handSql = some sql := by
      cases handSql : session.handSql with
      | none => simp [handSql] at written
      | some sql => exact ⟨sql, rfl⟩
    unfold InStep currentSql at inStep ⊢
    simp only [found, Option.getD_some] at inStep ⊢
    exact inStep

theorem InStep.editParameter {session : Session} (inStep : session.InStep) (name : String)
    {change : Parameter → Parameter}
    (overrides : ∀ parameter : Parameter, (change parameter).Overrides parameter) :
    (session.editParameter name change).2.InStep := by
  unfold Session.editParameter
  split
  · exact inStep
  · rename_i parameters found
    obtain ⟨before, parameter, edited, after, whole, rfl, _, _, made⟩ := editFirst_split found
    obtain rfl : change parameter = edited := congrArg Prod.snd (Except.ok.inj made)
    unfold InStep Parameter.AllFollow at inStep ⊢
    rw [whole] at inStep
    exact Parameter.forall₂_follows_override inStep (overrides parameter)

theorem InStep.moves {session changed : Session} (inStep : session.InStep)
    (moves : session.Moves changed) : changed.InStep := by
  induction moves with
  | aside same =>
    unfold InStep at inStep ⊢
    rwa [same.currentSql, same.parameters]
  | commit session query => exact inStep.commit query
  | write session handSql => exact inStep_refreshParameters _
  | override session name change overrides => exact inStep.editParameter name overrides
  | load session record => exact Parameter.allFollow_reextract record.sql record.parameters
  | trans before after first second => exact second (first inStep)

/-- What is submitted changes neither the SQL nor its parameters. -/
theorem InStep.execute {session : Session} (inStep : session.InStep) (services : Services) :
    (session.execute services).2.InStep := by
  rcases session.execute_cases services with ⟨_, _, _, moves⟩ | ⟨request, _, submitted⟩
  · exact inStep.moves moves
  · rw [submitted]
    exact inStep_refreshParameters session

theorem InStep.executeAndWait {session : Session} (inStep : session.InStep)
    (services : Services) : (session.executeAndWait services).2.InStep := by
  have executed := inStep.execute services
  unfold Session.executeAndWait
  split
  · rename_i found
    rwa [found] at executed
  · rename_i found
    rw [found] at executed
    exact executed

theorem InStep.perform {session : Session} (inStep : session.InStep) (services : Services)
    (operation : SessionOperation) : (session.perform services operation).InStep := by
  by_cases execute : operation = .execute
  · subst execute
    exact inStep.execute services
  by_cases wait : operation = .executeAndWait
  · subst wait
    exact inStep.executeAndWait services
  · exact inStep.moves (Moves.perform session services execute wait)

theorem InStep.run {session : Session} (inStep : session.InStep)
    (script : List (Services × SessionOperation)) : (session.run script).InStep := by
  induction script generalizing session with
  | nil => exact inStep
  | cons step script inner => exact inner (inStep.perform step.1 step.2)

theorem inStep_start (settings : Settings) (binder : Binder) (store : TemplateStore) :
    (start settings binder store).InStep :=
  List.Forall₂.nil

/-- Along every run of operations the parameters of a session are those that an extraction from its
SQL leaves as they are: the parameters of the SQL in its order, each with the type that its
surroundings suggest unless another was chosen by hand. -/
theorem run_parameters_follow_sql (settings : Settings) (binder : Binder) (store : TemplateStore)
    (script : List (Services × SessionOperation)) :
    let session := (start settings binder store).run script
    Parameter.reextract session.currentSql session.parameters = session.parameters ∧
    session.parameters.map Parameter.name =
      (Parameter.extract session.currentSql).map Parameter.name ∧
    List.Forall₂
      (fun fresh parameter => parameter.typeLocked = false → parameter.type = fresh.type)
      (Parameter.extract session.currentSql) session.parameters := by
  intro session
  have inStep : session.InStep := (inStep_start settings binder store).run script
  exact ⟨(Parameter.reextract_eq_iff _ _).mpr inStep, inStep.names,
    inStep.imp (fun _ _ follows => follows.type)⟩

end Session

end QueryComposer
