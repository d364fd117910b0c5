import QueryComposer.Proofs.Suggestion.Ranking
import QueryComposer.Session.Basic

set_option autoImplicit false

/-!
What an answer to a request for suggestions does to a query: nothing, unless the join is still there
with the tables of the request, and then nothing outside the join's suggestions, except that the
columns may be chosen when none is.
-/

namespace QueryComposer

/-! ### One join -/

namespace Join

/-- An answer chooses the columns of the join: this is wanted, none of them is chosen, and a
suggestion is sure enough. -/
def TakesColumns (join : Join) (answer : Except Error (List RelationshipSuggestion))
    (settings : SuggestionSettings) : Prop :=
  settings.autoApply = true ∧ join.leftColumn = none ∧ join.rightColumn = none ∧
    ∃ offered, answer = .ok offered ∧
      ∃ suggestion ∈ offered, suggestion.passes settings.minConfidence = true

/-- The join after it took an answer. -/
structure Took (join : Join) (answer : Except Error (List RelationshipSuggestion))
    (settings : SuggestionSettings) (changed : Join) : Prop where
  keepsColumns : ¬ join.TakesColumns answer settings →
    changed = { join with suggestions := changed.suggestions }
  fillsColumns : join.TakesColumns answer settings →
    ∃ offered top, answer = .ok offered ∧
      RelationshipSuggestion.TopRanked settings.minConfidence offered top ∧
      changed = { join with
        leftColumn := some top.leftColumn
        rightColumn := some top.rightColumn
        suggestions := changed.suggestions }

theorem Took.keepsColumn {join changed : Join}
    {answer : Except Error (List RelationshipSuggestion)} {settings : SuggestionSettings}
    (took : join.Took answer settings changed) {side : JoinSide} {column : String}
    (chosen : join.column? side = some column) : changed.column? side = some column := by
  have kept : ¬ join.TakesColumns answer settings := by
    rintro ⟨_, left, right, _⟩
    cases side with
    | left => exact Option.some_ne_none column (chosen.symm.trans left)
    | right => exact Option.some_ne_none column (chosen.symm.trans right)
  rw [took.keepsColumns kept]
  cases side with
  | left => exact chosen
  | right => exact chosen

theorem mergeAnswer_stale {join : Join} {request : SuggestionRequest}
    (answer : Except Error (List RelationshipSuggestion)) (settings : SuggestionSettings)
    (other : join.endpoints? ≠ some (request.leftTable, request.rightTable)) :
    join.mergeAnswer request answer settings = (.stale, join) := by
  unfold mergeAnswer
  rw [if_pos other]

theorem withSuggestions_fills {join : Join} {autoApply : Bool} {top : RelationshipSuggestion}
    (others : List RelationshipSuggestion)
    (takes : autoApply = true ∧ join.leftColumn = none ∧ join.rightColumn = none) :
    (join.withSuggestions autoApply (top :: others)).2 =
      { join with
        leftColumn := some top.leftColumn
        rightColumn := some top.rightColumn
        suggestions := top :: others } := by
  obtain ⟨rfl, left, right⟩ := takes
  simp only [withSuggestions, left, right, Option.isNone_none, Bool.and_self, if_true]

theorem withSuggestions_keeps {join : Join} {autoApply : Bool}
    (ranked : List RelationshipSuggestion)
    (leaves : ¬ (autoApply = true ∧ join.leftColumn = none ∧ join.rightColumn = none)) :
    (join.withSuggestions autoApply ranked).2 = { join with suggestions := ranked } := by
  unfold withSuggestions
  cases ranked with
  | nil => rfl
  | cons top others =>
    have closed : ¬ (autoApply && join.leftColumn.isNone && join.rightColumn.isNone) = true := by
      simpa only [Bool.and_eq_true, Option.isNone_iff_eq_none, and_assoc] using leaves
    simp only [if_neg closed]

theorem mergeAnswer_took {join : Join} {request : SuggestionRequest}
    (answer : Except Error (List RelationshipSuggestion)) (settings : SuggestionSettings)
    (same : join.endpoints? = some (request.leftTable, request.rightTable)) :
    join.Took answer settings (join.mergeAnswer request answer settings).2 := by
  unfold mergeAnswer
  rw [if_neg (not_not_intro same)]
  cases answer with
  | error cause =>
    refine ⟨fun _ => rfl, ?_⟩
    rintro ⟨_, _, _, offered, impossible, _⟩
    contradiction
  | ok offered =>
    simp only
    by_cases takes : settings.autoApply = true ∧ join.leftColumn = none ∧ join.rightColumn = none
    · cases sorted : RelationshipSuggestion.ranked settings.minConfidence offered with
      | nil =>
        refine ⟨fun _ => rfl, ?_⟩
        rintro ⟨_, _, _, listed, same, suggestion, member, passes⟩
        cases same
        have unsure := (RelationshipSuggestion.ranked_eq_nil_iff _ _).mp sorted suggestion member
        rw [passes] at unsure
        contradiction
      | cons top others =>
        rw [withSuggestions_fills others takes]
        have ranked := RelationshipSuggestion.topRanked_of_ranked sorted
        refine ⟨?_, fun _ => ⟨offered, top, rfl, ranked, rfl⟩⟩
        intro leaves
        obtain ⟨before, after, whole, passes, _⟩ := ranked
        have member : top ∈ offered := by
          rw [whole]
          exact List.mem_append_right before List.mem_cons_self
        exact absurd ⟨takes.1, takes.2.1, takes.2.2, offered, rfl, top, member, passes⟩ leaves
    · rw [withSuggestions_keeps _ takes]
      refine ⟨fun _ => rfl, ?_⟩
      rintro ⟨wanted, left, right, _⟩
      exact absurd ⟨wanted, left, right⟩ takes

/-- Only an answer that does nothing is said to be stale, and none to be for a removed join. -/
theorem mergeAnswer_discarded {join changed : Join} {request : SuggestionRequest}
    {answer : Except Error (List RelationshipSuggestion)} {settings : SuggestionSettings}
    {outcome : SuggestionOutcome} (discarded : outcome = .stale ∨ outcome = .joinRemoved)
    (merged : join.mergeAnswer request answer settings = (outcome, changed)) :
    changed = join := by
  unfold mergeAnswer at merged
  split at merged
  · cases merged
    rfl
  · cases answer with
    | error cause =>
      cases merged
      rcases discarded with impossible | impossible <;> contradiction
    | ok offered =>
      simp only [withSuggestions] at merged
      split at merged
      · cases merged
        rcases discarded with impossible | impossible <;> contradiction
      · split at merged
        · cases merged
          rcases discarded with impossible | impossible <;> contradiction
        · cases merged
          rcases discarded with impossible | impossible <;> contradiction

end Join

/-! ### One query -/

/-- The join of the request is in the query, between the tables that the request is about. -/
def SuggestionRequest.IsCurrent (request : SuggestionRequest) (query : Query) : Prop :=
  (query.join? request.joinId).bind Join.endpoints? = some (request.leftTable, request.rightTable)

namespace Query

variable {query : Query} {request : SuggestionRequest}

theorem join?_split {id : JoinId} {join : Join} (found : query.join? id = some join) :
    ∃ before after, query.joins = before ++ join :: after ∧ (∀ other ∈ before, other.id ≠ id) ∧
      join.id = id := by
  obtain ⟨same, before, after, whole, skipped⟩ := List.find?_eq_some_iff_append.mp found
  refine ⟨before, after, whole, ?_, by simpa using same⟩
  intro other member
  simpa using skipped other member

/-- The answer to a request goes to the first join with the request's identity. -/
theorem applySuggestions_split (answer : Except Error (List RelationshipSuggestion))
    (settings : SuggestionSettings) {before after : List Join} {join : Join}
    (whole : query.joins = before ++ join :: after)
    (skipped : ∀ other ∈ before, other.id ≠ request.joinId) (same : join.id = request.joinId) :
    query.applySuggestions request answer settings =
      ((join.mergeAnswer request answer settings).1,
        { query with
          joins := before ++ (join.mergeAnswer request answer settings).2 :: after }) := by
  unfold applySuggestions
  rw [whole, editFirst_skip _ (fun other member => decide_eq_false (skipped other member)),
    editFirst, if_pos (decide_eq_true same)]
  rfl

theorem applySuggestions_missing (answer : Except Error (List RelationshipSuggestion))
    (settings : SuggestionSettings) (missing : query.join? request.joinId = none) :
    query.applySuggestions request answer settings = (.joinRemoved, query) := by
  have others : ∀ other ∈ query.joins, decide (other.id = request.joinId) = false := by
    intro other member
    simpa using List.find?_eq_none.mp missing other member
  unfold applySuggestions
  rw [← List.append_nil query.joins, editFirst_skip [] others, editFirst]
  rfl

/-- An answer that comes too late does nothing. -/
theorem applySuggestions_stale (answer : Except Error (List RelationshipSuggestion))
    (settings : SuggestionSettings) (stale : ¬ request.IsCurrent query) :
    (query.applySuggestions request answer settings).2 = query := by
  cases found : query.join? request.joinId with
  | none => rw [applySuggestions_missing answer settings found]
  | some join =>
    obtain ⟨before, after, whole, skipped, same⟩ := join?_split found
    have other : join.endpoints? ≠ some (request.leftTable, request.rightTable) := by
      intro current
      apply stale
      rw [SuggestionRequest.IsCurrent, found]
      exact current
    rw [applySuggestions_split answer settings whole skipped same,
      Join.mergeAnswer_stale answer settings other]
    exact congrArg (fun joins => { query with joins }) whole.symm

/-- An answer that comes in time goes to the one join it is about. -/
theorem applySuggestions_current (answer : Except Error (List RelationshipSuggestion))
    (settings : SuggestionSettings) (current : request.IsCurrent query) :
    ∃ before join changed after, query.joins = before ++ join :: after ∧
      (∀ other ∈ before, other.id ≠ request.joinId) ∧ join.id = request.joinId ∧
      join.Took answer settings changed ∧
      (query.applySuggestions request answer settings).2 =
        { query with joins := before ++ changed :: after } := by
  obtain ⟨join, found, same⟩ := Option.bind_eq_some_iff.mp current
  obtain ⟨before, after, whole, skipped, named⟩ := join?_split found
  refine ⟨before, join, (join.mergeAnswer request answer settings).2, after, whole, skipped, named,
    Join.mergeAnswer_took answer settings same, ?_⟩
  rw [applySuggestions_split answer settings whole skipped named]

/-- No answer changes a column that is chosen. -/
theorem applySuggestions_keepsColumns (request : SuggestionRequest)
    (answer : Except Error (List RelationshipSuggestion)) (settings : SuggestionSettings)
    {index : Nat} {join : Join} (listed : query.joins[index]? = some join) {side : JoinSide}
    {column : String} (chosen : join.column? side = some column) :
    ∃ changed, (query.applySuggestions request answer settings).2.joins[index]? = some changed ∧
      changed.column? side = some column := by
  by_cases current : request.IsCurrent query
  · obtain ⟨before, taker, changed, after, whole, _, _, took, made⟩ :=
      applySuggestions_current answer settings current
    rw [made]
    rw [whole] at listed
    rcases Nat.lt_trichotomy index before.length with earlier | rfl | later
    · rw [List.getElem?_append_left earlier] at listed
      exact ⟨join, by rw [List.getElem?_append_left earlier, listed], chosen⟩
    · rw [List.getElem?_append_right (Nat.le_refl _), Nat.sub_self,
        List.getElem?_cons_zero] at listed
      cases listed
      refine ⟨changed, ?_, took.keepsColumn chosen⟩
      rw [List.getElem?_append_right (Nat.le_refl _), Nat.sub_self, List.getElem?_cons_zero]
    · obtain ⟨further, rfl⟩ := Nat.exists_eq_add_of_lt later
      rw [List.getElem?_append_right (by omega), Nat.add_assoc, Nat.add_sub_cancel_left,
        List.getElem?_cons_succ] at listed
      refine ⟨join, ?_, chosen⟩
      rw [List.getElem?_append_right (by omega), Nat.add_assoc, Nat.add_sub_cancel_left,
        List.getElem?_cons_succ, listed]
  · rw [applySuggestions_stale answer settings current]
    exact ⟨join, listed, chosen⟩

theorem applySuggestions_discarded {answer : Except Error (List RelationshipSuggestion)}
    {settings : SuggestionSettings} {outcome : SuggestionOutcome} {changed : Query}
    (discarded : outcome = .stale ∨ outcome = .joinRemoved)
    (merged : query.applySuggestions request answer settings = (outcome, changed)) :
    changed = query := by
  unfold applySuggestions at merged
  split at merged
  · cases merged
    rfl
  · rename_i found
    obtain ⟨before, join, edited, after, whole, rfl, _, _, edits⟩ := editFirst_split found
    cases merged
    rw [Join.mergeAnswer_discarded discarded (Except.ok.inj edits), ← whole]

end Query

namespace Session

theorem query_commit (session : Session) (query : Query) :
    (session.commit query).query = query := by
  unfold commit refreshParameters
  split <;> rfl

/-- A session takes an answer into its query as the query does. -/
theorem query_applySuggestion (session : Session) (request : SuggestionRequest)
    (answer : Except Error (List RelationshipSuggestion)) :
    (session.applySuggestion request answer).2.query =
      (session.query.applySuggestions request answer session.settings.suggestion).2 := by
  unfold applySuggestion
  cases merged : session.query.applySuggestions request answer session.settings.suggestion with
  | mk outcome changed =>
    cases outcome with
    | stale => exact (Query.applySuggestions_discarded (Or.inl rfl) merged).symm
    | joinRemoved => exact (Query.applySuggestions_discarded (Or.inr rfl) merged).symm
    | applied left right => exact session.query_commit changed
    | stored count => exact session.query_commit changed
    | noSuggestion => exact session.query_commit changed
    | unavailable reason => exact session.query_commit changed

end Session

end QueryComposer
