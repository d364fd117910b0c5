import QueryComposer.Proofs.Change.Basic
import QueryComposer.Proofs.Suggestion.Merge

set_option autoImplicit false

/-!
Requests for suggestions beside changes of the query. Requests stay open for as long as they like
and are answered in any order, whatever became of the query since; an answer is only ever taken in
by the join it was asked for, while that join has the tables it was asked for.
-/

namespace QueryComposer

/-- A query and the requests that were made about it so far. -/
structure Inquiry where
  query : Query := {}
  asked : List SuggestionRequest := []

namespace Inquiry

inductive Event
  | change (change : QueryChange)
  | ask (id : JoinId) (source : String)
  | answer (number : Nat) (answer : Except Error (List RelationshipSuggestion))
      (settings : SuggestionSettings)

def next (inquiry : Inquiry) : Event → Inquiry
  | .change change => { inquiry with query := inquiry.query.step change }
  | .ask id source =>
    match inquiry.query.beginSuggestion id source with
    | .ok (some request) => { inquiry with asked := inquiry.asked ++ [request] }
    | _ => inquiry
  | .answer number answer settings =>
    match inquiry.asked[number]? with
    | some request =>
      { inquiry with query := (inquiry.query.applySuggestions request answer settings).2 }
    | none => inquiry

def run (inquiry : Inquiry) (events : List Event) : Inquiry :=
  events.foldl next inquiry

theorem run_append (inquiry : Inquiry) (earlier later : List Event) :
    inquiry.run (earlier ++ later) = (inquiry.run earlier).run later :=
  List.foldl_append

end Inquiry

theorem Query.beginSuggestion_eq_some {query : Query} {id : JoinId} {source : String}
    {request : SuggestionRequest} (made : query.beginSuggestion id source = .ok (some request)) :
    request.joinId = id ∧ request.IsCurrent query := by
  unfold beginSuggestion requireJoin at made
  cases found : query.join? id with
  | none =>
    rw [found] at made
    contradiction
  | some join =>
    rw [found] at made
    simp only at made
    split at made
    · cases made
    · rename_i left right chosen
      split at made
      · contradiction
      · split at made
        · contradiction
        · contradiction
        · cases made
          refine ⟨rfl, ?_⟩
          rw [SuggestionRequest.IsCurrent, found]
          exact chosen

namespace Inquiry

theorem mem_asked_next {inquiry : Inquiry} {event : Event} {request : SuggestionRequest}
    (member : request ∈ (inquiry.next event).asked) :
    request ∈ inquiry.asked ∨
      ∃ source, event = .ask request.joinId source ∧ request.IsCurrent inquiry.query := by
  cases event with
  | change change => exact Or.inl member
  | ask id source =>
    simp only [next] at member
    split at member
    · rename_i new made
      rcases List.mem_append.mp member with earlier | here
      · exact Or.inl earlier
      · cases List.mem_singleton.mp here
        obtain ⟨rfl, current⟩ := Query.beginSuggestion_eq_some made
        exact Or.inr ⟨source, rfl, current⟩
    · exact Or.inl member
  | answer number answer settings =>
    simp only [next] at member
    split at member <;> exact Or.inl member

/-- A request that was made along a run is about the tables that its join had then. -/
theorem mem_asked_run {inquiry : Inquiry} {events : List Event} {request : SuggestionRequest}
    (member : request ∈ (inquiry.run events).asked) :
    request ∈ inquiry.asked ∨
      ∃ earlier source later, events = earlier ++ .ask request.joinId source :: later ∧
        request.IsCurrent (inquiry.run earlier).query := by
  induction events generalizing inquiry with
  | nil => exact Or.inl member
  | cons event events inner =>
    rcases inner member with before | ⟨earlier, source, later, rfl, current⟩
    · rcases mem_asked_next before with old | ⟨source, rfl, current⟩
      · exact Or.inl old
      · exact Or.inr ⟨[], source, events, rfl, current⟩
    · exact Or.inr ⟨event :: earlier, source, later, rfl, current⟩

/-- However changes, requests and answers follow each other, the next answer goes to a request that
was made at some point about the tables its join had then. It does nothing unless the join is there
with these tables, and then it changes that join only; no column that is chosen changes. -/
theorem answer_changes_current_join (events : List Event) {number : Nat}
    {request : SuggestionRequest} (asked : (run {} events).asked[number]? = some request)
    (answer : Except Error (List RelationshipSuggestion)) (settings : SuggestionSettings) :
    (∃ earlier source later, events = earlier ++ .ask request.joinId source :: later ∧
      request.IsCurrent (run {} earlier).query) ∧
    (¬ request.IsCurrent (run {} events).query →
      (run {} (events ++ [.answer number answer settings])).query = (run {} events).query) ∧
    (request.IsCurrent (run {} events).query →
      ∃ before join changed after, (run {} events).query.joins = before ++ join :: after ∧
        (∀ other ∈ before, other.id ≠ request.joinId) ∧ join.id = request.joinId ∧
        join.Took answer settings changed ∧
        (run {} (events ++ [.answer number answer settings])).query =
          { (run {} events).query with joins := before ++ changed :: after }) ∧
    ∀ (index : Nat) (join : Join) (side : JoinSide) (column : String),
      (run {} events).query.joins[index]? = some join → join.column? side = some column →
      ∃ changed : Join,
        (run {} (events ++ [.answer number answer settings])).query.joins[index]? = some changed ∧
        changed.column? side = some column := by
  have merged : (run {} (events ++ [.answer number answer settings])).query =
      ((run {} events).query.applySuggestions request answer settings).2 := by
    rw [run_append, run, List.foldl_cons, List.foldl_nil, next, asked]
  rw [merged]
  refine ⟨?_, ?_, ?_, ?_⟩
  · rcases mem_asked_run (List.mem_of_getElem? asked) with impossible | made
    · contradiction
    · exact made
  · intro stale
    exact Query.applySuggestions_stale answer settings stale
  · intro current
    exact Query.applySuggestions_current answer settings current
  · intro index join side column listed chosen
    exact Query.applySuggestions_keepsColumns request answer settings listed chosen

def usersTable : Table :=
  { id := .uniform 6, name := "users" }

def ordersTable : Table :=
  { id := .uniform 7, name := "orders" }

def sampleRequest : SuggestionRequest :=
  { joinId := .uniform 2
    leftTable := usersTable.id
    rightTable := ordersTable.id
    source := "main"
    leftName := "users"
    rightName := "orders" }

def sampleSuggestion : RelationshipSuggestion :=
  { leftColumn := "id", rightColumn := "user_id", confidence := .zero false }

/-- Suggestions are asked for, and then the sides of the join are exchanged. -/
def exchangedSides : List Event :=
  [.change (.addTable usersTable), .change (.addTable ordersTable),
    .change (.addJoin sampleRequest.joinId),
    .change (.setJoinTables sampleRequest.joinId sampleRequest.leftTable sampleRequest.rightTable),
    .ask sampleRequest.joinId "main",
    .change (.setJoinTables sampleRequest.joinId sampleRequest.rightTable sampleRequest.leftTable)]

theorem exchangedSides_ignore_answer :
    (run {} exchangedSides).asked[0]? = some sampleRequest ∧
      (run {} (exchangedSides ++ [.answer 0 (.ok [sampleSuggestion]) {}])).query =
        (run {} exchangedSides).query :=
  have asked : (run {} exchangedSides).asked[0]? = some sampleRequest := by decide
  have exchanged : ¬ sampleRequest.IsCurrent (run {} exchangedSides).query := by
    unfold SuggestionRequest.IsCurrent
    decide
  ⟨asked,
    (answer_changes_current_join exchangedSides asked (.ok [sampleSuggestion]) {}).2.1 exchanged⟩

end Inquiry

end QueryComposer
