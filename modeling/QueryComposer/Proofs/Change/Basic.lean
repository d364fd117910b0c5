import Mathlib.Data.List.Induction
import QueryComposer.Query.Snapshot
import QueryComposer.Query.Suggestion

set_option autoImplicit false

/-!
Changes to a query as data, and runs of them. A change that fails leaves the query as it is. Every
change is one that some part of the program makes; which edit of a condition it makes is left open.
-/

namespace QueryComposer

inductive QueryChange
  | addTable (table : Table)
  | removeTable (id : TableId)
  | setAlias (id : TableId) (name : Option String)
  | toggleColumn (id : TableId) (name : String)
  | setAggregate (id : TableId) (name : String) (aggregate : Option Aggregate)
  | addGroupBy (column : ColumnRef)
  | removeGroupBy (index : Nat)
  | addOrderBy (column : ColumnRef) (direction : SortDirection)
  | removeOrderBy (index : Nat)
  | setLimit (limit : Option UInt64)
  | setOffset (offset : Option UInt64)
  | addJoin (id : JoinId)
  | setJoinTables (id : JoinId) (left right : TableId)
  | setJoinTable (id : JoinId) (side : JoinSide) (table : TableId)
  | setJoinColumn (id : JoinId) (side : JoinSide) (column : Option String)
  | setJoinColumns (id : JoinId) (left right : Option String)
  | setJoinKind (id : JoinId) (kind : JoinKind)
  | removeJoin (id : JoinId)
  | applySuggestions (request : SuggestionRequest)
      (answer : Except Error (List RelationshipSuggestion)) (settings : SuggestionSettings)
  | setConditions (conditions : ConditionGroup)
  | updateConditions (edit : ConditionGroup → Except Error ConditionGroup)
  | restore (text : String)

/-- The changed query, or why there is none. -/
def QueryChange.apply (query : Query) : QueryChange → Except Error Query
  | .addTable table => .ok (query.addTable table)
  | .removeTable id => (query.removeTable id).map Prod.snd
  | .setAlias id name => query.setAlias id name
  | .toggleColumn id name => (query.toggleColumn id name).map Prod.snd
  | .setAggregate id name aggregate => query.setAggregate id name aggregate
  | .addGroupBy column => query.addGroupBy column
  | .removeGroupBy index => (query.removeGroupBy index).map Prod.snd
  | .addOrderBy column direction => query.addOrderBy column direction
  | .removeOrderBy index => (query.removeOrderBy index).map Prod.snd
  | .setLimit limit => .ok (query.setLimit limit)
  | .setOffset offset => .ok (query.setOffset offset)
  | .addJoin id => .ok (query.addJoin id)
  | .setJoinTables id left right => query.setJoinTables id left right
  | .setJoinTable id side table => query.setJoinTable id side table
  | .setJoinColumn id side column => query.setJoinColumn id side column
  | .setJoinColumns id left right => query.setJoinColumns id left right
  | .setJoinKind id kind => query.setJoinKind id kind
  | .removeJoin id => (query.removeJoin id).map Prod.snd
  | .applySuggestions request answer settings =>
    .ok (query.applySuggestions request answer settings).2
  | .setConditions conditions => .ok (query.setConditions conditions)
  | .updateConditions edit => query.updateConditions edit
  | .restore text => Query.restore text

theorem Except.map_eq_ok {ε α β : Type} {f : α → β} {result : Except ε α} {answer : β}
    (done : result.map f = .ok answer) : ∃ before, result = .ok before ∧ f before = answer := by
  cases result with
  | error cause => contradiction
  | ok before => exact ⟨before, rfl, Except.ok.inj done⟩

namespace Query

/-! ### Runs -/

/-- The query after a change. -/
def step (query : Query) (change : QueryChange) : Query :=
  match change.apply query with
  | .ok changed => changed
  | .error _ => query

/-- The query after several changes. -/
def run (query : Query) (changes : List QueryChange) : Query :=
  changes.foldl step query

theorem step_of_ok {query changed : Query} {change : QueryChange}
    (done : change.apply query = .ok changed) : query.step change = changed := by
  unfold step
  rw [done]

theorem step_cases (query : Query) (change : QueryChange) :
    query.step change = query ∨ change.apply query = .ok (query.step change) := by
  unfold step
  cases change.apply query with
  | ok changed => exact Or.inr rfl
  | error cause => exact Or.inl rfl

@[simp]
theorem run_nil (query : Query) : query.run [] = query :=
  rfl

@[simp]
theorem run_cons (query : Query) (change : QueryChange) (changes : List QueryChange) :
    query.run (change :: changes) = (query.step change).run changes :=
  rfl

theorem run_append (query : Query) (earlier later : List QueryChange) :
    query.run (earlier ++ later) = (query.run earlier).run later :=
  List.foldl_append

theorem run_concat (query : Query) (changes : List QueryChange) (change : QueryChange) :
    query.run (changes ++ [change]) = (query.run changes).step change := by
  rw [run_append, run_cons, run_nil]

/-- What one change keeps exactly under some condition holds all along a run exactly when every
change meets the condition where it is made. -/
theorem run_throughout_iff {holds : Query → Prop} {meets : Query → QueryChange → Prop}
    (step_iff : ∀ query change, holds query → (holds (query.step change) ↔ meets query change))
    {query : Query} (begins : holds query) (changes : List QueryChange) :
    (∀ earlier, earlier <+: changes → holds (query.run earlier)) ↔
      ∀ earlier change, earlier ++ [change] <+: changes → meets (query.run earlier) change := by
  constructor
  · -- the condition on a change is read off the queries before and after it
    intro throughout earlier change start
    have before := throughout earlier ((List.prefix_append earlier [change]).trans start)
    have after := throughout (earlier ++ [change]) start
    rw [run_concat] at after
    exact (step_iff _ change before).mp after
  · intro met earlier
    induction earlier using List.reverseRecOn with
    | nil => exact fun _ => begins
    | append_singleton earlier change induct =>
      intro start
      have before := induct ((List.prefix_append earlier [change]).trans start)
      rw [run_concat]
      exact (step_iff _ change before).mpr (met earlier change start)

/-! ### Changes of one table or one join -/

/-- The identities of the tables. -/
def tableIds (query : Query) : List TableId :=
  query.tables.map Table.id

theorem requireTable_eq_ok {query : Query} {id : TableId} {table : Table}
    (found : query.requireTable id = .ok table) : id ∈ query.tableIds := by
  unfold requireTable at found
  split at found
  · rename_i present
    have same : table.id = id := by
      cases found
      simpa using List.find?_some present
    cases found
    exact List.mem_map.mpr ⟨table, List.mem_of_find?_eq_some present, same⟩
  · contradiction

theorem editTable_split {α : Type} {query changed : Query} {id : TableId}
    {edit : Table → Except Error (α × Table)} {answer : α}
    (done : query.editTable id edit = .ok (answer, changed)) :
    ∃ before table edited after, query.tables = before ++ table :: after ∧
      (∀ other ∈ before, other.id ≠ id) ∧ table.id = id ∧ edit table = .ok (answer, edited) ∧
      changed = { query with tables := before ++ edited :: after } := by
  obtain ⟨⟨_, tables⟩, found, made⟩ := Except.map_eq_ok done
  cases made
  obtain ⟨before, table, edited, after, whole, rfl, skipped, met, edits⟩ := editFirst_split found
  refine ⟨before, table, edited, after, whole, ?_, by simpa using met, edits, rfl⟩
  intro other member
  simpa using skipped other member

theorem editJoin_split {query changed : Query} {id : JoinId} {edit : Join → Except Error Join}
    (done : query.editJoin id edit = .ok changed) :
    ∃ before join edited after, query.joins = before ++ join :: after ∧
      (∀ other ∈ before, other.id ≠ id) ∧ join.id = id ∧ edit join = .ok edited ∧
      changed = { query with joins := before ++ edited :: after } := by
  obtain ⟨⟨_, joins⟩, found, rfl⟩ := Except.map_eq_ok done
  obtain ⟨before, join, edited, after, whole, rfl, skipped, met, edits⟩ := editFirst_split found
  obtain ⟨made, finished, same⟩ := Except.map_eq_ok edits
  cases same
  refine ⟨before, join, edited, after, whole, ?_, by simpa using met, finished, rfl⟩
  intro other member
  simpa using skipped other member

theorem editJoin_of_split {query : Query} {id : JoinId} (edit : Join → Except Error Join)
    {before after : List Join} {join : Join} (whole : query.joins = before ++ join :: after)
    (skipped : ∀ other ∈ before, other.id ≠ id) (named : join.id = id) :
    query.editJoin id edit =
      (edit join).map (fun edited => { query with joins := before ++ edited :: after }) := by
  unfold editJoin
  rw [whole, editFirst_skip _ (fun other member => decide_eq_false (skipped other member)),
    editFirst, if_pos (decide_eq_true named)]
  cases edit join <;> rfl

/-! ### Removed tables and joins -/

theorem removeTable_split {query changed : Query} {id : TableId} {removed : Table}
    (done : query.removeTable id = .ok (removed, changed)) :
    ∃ before after, query.tables = before ++ removed :: after ∧ removed.id = id ∧
      changed = { query with
        tables := before ++ after
        joins := query.joins.filter (fun join => !join.touches id)
        conditions := query.conditions.retainLeaves (fun comparison => !comparison.references id)
        groupBy := query.groupBy.filter (fun column => column.tableId ≠ id)
        orderBy := query.orderBy.filter (fun entry => entry.column.tableId ≠ id) } := by
  unfold removeTable at done
  split at done
  · contradiction
  · rename_i found
    obtain ⟨before, after, whole, rfl, _⟩ := takeFirst?_split found
    have same := takeFirst?_meets found
    cases done
    exact ⟨before, after, whole, by simpa using same, rfl⟩

theorem removeJoin_split {query changed : Query} {id : JoinId} {removed : Join}
    (done : query.removeJoin id = .ok (removed, changed)) :
    ∃ before after, query.joins = before ++ removed :: after ∧
      changed = { query with joins := before ++ after } := by
  unfold removeJoin at done
  split at done
  · contradiction
  · rename_i found
    obtain ⟨before, after, whole, rfl, _⟩ := takeFirst?_split found
    cases done
    exact ⟨before, after, whole, rfl⟩

end Query

end QueryComposer
