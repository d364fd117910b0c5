import Mathlib.Data.List.Induction
import QueryComposer.Proofs.Change.Effect

set_option autoImplicit false

/-!
What a change makes of each single join. Apart from restoring a text there are four things that
happen to a join: it is edited between the tables that it has, it gets a table on one side or on
both sides at once, or an answer to a request for suggestions goes to it. What holds of new joins
and is kept by these four holds of every join along a run.
-/

namespace QueryComposer

/-! ### One join -/

namespace Join

/-- The join is still between the same tables with the same suggestions, and it chooses no further
column except on a side whose table is chosen. -/
structure KeepsTables (join changed : Join) : Prop where
  id : changed.id = join.id
  tables : ∀ side, changed.table? side = join.table? side
  suggestions : changed.suggestions = join.suggestions
  columns : ∀ side, (changed.column? side).isSome = true →
    (join.column? side).isSome = true ∨ (join.table? side).isSome = true

namespace KeepsTables

theorem refl (join : Join) : join.KeepsTables join :=
  ⟨rfl, fun _ => rfl, rfl, fun _ => Or.inl⟩

theorem trans {join middle changed : Join} (first : join.KeepsTables middle)
    (second : middle.KeepsTables changed) : join.KeepsTables changed where
  id := second.id.trans first.id
  tables side := (second.tables side).trans (first.tables side)
  suggestions := second.suggestions.trans first.suggestions
  columns side chosen := by
    rcases second.columns side chosen with already | placed
    · exact first.columns side already
    · exact Or.inr (first.tables side ▸ placed)

theorem withColumn (join : Join) {side : JoinSide} {column : Option String}
    (placed : column.isSome = true → (join.table? side).isSome = true) :
    join.KeepsTables (join.withColumn column side) := by
  cases side with
  | left =>
    refine ⟨rfl, fun other => by cases other <;> rfl, rfl, fun other chosen => ?_⟩
    cases other with
    | left => exact Or.inr (placed chosen)
    | right => exact Or.inl chosen
  | right =>
    refine ⟨rfl, fun other => by cases other <;> rfl, rfl, fun other chosen => ?_⟩
    cases other with
    | left => exact Or.inl chosen
    | right => exact Or.inr (placed chosen)

theorem withKind (join : Join) (kind : JoinKind) : join.KeepsTables { join with kind } :=
  ⟨rfl, fun side => by cases side <;> rfl, rfl, fun side => by cases side <;> exact Or.inl⟩

end KeepsTables

/-- What a change other than restoring a text makes of a join. -/
inductive Revised (change : QueryChange) : Join → Join → Prop
  | keepsTables {join changed : Join} (kept : join.KeepsTables changed) :
    Revised change join changed
  | oneTable (join : Join) {side : JoinSide} {table : TableId}
    (apart : join.table? side.opposite ≠ some table) :
    Revised change join (join.withTable side table)
  | bothTables (join : Join) {left right : TableId} (apart : left ≠ right) :
    Revised change join ((join.withTable .left left).withTable .right right)
  | answered {join : Join} {request : SuggestionRequest}
    {answer : Except Error (List RelationshipSuggestion)} {settings : SuggestionSettings}
    (asked : change = .applySuggestions request answer settings)
    (named : join.id = request.joinId) :
    Revised change join (join.mergeAnswer request answer settings).2

theorem Revised.refl (change : QueryChange) (join : Join) : Revised change join join :=
  .keepsTables (.refl join)

theorem Revised.of_edited {tables : List Table} {join changed : Join} (change : QueryChange)
    (edits : join.Edited tables changed) : Revised change join changed := by
  cases edits with
  | withKind kind => exact .keepsTables (.withKind join kind)
  | withTable _ apart => exact .oneTable join apart
  | withTables _ _ apart => exact .bothTables join apart
  | withColumn admitted => exact .keepsTables (.withColumn join admitted.placed)
  | withColumns left right =>
    have first := KeepsTables.withColumn join left.placed
    exact .keepsTables (first.trans (.withColumn _ right.placed))

end Join

/-! ### One change -/

namespace Query

/-- Each join of the changed query is new, or is made by the change of one there was. -/
def RevisesJoins (query : Query) (change : QueryChange) (changed : Query) : Prop :=
  ∀ join ∈ changed.joins, (∃ id, join = { id }) ∨
    ∃ before ∈ query.joins, Join.Revised change before join

variable {query changed : Query} {change : QueryChange}

namespace RevisesJoins

theorem of_subset (kept : changed.joins ⊆ query.joins) : query.RevisesJoins change changed :=
  fun join member => Or.inr ⟨join, kept member, .refl change join⟩

theorem addJoin (query : Query) (id : JoinId) : query.RevisesJoins change (query.addJoin id) := by
  intro join member
  rcases List.mem_append.mp member with earlier | new
  · exact Or.inr ⟨join, earlier, .refl change join⟩
  · exact Or.inl ⟨id, List.mem_singleton.mp new⟩

theorem replaced {before after : List Join} {join edited : Join}
    (whole : query.joins = before ++ join :: after) (made : Join.Revised change join edited) :
    query.RevisesJoins change { query with joins := before ++ edited :: after } := by
  intro other member
  rcases mem_of_mem_replaced whole member with rfl | listed
  · exact Or.inr ⟨join, mem_of_split whole, made⟩
  · exact Or.inr ⟨other, listed, .refl change other⟩

/-- Every change but the restoring of a text revises the joins one by one. -/
theorem of_effect (effect : change.Effect query changed) (noText : ∀ text, change ≠ .restore text) :
    query.RevisesJoins change changed := by
  cases effect with
  | tableRemoved whole => exact of_subset List.filter_sublist.subset
  | joinAdded id => exact addJoin query id
  | joinRemoved whole => exact of_subset (subset_of_split whole)
  | joinEdited whole edits => exact replaced whole (.of_edited change edits)
  | answered whole named => exact replaced whole (.answered rfl named)
  | restored done => exact absurd rfl (noText _)
  | _ => exact of_subset (List.Subset.refl _)

end RevisesJoins

/-! ### Runs -/

/-- What new joins have and changes keep is so for every join after any changes from the empty
query, as long as no text is restored. -/
theorem forall_joins_run (holds : List QueryChange → Join → Prop)
    (new : ∀ changes id, holds changes { id })
    (revised : ∀ {earlier change before join}, holds earlier before →
      Join.Revised change before join → holds (earlier ++ [change]) join)
    {changes : List QueryChange} (noText : ∀ text, .restore text ∉ changes) :
    ∀ join ∈ (run {} changes).joins, holds changes join := by
  induction changes using List.reverseRecOn with
  | nil =>
    intro join impossible
    contradiction
  | append_singleton earlier change induct =>
    have held := induct (fun text member => noText text (List.mem_append_left _ member))
    intro join member
    rw [run_append, run_cons, run_nil] at member
    rcases (run {} earlier).step_cases change with same | done
    · rw [same] at member
      exact revised (held join member) (.refl change join)
    · have other (text : String) : change ≠ .restore text := by
        rintro rfl
        exact noText text (List.mem_append_right _ List.mem_cons_self)
      have revises := RevisesJoins.of_effect (QueryChange.effect_of_apply done) other
      rcases revises join member with ⟨id, rfl⟩ | ⟨before, listed, made⟩
      · exact new _ id
      · exact revised (held before listed) made

end Query

end QueryComposer
