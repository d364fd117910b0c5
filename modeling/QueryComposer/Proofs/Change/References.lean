import QueryComposer.Proofs.Change.Effect
import QueryComposer.Proofs.Change.Retained

set_option autoImplicit false

/-!
Which tables a query names. A run of changes keeps every named table among the tables of the query
as long as the conditions it sets name such tables only: each other change looks a table up before
it names it, or takes away what names a table together with the table.
-/

namespace QueryComposer

/-! ### Conditions -/

/-- Every table that the comparisons name is one of the tables. -/
def ConditionGroup.NamesOnly (group : ConditionGroup) (tables : List TableId) : Prop :=
  ∀ comparison ∈ group.leaves, ∀ id, comparison.tableId = some id → id ∈ tables

/-! ### Joins -/

/-- Every table that the join names is one of the tables. -/
def Join.NamesOnly (join : Join) (tables : List TableId) : Prop :=
  ∀ id, join.touches id = true → id ∈ tables

namespace Join

variable {tables : List TableId} {join : Join}

theorem touches_iff (join : Join) (id : TableId) :
    join.touches id = true ↔ join.leftTable = some id ∨ join.rightTable = some id := by
  simp [touches]

theorem NamesOnly.withTable (known : join.NamesOnly tables) (side : JoinSide) {table : TableId}
    (member : table ∈ tables) : (join.withTable side table).NamesOnly tables := by
  intro id touched
  unfold Join.withTable at touched
  split at touched
  · exact known id touched
  · cases side with
    | left =>
      rcases (touches_iff _ id).mp touched with chosen | present
      · cases chosen
        exact member
      · exact known id ((touches_iff join id).mpr (Or.inr present))
    | right =>
      rcases (touches_iff _ id).mp touched with present | chosen
      · exact known id ((touches_iff join id).mpr (Or.inl present))
      · cases chosen
        exact member

/-- What a join names is settled by its two tables. -/
theorem NamesOnly.of_same_tables {changed : Join} (known : join.NamesOnly tables)
    (left : changed.leftTable = join.leftTable) (right : changed.rightTable = join.rightTable) :
    changed.NamesOnly tables := by
  intro id touched
  apply known id
  rw [touches_iff] at touched ⊢
  rwa [left, right] at touched

theorem tables_withColumn (join : Join) (column : Option String) (side : JoinSide) :
    (join.withColumn column side).leftTable = join.leftTable ∧
      (join.withColumn column side).rightTable = join.rightTable := by
  cases side <;> exact ⟨rfl, rfl⟩

theorem tables_mergeAnswer (join : Join) (request : SuggestionRequest)
    (answer : Except Error (List RelationshipSuggestion)) (settings : SuggestionSettings) :
    (join.mergeAnswer request answer settings).2.leftTable = join.leftTable ∧
      (join.mergeAnswer request answer settings).2.rightTable = join.rightTable := by
  unfold mergeAnswer
  split
  · exact ⟨rfl, rfl⟩
  · cases answer with
    | error cause => exact ⟨rfl, rfl⟩
    | ok suggestions =>
      simp only [withSuggestions]
      split
      · exact ⟨rfl, rfl⟩
      · split <;> exact ⟨rfl, rfl⟩

theorem touches_iff_table? (join : Join) (id : TableId) :
    join.touches id = true ↔ ∃ side, join.table? side = some id := by
  rw [touches_iff]
  constructor
  · rintro (left | right)
    · exact ⟨.left, left⟩
    · exact ⟨.right, right⟩
  · rintro ⟨side, chosen⟩
    cases side with
    | left => exact Or.inl chosen
    | right => exact Or.inr chosen

theorem NamesOnly.edited {selected : List Table} {changed : Join}
    (known : join.NamesOnly (selected.map Table.id)) (edits : join.Edited selected changed) :
    changed.NamesOnly (selected.map Table.id) := by
  cases edits with
  | withKind kind => exact known.of_same_tables rfl rfl
  | withTable member apart => exact known.withTable _ member
  | withTables left right apart => exact (known.withTable .left left).withTable .right right
  | withColumn admitted =>
    obtain ⟨left, right⟩ := join.tables_withColumn _ _
    exact known.of_same_tables left right
  | withColumns left right => exact known.of_same_tables rfl rfl

end Join

/-! ### Queries -/

namespace Query

/-- Every table that the query names is one of its own. -/
def RefersWithin (query : Query) : Prop :=
  ∀ id ∈ query.referencedTables, id ∈ query.tableIds

theorem mem_referencedTables_iff (query : Query) (id : TableId) :
    id ∈ query.referencedTables ↔
      (∃ join ∈ query.joins, join.touches id = true) ∨
      (∃ comparison ∈ query.conditions.leaves, comparison.tableId = some id) ∨
      (∃ column ∈ query.groupBy, column.tableId = id) ∨
      ∃ entry ∈ query.orderBy, entry.column.tableId = id := by
  simp [referencedTables, Join.touches]

theorem refersWithin_iff (query : Query) :
    query.RefersWithin ↔
      (∀ join ∈ query.joins, join.NamesOnly query.tableIds) ∧
      query.conditions.NamesOnly query.tableIds ∧
      (∀ column ∈ query.groupBy, column.tableId ∈ query.tableIds) ∧
      ∀ entry ∈ query.orderBy, entry.column.tableId ∈ query.tableIds := by
  unfold RefersWithin
  simp only [mem_referencedTables_iff]
  constructor
  · intro within
    refine ⟨?_, ?_, ?_, ?_⟩
    · intro join member id touched
      exact within id (Or.inl ⟨join, member, touched⟩)
    · intro comparison member id named
      exact within id (Or.inr (Or.inl ⟨comparison, member, named⟩))
    · intro column member
      exact within _ (Or.inr (Or.inr (Or.inl ⟨column, member, rfl⟩)))
    · intro entry member
      exact within _ (Or.inr (Or.inr (Or.inr ⟨entry, member, rfl⟩)))
  · rintro ⟨joins, conditions, groupBy, orderBy⟩ id
    rintro (⟨join, member, touched⟩ | ⟨comparison, member, named⟩ | ⟨column, member, rfl⟩ |
      ⟨entry, member, rfl⟩)
    · exact joins join member id touched
    · exact conditions comparison member id named
    · exact groupBy column member
    · exact orderBy entry member

theorem columnRef_eq_ok {query : Query} {id : TableId} {name : String} {column : ColumnRef}
    (found : query.columnRef id name = .ok column) : id ∈ query.tableIds := by
  unfold columnRef at found
  cases present : query.requireTable id with
  | error cause =>
    rw [present] at found
    contradiction
  | ok table => exact requireTable_eq_ok present

theorem RefersWithin.initial : RefersWithin {} := by
  intro id member
  contradiction

/-! ### What is restored -/

theorem checked_eq_ok {query changed : Query} (done : query.checked = .ok changed) :
    changed = query ∧ query.RefersWithin := by
  unfold checked at done
  split at done
  · contradiction
  · split at done
    · contradiction
    · split at done
      · contradiction
      · rename_i known
        cases done
        refine ⟨rfl, ?_⟩
        intro id member
        have selected := List.find?_eq_none.mp known id member
        simpa [tableIds] using selected

theorem restore_eq_ok {text : String} {query : Query} (done : restore text = .ok query) :
    query.RefersWithin := by
  unfold restore at done
  cases found : read text with
  | error cause =>
    rw [found] at done
    contradiction
  | ok held =>
    rw [found] at done
    obtain ⟨rfl, within⟩ := checked_eq_ok done
    exact within

/-- A query that names only its own tables is not refused for a table that it names. -/
theorem RefersWithin.checked_ne {query : Query} (within : query.RefersWithin) (id : TableId) :
    query.checked ≠ .error (.unknownTable id) := by
  have known : query.referencedTables.find?
      (fun id => !(query.tables.map Table.id).contains id) = none := by
    rw [List.find?_eq_none]
    intro other member
    have listed := List.contains_iff_mem.mpr (within other member)
    rw [tableIds] at listed
    simp only [listed, Bool.not_true, Bool.false_eq_true, not_false_eq_true]
  intro refused
  unfold checked at refused
  rw [known] at refused
  split at refused
  · cases refused
  · split at refused
    · cases refused
    · cases refused

/-! ### Tables that go, stay or are edited -/

section Tables

variable {query : Query} {before after : List Table} {table : Table} {id : TableId}

theorem mem_tableIds_addTable (other : Table) (known : id ∈ query.tableIds) :
    id ∈ (query.addTable other).tableIds := by
  rw [tableIds, addTable, List.map_append]
  exact List.mem_append_left _ known

/-- With a table gone, only its identity may be missing. -/
theorem mem_tableIds_without (whole : query.tables = before ++ table :: after)
    (known : id ∈ query.tableIds) (different : id ≠ table.id) :
    id ∈ (before ++ after).map Table.id := by
  rw [tableIds, whole] at known
  simpa [different] using known

theorem tableIds_edited {edited : Table} (whole : query.tables = before ++ table :: after)
    (same : edited.id = table.id) : (before ++ edited :: after).map Table.id = query.tableIds := by
  rw [tableIds, whole, List.map_append, List.map_append, List.map_cons, List.map_cons, same]

end Tables

/-! ### The tables of the joins -/

/-- The joins name only tables of the query. -/
def JoinsKnown (query : Query) : Prop :=
  ∀ join ∈ query.joins, join.NamesOnly query.tableIds

section Changes

variable {query changed : Query} {change : QueryChange}

theorem RefersWithin.joinsKnown (within : query.RefersWithin) : query.JoinsKnown :=
  ((refersWithin_iff query).mp within).1

namespace JoinsKnown

theorem initial : JoinsKnown {} := by
  intro join member
  contradiction

theorem replaced (known : query.JoinsKnown) {before after : List Join} {join edited : Join}
    (whole : query.joins = before ++ join :: after)
    (keeps : join.NamesOnly query.tableIds → edited.NamesOnly query.tableIds) :
    JoinsKnown { query with joins := before ++ edited :: after } := by
  intro other member
  rcases mem_of_mem_replaced whole member with rfl | listed
  · exact keeps (known join (mem_of_split whole))
  · exact known other listed

theorem of_effect (known : query.JoinsKnown) (effect : change.Effect query changed) :
    changed.JoinsKnown := by
  cases effect with
  | tableAdded table =>
    exact fun join member id touched => mem_tableIds_addTable table (known join member id touched)
  | tableRemoved whole =>
    intro join member id touched
    obtain ⟨listed, apart⟩ := List.mem_filter.mp member
    refine mem_tableIds_without whole (known join listed id touched) ?_
    rintro rfl
    simp [touched] at apart
  | tableEdited whole same =>
    intro join member
    rw [tableIds, tableIds_edited whole same.id]
    exact known join member
  | joinAdded id =>
    intro join member
    rcases List.mem_append.mp member with earlier | new
    · exact known join earlier
    · cases List.mem_singleton.mp new
      exact fun other touched => by contradiction
  | joinRemoved whole => exact fun join member => known join (subset_of_split whole member)
  | joinEdited whole edits => exact known.replaced whole (fun named => named.edited edits)
  | answered whole =>
    obtain ⟨left, right⟩ := Join.tables_mergeAnswer _ _ _ _
    exact known.replaced whole (fun named => named.of_same_tables left right)
  | restored done => exact (restore_eq_ok done).joinsKnown
  | _ => exact known

theorem step (known : query.JoinsKnown) (change : QueryChange) :
    (query.step change).JoinsKnown := by
  rcases query.step_cases change with same | done
  · rwa [same]
  · exact known.of_effect (QueryChange.effect_of_apply done)

theorem run (known : query.JoinsKnown) (changes : List QueryChange) :
    (query.run changes).JoinsKnown := by
  induction changes generalizing query with
  | nil => exact known
  | cons change changes induct => exact induct (known.step change)

end JoinsKnown

end Changes

/-! ### All tables that are named -/

theorem mem_including {columns : List ColumnRef} {column listed : ColumnRef}
    (member : listed ∈ ColumnRef.including columns column) :
    listed = column ∨ listed ∈ columns := by
  unfold ColumnRef.including at member
  split at member
  · exact Or.inr member
  · exact (List.mem_append.mp member).symm.imp_left List.mem_singleton.mp

theorem mem_withOrderEntry {column : ColumnRef} {direction : SortDirection}
    {entries : List OrderEntry} {entry : OrderEntry}
    (member : entry ∈ withOrderEntry column direction entries) :
    entry.column = column ∨ entry ∈ entries := by
  induction entries with
  | nil =>
    cases List.mem_singleton.mp member
    exact Or.inl rfl
  | cons first entries inner =>
    rw [withOrderEntry] at member
    split at member
    · rename_i same
      rcases List.mem_cons.mp member with rfl | later
      · exact Or.inl same
      · exact Or.inr (List.mem_cons_of_mem first later)
    · rcases List.mem_cons.mp member with rfl | later
      · exact Or.inr List.mem_cons_self
      · exact (inner later).imp_right (List.mem_cons_of_mem first)

end Query

/-! ### Runs of changes -/

namespace QueryChange

/-- The condition that a change sets, if it sets one, names only tables of the query. -/
def BindsWithin (query : Query) : QueryChange → Prop
  | .setConditions conditions => conditions.NamesOnly query.tableIds
  | .updateConditions edit =>
    ∀ conditions, edit query.conditions = .ok conditions → conditions.NamesOnly query.tableIds
  | _ => True

/-- Each change of a run sets, if any, a condition that names only tables the query has then. -/
def BindWithin (query : Query) : List QueryChange → Prop
  | [] => True
  | change :: changes => change.BindsWithin query ∧ BindWithin (query.step change) changes

end QueryChange

namespace Query

theorem RefersWithin.setConditions_iff {query : Query} (within : query.RefersWithin)
    (conditions : ConditionGroup) :
    (query.setConditions conditions).RefersWithin ↔ conditions.NamesOnly query.tableIds := by
  rw [refersWithin_iff] at within ⊢
  constructor
  · intro changed
    exact changed.2.1
  · intro known
    exact ⟨within.1, known, within.2.2⟩

/-- What is left of the condition with a table names none but the tables that are left. -/
theorem namesOnly_retainLeaves {query : Query} {before after : List Table} {removed : Table}
    (known : query.conditions.NamesOnly query.tableIds)
    (whole : query.tables = before ++ removed :: after) :
    (query.conditions.retainLeaves
      (fun comparison => !comparison.references removed.id)).NamesOnly
        ((before ++ after).map Table.id) := by
  intro comparison member id named
  rw [ConditionGroup.leaves_retainLeaves] at member
  obtain ⟨listed, apart⟩ := List.mem_filter.mp member
  refine mem_tableIds_without whole (known comparison listed id named) ?_
  rintro rfl
  simp [Comparison.references, named] at apart

/-- A change that sets no condition on other tables keeps every named table one of the query. -/
theorem RefersWithin.of_effect {query changed : Query} {change : QueryChange}
    (within : query.RefersWithin) (effect : change.Effect query changed)
    (binds : change.BindsWithin query) : changed.RefersWithin := by
  have joins := within.joinsKnown.of_effect effect
  obtain ⟨_, conditions, groupBy, orderBy⟩ := (refersWithin_iff query).mp within
  cases effect with
  | tableAdded table => exact fun id named => mem_tableIds_addTable table (within id named)
  | tableRemoved whole =>
    refine (refersWithin_iff _).mpr ⟨joins, namesOnly_retainLeaves conditions whole, ?_, ?_⟩
    · intro column member
      obtain ⟨listed, apart⟩ := List.mem_filter.mp member
      exact mem_tableIds_without whole (groupBy column listed) (by simpa using apart)
    · intro entry member
      obtain ⟨listed, apart⟩ := List.mem_filter.mp member
      exact mem_tableIds_without whole (orderBy entry listed) (by simpa using apart)
  | tableEdited whole same =>
    intro id named
    rw [tableIds, tableIds_edited whole same.id]
    exact within id named
  | grouped found =>
    refine (refersWithin_iff _).mpr ⟨joins, conditions, ?_, orderBy⟩
    intro column member
    rcases mem_including member with rfl | listed
    · exact columnRef_eq_ok found
    · exact groupBy column listed
  | ungrouped index =>
    exact (refersWithin_iff _).mpr
      ⟨joins, conditions, fun column left => groupBy column (List.eraseIdx_subset left), orderBy⟩
  | ordered direction found =>
    refine (refersWithin_iff _).mpr ⟨joins, conditions, groupBy, ?_⟩
    intro entry member
    rcases mem_withOrderEntry member with same | listed
    · rw [same]
      exact columnRef_eq_ok found
    · exact orderBy entry listed
  | unordered index =>
    exact (refersWithin_iff _).mpr
      ⟨joins, conditions, groupBy, fun entry left => orderBy entry (List.eraseIdx_subset left)⟩
  | conditionsSet conditions => exact (within.setConditions_iff conditions).mpr binds
  | conditionsUpdated edits => exact (within.setConditions_iff _).mpr (binds _ edits)
  | restored done => exact restore_eq_ok done
  -- what is left changes the joins or the paging only
  | _ => exact (refersWithin_iff _).mpr ⟨joins, conditions, groupBy, orderBy⟩

/-- One change keeps the named tables known exactly when it sets no condition that names others. -/
theorem RefersWithin.step_iff {query : Query} (within : query.RefersWithin)
    (change : QueryChange) : (query.step change).RefersWithin ↔ change.BindsWithin query := by
  constructor
  · intro changed
    cases change with
    | setConditions conditions => exact (within.setConditions_iff conditions).mp changed
    | updateConditions edit =>
      intro conditions made
      have done : (QueryChange.updateConditions edit).apply query =
          .ok (query.setConditions conditions) := by
        rw [QueryChange.apply, updateConditions, made]
        rfl
      rw [step_of_ok done] at changed
      exact (within.setConditions_iff conditions).mp changed
    | _ => trivial
  · intro binds
    rcases query.step_cases change with same | done
    · rwa [same]
    · exact within.of_effect (QueryChange.effect_of_apply done) binds

theorem RefersWithin.run_iff {query : Query} (within : query.RefersWithin)
    (changes : List QueryChange) :
    (∀ earlier, earlier <+: changes → (query.run earlier).RefersWithin) ↔
      QueryChange.BindWithin query changes := by
  induction changes generalizing query with
  | nil =>
    refine iff_of_true ?_ trivial
    intro earlier start
    rwa [List.prefix_nil.mp start]
  | cons change changes inner =>
    rw [QueryChange.BindWithin, ← within.step_iff change]
    constructor
    · intro throughout
      have first : (query.step change).RefersWithin :=
        throughout [change] (List.prefix_cons_inj change |>.mpr List.nil_prefix)
      refine ⟨first, (inner first).mp ?_⟩
      intro earlier start
      exact throughout (change :: earlier) ((List.prefix_cons_inj change).mpr start)
    · rintro ⟨first, binds⟩ earlier start
      rcases List.prefix_cons_iff.mp start with rfl | ⟨others, rfl, begins⟩
      · exact within
      · exact (inner first).mpr binds others begins

/-- Along a run that starts from the empty query, the query names only its own tables all the time
exactly when the conditions that are set name only such tables. Then it is not refused for a table
when it is read back. -/
theorem run_refersWithin_iff (changes : List QueryChange) :
    ((∀ earlier, earlier <+: changes → (run {} earlier).RefersWithin) ↔
      QueryChange.BindWithin {} changes) ∧
    (QueryChange.BindWithin {} changes →
      ∀ id, (run {} changes).checked ≠ .error (.unknownTable id)) := by
  have throughout := RefersWithin.initial.run_iff changes
  refine ⟨throughout, ?_⟩
  intro binds id
  exact (throughout.mpr binds changes (List.prefix_refl changes)).checked_ne id

def removedTable : Table :=
  { id := .uniform 1, name := "orders" }

/-- A comparison is added and bound to a column of a table that was removed before. -/
def boundToRemoved : List QueryChange :=
  [.addTable { id := .uniform 0, name := "users" },
    .addTable removedTable, .removeTable removedTable.id,
    .updateConditions (fun group => .ok group.addLeaf),
    .updateConditions (fun group =>
      group.updateLeaf 0 (.column (some removedTable.id) "total" .number))]

theorem boundToRemoved_refused :
    ¬ (run {} boundToRemoved).RefersWithin ∧
      (run {} boundToRemoved).checked = .error (.unknownTable removedTable.id) := by
  have refused : (run {} boundToRemoved).checked = .error (.unknownTable removedTable.id) := rfl
  constructor
  · intro within
    exact within.checked_ne removedTable.id refused
  · exact refused

end Query

end QueryComposer
