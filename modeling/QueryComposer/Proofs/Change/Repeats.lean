import QueryComposer.Proofs.Change.Columns
import QueryComposer.Proofs.Diagnostic.Complete

set_option autoImplicit false

/-!
The columns that a query is grouped and sorted by. A column is listed again when it is added under
another type than the one it is listed with: only its name is looked up, but references are told
apart by the type that they declare, too. Along a run no column is listed twice in one list as long
as no reference declares another type than the one listed.
-/

namespace QueryComposer

/-! ### References -/

namespace ColumnRef

/-- The column of the table, whatever type the reference declares for it. -/
def place (column : ColumnRef) : TableId × String :=
  (column.tableId, column.name)

/-- No two of the references name the same column of the same table. -/
def NameOnce (columns : List ColumnRef) : Prop :=
  (columns.map place).Nodup

instance (columns : List ColumnRef) : Decidable (NameOnce columns) :=
  inferInstanceAs (Decidable (List.Nodup _))

theorem eq_iff_place_and_type (first second : ColumnRef) :
    first = second ↔ first.place = second.place ∧ first.type = second.type := by
  cases first
  cases second
  simp [place, and_assoc]

theorem including_of_mem {columns : List ColumnRef} {column : ColumnRef}
    (listed : column ∈ columns) : including columns column = columns :=
  if_pos (List.contains_iff_mem.mpr listed)

theorem including_of_not_mem {columns : List ColumnRef} {column : ColumnRef}
    (new : column ∉ columns) : including columns column = columns ++ [column] :=
  if_neg (fun present => new (List.contains_iff_mem.mp present))

namespace NameOnce

variable {columns : List ColumnRef} {column : ColumnRef}

theorem eq_of_place (once : NameOnce columns) {first second : ColumnRef} (here : first ∈ columns)
    (there : second ∈ columns) (same : first.place = second.place) : first = second :=
  List.inj_on_of_nodup_map once here there same

theorem sublist {fewer : List ColumnRef} (once : NameOnce columns) (kept : fewer.Sublist columns) :
    NameOnce fewer :=
  List.Nodup.sublist (kept.map place) once

/-- One more reference names no column again exactly when a reference to the same column, if there
is one, is the same reference. -/
theorem including_iff (once : NameOnce columns) (column : ColumnRef) :
    NameOnce (including columns column) ↔
      ∀ listed ∈ columns, listed.place = column.place → listed.type = column.type := by
  by_cases present : column ∈ columns
  · rw [including_of_mem present]
    refine iff_of_true once (fun listed member same => ?_)
    rw [once.eq_of_place member present same]
  · rw [including_of_not_mem present, NameOnce, List.map_append, List.nodup_append]
    constructor
    · rintro ⟨_, _, apart⟩ listed member same
      exact absurd same
        (apart _ (List.mem_map_of_mem member) _ (List.mem_map_of_mem List.mem_cons_self))
    · intro alike
      refine ⟨once, List.nodup_singleton _, ?_⟩
      intro earlier listedPlace new newPlace same
      obtain ⟨listed, member, rfl⟩ := List.mem_map.mp listedPlace
      obtain rfl : new = column.place := List.mem_singleton.mp newPlace
      have equal := (eq_iff_place_and_type _ _).mpr ⟨same, alike listed member same⟩
      exact present (equal ▸ member)

end NameOnce

end ColumnRef

/-! ### The lists of a query -/

/-- What is made of something that is looked up has a property when it is found. -/
theorem Except.forall_map_eq_ok {ε α β : Type} {found : Except ε α} {made : β} {holds : β → Prop} :
    (∀ answer, found.map (fun _ => made) = .ok answer → holds answer) ↔
      (found.isOk = true → holds made) := by
  cases found with
  | error cause =>
    exact iff_of_true (fun _ done => by contradiction) (fun known => by contradiction)
  | ok known =>
    exact ⟨fun each _ => each made rfl, fun held _ same => Except.ok.inj same ▸ held rfl⟩

namespace Query

/-- The columns that the query is sorted by. -/
def orderColumns (query : Query) : List ColumnRef :=
  query.orderBy.map OrderEntry.column

/-- The grouping names no column of a table twice, and neither does the order. -/
structure ListsOnce (query : Query) : Prop where
  groupBy : ColumnRef.NameOnce query.groupBy
  orderBy : ColumnRef.NameOnce query.orderColumns

theorem columns_withOrderEntry (column : ColumnRef) (direction : SortDirection)
    (entries : List OrderEntry) :
    (withOrderEntry column direction entries).map OrderEntry.column =
      ColumnRef.including (entries.map OrderEntry.column) column := by
  induction entries with
  | nil => rfl
  | cons entry entries inner =>
    rw [withOrderEntry]
    by_cases here : entry.column = column
    · rw [if_pos here, List.map_cons, List.map_cons,
        ColumnRef.including_of_mem (here ▸ List.mem_cons_self)]
    · rw [if_neg here, List.map_cons, List.map_cons, inner]
      by_cases later : column ∈ entries.map OrderEntry.column
      · rw [ColumnRef.including_of_mem later,
          ColumnRef.including_of_mem (List.mem_cons_of_mem _ later)]
      · have absent : column ∉ entry.column :: entries.map OrderEntry.column := by
          simpa [Ne.symm here] using later
        rw [ColumnRef.including_of_not_mem later, ColumnRef.including_of_not_mem absent,
          List.cons_append]

/-- Where a column is listed once, only its direction changes. -/
theorem withOrderEntry_of_mem {column : ColumnRef} (direction : SortDirection)
    {entries : List OrderEntry} (once : ColumnRef.NameOnce (entries.map OrderEntry.column))
    (listed : column ∈ entries.map OrderEntry.column) :
    withOrderEntry column direction entries =
      entries.map (fun entry =>
        if entry.column = column then { entry with direction } else entry) := by
  induction entries with
  | nil => contradiction
  | cons entry entries inner =>
    obtain ⟨new, rest⟩ := List.nodup_cons.mp once
    rw [withOrderEntry, List.map_cons]
    by_cases here : entry.column = column
    · have others (other : OrderEntry) (member : other ∈ entries) : other.column ≠ column := by
        intro same
        exact new (here ▸ same ▸ List.mem_map_of_mem (List.mem_map_of_mem member))
      rw [if_pos here, if_pos here]
      refine congrArg _ (Eq.symm ?_)
      exact (List.map_congr_left (fun other member => if_neg (others other member))).trans
        (List.map_id' entries)
    · rw [if_neg here, if_neg here]
      refine congrArg _ (inner rest ?_)
      simpa [Ne.symm here] using listed

end Query

/-! ### Changes of the lists -/

/-- A reference that a change adds to a list declares the type under which its column is listed
there, if it is; and a text that is restored lists each column once. -/
def QueryChange.RepeatsAlike (query : Query) : QueryChange → Prop
  | .addGroupBy column =>
    (query.columnRef column.tableId column.name).isOk = true →
      ∀ listed ∈ query.groupBy, listed.place = column.place → listed.type = column.type
  | .addOrderBy column _ =>
    (query.columnRef column.tableId column.name).isOk = true →
      ∀ listed ∈ query.orderColumns, listed.place = column.place → listed.type = column.type
  | .restore text => ∀ restored, Query.restore text = .ok restored → restored.ListsOnce
  | _ => True

namespace Query

variable {query changed : Query}

/-- Entries of the lists may be gone, and the others stand as they stood. -/
structure ListsFewer (query changed : Query) : Prop where
  groupBy : changed.groupBy.Sublist query.groupBy
  orderBy : changed.orderBy.Sublist query.orderBy

/-- A change lists no more columns, unless it adds one to a list or restores a text. -/
theorem listsFewer_of_effect {change : QueryChange} (effect : change.Effect query changed) :
    query.ListsFewer changed ∨ (∃ column, change = .addGroupBy column) ∨
      (∃ column direction, change = .addOrderBy column direction) ∨
      ∃ text, change = .restore text := by
  cases effect with
  | grouped found => exact Or.inr (Or.inl ⟨_, rfl⟩)
  | ordered direction found => exact Or.inr (Or.inr (Or.inl ⟨_, direction, rfl⟩))
  | restored done => exact Or.inr (Or.inr (Or.inr ⟨_, rfl⟩))
  | tableRemoved whole => exact Or.inl ⟨List.filter_sublist, List.filter_sublist⟩
  | ungrouped index => exact Or.inl ⟨List.eraseIdx_sublist _ _, List.Sublist.refl _⟩
  | unordered index => exact Or.inl ⟨List.Sublist.refl _, List.eraseIdx_sublist _ _⟩
  | _ => exact Or.inl ⟨List.Sublist.refl _, List.Sublist.refl _⟩

namespace ListsOnce

theorem initial : ListsOnce {} :=
  ⟨List.nodup_nil, List.nodup_nil⟩

theorem of_fewer (once : query.ListsOnce) (fewer : query.ListsFewer changed) :
    changed.ListsOnce :=
  ⟨once.groupBy.sublist fewer.groupBy, once.orderBy.sublist (fewer.orderBy.map _)⟩

theorem step_iff_of_apply (once : query.ListsOnce) (change : QueryChange) :
    (query.step change).ListsOnce ↔
      ∀ changed, change.apply query = .ok changed → changed.ListsOnce := by
  unfold step
  cases change.apply query with
  | error cause => exact iff_of_true once (fun changed done => by contradiction)
  | ok changed => exact ⟨fun listed _ same => Except.ok.inj same ▸ listed, fun made => made _ rfl⟩

theorem addGroupBy_iff (once : query.ListsOnce) (column : ColumnRef) :
    (query.step (.addGroupBy column)).ListsOnce ↔
      (QueryChange.addGroupBy column).RepeatsAlike query := by
  rw [once.step_iff_of_apply, QueryChange.apply, addGroupBy_eq, Except.forall_map_eq_ok]
  refine imp_congr_right (fun _ => ?_)
  rw [← once.groupBy.including_iff column]
  exact ⟨ListsOnce.groupBy, fun groupBy => ⟨groupBy, once.orderBy⟩⟩

theorem addOrderBy_iff (once : query.ListsOnce) (column : ColumnRef) (direction : SortDirection) :
    (query.step (.addOrderBy column direction)).ListsOnce ↔
      (QueryChange.addOrderBy column direction).RepeatsAlike query := by
  rw [once.step_iff_of_apply, QueryChange.apply, addOrderBy, Except.forall_map_eq_ok]
  refine imp_congr_right (fun _ => ?_)
  rw [← once.orderBy.including_iff column, orderColumns,
    ← columns_withOrderEntry column direction]
  exact ⟨ListsOnce.orderBy, fun orderBy => ⟨once.groupBy, orderBy⟩⟩

/-- One change keeps the lists without repetition exactly when it repeats no column under another
type. -/
theorem step_iff (once : query.ListsOnce) (change : QueryChange) :
    (query.step change).ListsOnce ↔ change.RepeatsAlike query := by
  constructor
  · intro listed
    cases change with
    | addGroupBy column => exact (once.addGroupBy_iff column).mp listed
    | addOrderBy column direction => exact (once.addOrderBy_iff column direction).mp listed
    | restore text => exact (once.step_iff_of_apply _).mp listed
    | _ => trivial
  · intro alike
    rcases query.step_cases change with same | done
    · rwa [same]
    · rcases listsFewer_of_effect (QueryChange.effect_of_apply done) with
        fewer | ⟨column, rfl⟩ | ⟨column, direction, rfl⟩ | ⟨text, rfl⟩
      · exact once.of_fewer fewer
      · exact (once.addGroupBy_iff column).mpr alike
      · exact (once.addOrderBy_iff column direction).mpr alike
      · exact (once.step_iff_of_apply _).mpr alike

end ListsOnce

/-! ### Runs -/

/-- Along a run from the empty query no column is grouped by or sorted by twice, all the time,
exactly when no reference is added to a list under another type than its column has there, and no
text that is restored lists a column twice. Of such a query, to group by a listed reference again
changes nothing, to sort by one again changes its direction, and each entry of a compiled list is
another column of a table. -/
theorem run_listsOnce_iff (changes : List QueryChange) :
    ((∀ earlier, earlier <+: changes → (run {} earlier).ListsOnce) ↔
      ∀ earlier change, earlier ++ [change] <+: changes →
        change.RepeatsAlike (run {} earlier)) ∧
    ∀ query : Query, query.ListsOnce →
      (∀ column ∈ query.groupBy,
        query.addGroupBy column =
          (query.columnRef column.tableId column.name).map (fun _ => query)) ∧
      (∀ column ∈ query.orderColumns, ∀ direction,
        query.addOrderBy column direction =
          (query.columnRef column.tableId column.name).map (fun _ =>
            { query with orderBy := query.orderBy.map (fun entry =>
                if entry.column = column then { entry with direction } else entry) })) ∧
      ∀ settings first others, query.tables = first :: others →
        (∃ columns, ColumnRef.NameOnce columns ∧
          List.Forall₂ (ColumnRef.ShownAs query.tables) columns
            (query.statement settings first).groupBy) ∧
        ∃ entries, ColumnRef.NameOnce (entries.map OrderEntry.column) ∧
          List.Forall₂
            (fun entry shown =>
              entry.column.ShownAs query.tables shown.1 ∧ shown.2 = entry.direction)
            entries (query.statement settings first).orderBy := by
  refine ⟨run_throughout_iff (fun _ change once => once.step_iff change) .initial changes, ?_⟩
  intro query once
  refine ⟨?_, ?_, ?_⟩
  · intro column listed
    rw [addGroupBy_eq, ColumnRef.including_of_mem listed]
  · intro column listed direction
    rw [addOrderBy, withOrderEntry_of_mem direction once.orderBy listed]
  · intro settings first others tables
    have shown := query.statement_showsSound settings tables
    exact ⟨⟨_, once.groupBy.sublist List.filter_sublist, shown.groupBy⟩,
      ⟨_, once.orderBy.sublist (List.filter_sublist.map _), shown.orderBy⟩⟩

/-- A column of numbers is grouped and sorted by, and then again as if it were one of texts. -/
def retypedColumn : List QueryChange :=
  [.addTable { id := .uniform 1, name := "users", columns := [{ name := "id", type := .number }] },
    .addGroupBy ⟨.uniform 1, "id", .number⟩, .addGroupBy ⟨.uniform 1, "id", .string⟩,
    .addOrderBy ⟨.uniform 1, "id", .number⟩ .ascending,
    .addOrderBy ⟨.uniform 1, "id", .string⟩ .descending]

theorem retypedColumn_listed_twice :
    ¬ (run {} retypedColumn).ListsOnce ∧
    ((run {} retypedColumn).compile {}).isValid = true ∧
    ((run {} retypedColumn).compile {}).sql =
      "SELECT * FROM users\nGROUP BY users.id, users.id\nORDER BY users.id ASC, users.id DESC" := by
  refine ⟨?_, by decide +kernel, by decide +kernel⟩
  intro once
  have grouped : ¬ ColumnRef.NameOnce (run {} retypedColumn).groupBy := by decide +kernel
  exact grouped once.groupBy

end Query

end QueryComposer
