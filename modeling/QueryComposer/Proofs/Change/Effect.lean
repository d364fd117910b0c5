import QueryComposer.Proofs.Change.Writing
import QueryComposer.Proofs.Suggestion.Merge

set_option autoImplicit false

/-!
What each change does to a query when it is made. Every change is taken apart here once: a case of
`QueryChange.Effect` holds what was looked up before the change and the query after it. What one
change keeps of a query is then shown by these cases, and those that leave alone what is asked about
need no look at the change itself.
-/

namespace QueryComposer

/-! ### Lists with one item away or replaced -/

theorem mem_of_split {α : Type} {items before after : List α} {item : α}
    (whole : items = before ++ item :: after) : item ∈ items :=
  whole ▸ List.mem_append_cons_self

theorem subset_of_split {α : Type} {items before after : List α} {item : α}
    (whole : items = before ++ item :: after) : before ++ after ⊆ items := by
  rw [whole]
  exact List.append_subset.mpr ⟨List.subset_append_left _ _,
    fun _ later => List.mem_append_right _ (List.mem_cons_of_mem _ later)⟩

theorem mem_of_mem_replaced {α : Type} {items before after : List α} {item edited other : α}
    (whole : items = before ++ item :: after) (member : other ∈ before ++ edited :: after) :
    other = edited ∨ other ∈ items := by
  rcases List.mem_append.mp member with earlier | here
  · exact Or.inr (subset_of_split whole (List.mem_append_left _ earlier))
  · exact (List.mem_cons.mp here).imp_right
      (fun later => subset_of_split whole (List.mem_append_right _ later))

/-! ### Tables -/

namespace Table

/-- The column is one of the table's, as far as the table lists its columns. -/
def Admits (table : Table) (column : String) : Prop :=
  table.columns = [] ∨ column ∈ table.columns.map Column.name

instance (table : Table) (column : String) : Decidable (table.Admits column) :=
  inferInstanceAs (Decidable (_ ∨ _))

/-- The table has the same identity and the same names of columns. -/
structure Resembles (table before : Table) : Prop where
  id : table.id = before.id
  names : table.columns.map Column.name = before.columns.map Column.name

theorem Resembles.refl (table : Table) : table.Resembles table :=
  ⟨rfl, rfl⟩

theorem Resembles.admits {table before : Table} (same : table.Resembles before) {column : String}
    (admitted : before.Admits column) : table.Admits column := by
  unfold Admits at admitted ⊢
  rw [← List.map_eq_nil_iff (f := Column.name), same.names, List.map_eq_nil_iff]
  exact admitted

theorem admits_of_column? {table : Table} {column : String}
    (found : table.columns.isEmpty = true ∨ (table.column? column).isSome = true) :
    table.Admits column := by
  refine found.imp List.isEmpty_iff.mp (fun present => ?_)
  obtain ⟨listed, member, same⟩ := List.find?_isSome.mp present
  exact List.mem_map.mpr ⟨listed, member, of_decide_eq_true same⟩

end Table

/-! ### Joins -/

namespace Join

/-- The column that is to be chosen on a side, if any, is admitted by the table of the side. -/
def MayChoose (tables : List Table) (join : Join) (side : JoinSide) (column : Option String) :
    Prop :=
  ∀ name, column = some name → ∃ id table, join.table? side = some id ∧
    tables.find? (fun table => table.id = id) = some table ∧ table.Admits name

theorem MayChoose.placed {tables : List Table} {join : Join} {side : JoinSide}
    {column : Option String} (admitted : join.MayChoose tables side column)
    (chosen : column.isSome = true) : (join.table? side).isSome = true := by
  obtain ⟨name, same⟩ := Option.isSome_iff_exists.mp chosen
  obtain ⟨id, _, placed, _⟩ := admitted name same
  exact Option.isSome_of_eq_some placed

/-- What a change by hand makes of a join, with what the tables of the query allow. -/
inductive Edited (tables : List Table) (join : Join) : Join → Prop
  | withKind (kind : JoinKind) : Edited tables join { join with kind }
  | withTable {side : JoinSide} {id : TableId} (known : id ∈ tables.map Table.id)
    (apart : join.table? side.opposite ≠ some id) : Edited tables join (join.withTable side id)
  | withTables {left right : TableId} (leftKnown : left ∈ tables.map Table.id)
    (rightKnown : right ∈ tables.map Table.id) (apart : left ≠ right) :
    Edited tables join ((join.withTable .left left).withTable .right right)
  | withColumn {side : JoinSide} {column : Option String}
    (admitted : join.MayChoose tables side column) :
    Edited tables join (join.withColumn column side)
  | withColumns {left right : Option String} (leftAdmitted : join.MayChoose tables .left left)
    (rightAdmitted : (join.withColumn left .left).MayChoose tables .right right) :
    Edited tables join ((join.withColumn left .left).withColumn right .right)

end Join

/-! ### Grouping -/

/-- The references with one more at their end, unless it is one of them. -/
def ColumnRef.including (columns : List ColumnRef) (column : ColumnRef) : List ColumnRef :=
  if columns.contains column then columns else columns ++ [column]

theorem Query.addGroupBy_eq (query : Query) (column : ColumnRef) :
    query.addGroupBy column =
      (query.columnRef column.tableId column.name).map (fun _ =>
        { query with groupBy := ColumnRef.including query.groupBy column }) := by
  refine congrArg (query.columnRef column.tableId column.name).map ?_
  unfold ColumnRef.including
  split
  · rfl
  · rfl

/-! ### Changes by cases -/

namespace QueryChange

/-- What a change does to a query when it is made. Where several changes do the same, the case is
one for any change. -/
inductive Effect (query : Query) : QueryChange → Query → Prop
  | tableAdded (table : Table) : Effect query (.addTable table) (query.addTable table)
  | tableRemoved {removed : Table} {before after : List Table}
    (whole : query.tables = before ++ removed :: after) :
    Effect query (.removeTable removed.id)
      { query with
        tables := before ++ after
        joins := query.joins.filter (fun join => !join.touches removed.id)
        conditions := query.conditions.retainLeaves
          (fun comparison => !comparison.references removed.id)
        groupBy := query.groupBy.filter (fun column => column.tableId ≠ removed.id)
        orderBy := query.orderBy.filter (fun entry => entry.column.tableId ≠ removed.id) }
  | tableEdited {change : QueryChange} {before after : List Table} {table edited : Table}
    (whole : query.tables = before ++ table :: after) (same : edited.Resembles table) :
    Effect query change { query with tables := before ++ edited :: after }
  | joinAdded (id : JoinId) : Effect query (.addJoin id) (query.addJoin id)
  | joinRemoved {id : JoinId} {removed : Join} {before after : List Join}
    (whole : query.joins = before ++ removed :: after) :
    Effect query (.removeJoin id) { query with joins := before ++ after }
  | joinEdited {change : QueryChange} {before after : List Join} {join edited : Join}
    (whole : query.joins = before ++ join :: after) (edits : join.Edited query.tables edited) :
    Effect query change { query with joins := before ++ edited :: after }
  | answered {request : SuggestionRequest}
    {answer : Except Error (List RelationshipSuggestion)} {settings : SuggestionSettings}
    {before after : List Join} {join : Join} (whole : query.joins = before ++ join :: after)
    (named : join.id = request.joinId)
    (taken : query.applySuggestions request answer settings =
      ((join.mergeAnswer request answer settings).1,
        { query with
          joins := before ++ (join.mergeAnswer request answer settings).2 :: after })) :
    Effect query (.applySuggestions request answer settings)
      { query with joins := before ++ (join.mergeAnswer request answer settings).2 :: after }
  | answerIgnored {request : SuggestionRequest}
    {answer : Except Error (List RelationshipSuggestion)} {settings : SuggestionSettings} :
    Effect query (.applySuggestions request answer settings) query
  | grouped {column known : ColumnRef}
    (found : query.columnRef column.tableId column.name = .ok known) :
    Effect query (.addGroupBy column)
      { query with groupBy := ColumnRef.including query.groupBy column }
  | ungrouped (index : Nat) :
    Effect query (.removeGroupBy index) { query with groupBy := query.groupBy.eraseIdx index }
  | ordered {column known : ColumnRef} (direction : SortDirection)
    (found : query.columnRef column.tableId column.name = .ok known) :
    Effect query (.addOrderBy column direction)
      { query with orderBy := Query.withOrderEntry column direction query.orderBy }
  | unordered (index : Nat) :
    Effect query (.removeOrderBy index) { query with orderBy := query.orderBy.eraseIdx index }
  | paged {change : QueryChange} (limit offset : Option UInt64) :
    Effect query change { query with limit, offset }
  | conditionsSet (conditions : ConditionGroup) :
    Effect query (.setConditions conditions) (query.setConditions conditions)
  | conditionsUpdated {edit : ConditionGroup → Except Error ConditionGroup}
    {conditions : ConditionGroup} (edits : edit query.conditions = .ok conditions) :
    Effect query (.updateConditions edit) (query.setConditions conditions)
  | restored {text : String} {held : Query} (done : Query.restore text = .ok held) :
    Effect query (.restore text) held

namespace Effect

variable {query changed : Query} {change : QueryChange}

/-! #### Tables and columns -/

theorem removeTable {id : TableId} (done : (QueryChange.removeTable id).apply query = .ok changed) :
    Effect query (.removeTable id) changed := by
  obtain ⟨⟨removed, _⟩, made, rfl⟩ := Except.map_eq_ok done
  obtain ⟨before, after, whole, rfl, rfl⟩ := Query.removeTable_split made
  exact .tableRemoved whole

theorem editTable {α : Type} {id : TableId} {edit : Table → Except Error (α × Table)} {answer : α}
    (keeps : ∀ {table answer edited}, edit table = .ok (answer, edited) → edited.Resembles table)
    (done : query.editTable id edit = .ok (answer, changed)) : Effect query change changed := by
  obtain ⟨before, table, edited, after, whole, _, _, edits, rfl⟩ := Query.editTable_split done
  exact .tableEdited whole (keeps edits)

theorem editColumn {α : Type} {id : TableId} {name : String} {edit : Column → α × Column}
    {answer : α} (keeps : ∀ column, (edit column).2.name = column.name)
    (done : query.editColumn id name edit = .ok (answer, changed)) :
    Effect query change changed := by
  refine editTable ?_ done
  intro table _ edited edits
  obtain ⟨⟨_, columns⟩, found, made⟩ := Except.map_eq_ok edits
  cases made
  obtain ⟨before, column, changedColumn, after, whole, rfl, _, _, made⟩ := editFirst_split found
  have same : changedColumn.name = column.name := by
    rw [← keeps column, Except.ok.inj made]
  exact ⟨rfl, by simp only [whole, List.map_append, List.map_cons, same]⟩

theorem setAlias {id : TableId} {name : Option String}
    (done : (QueryChange.setAlias id name).apply query = .ok changed) :
    Effect query (.setAlias id name) changed := by
  obtain ⟨⟨_, _⟩, made, rfl⟩ := Except.map_eq_ok done
  refine editTable ?_ made
  intro table _ edited edits
  cases edits
  exact ⟨rfl, rfl⟩

theorem toggleColumn {id : TableId} {name : String}
    (done : (QueryChange.toggleColumn id name).apply query = .ok changed) :
    Effect query (.toggleColumn id name) changed := by
  obtain ⟨⟨_, _⟩, made, rfl⟩ := Except.map_eq_ok done
  exact editColumn (fun _ => rfl) made

theorem setAggregate {id : TableId} {name : String} {aggregate : Option Aggregate}
    (done : (QueryChange.setAggregate id name aggregate).apply query = .ok changed) :
    Effect query (.setAggregate id name aggregate) changed := by
  obtain ⟨⟨_, _⟩, made, rfl⟩ := Except.map_eq_ok done
  exact editColumn (fun _ => rfl) made

/-! #### Grouping and order -/

theorem addGroupBy {column : ColumnRef}
    (done : (QueryChange.addGroupBy column).apply query = .ok changed) :
    Effect query (.addGroupBy column) changed := by
  rw [QueryChange.apply, Query.addGroupBy_eq] at done
  obtain ⟨_, found, rfl⟩ := Except.map_eq_ok done
  exact .grouped found

theorem removeGroupBy {index : Nat}
    (done : (QueryChange.removeGroupBy index).apply query = .ok changed) :
    Effect query (.removeGroupBy index) changed := by
  obtain ⟨⟨_, _⟩, made, rfl⟩ := Except.map_eq_ok done
  unfold Query.removeGroupBy at made
  split at made
  · contradiction
  · cases made
    exact .ungrouped index

theorem addOrderBy {column : ColumnRef} {direction : SortDirection}
    (done : (QueryChange.addOrderBy column direction).apply query = .ok changed) :
    Effect query (.addOrderBy column direction) changed := by
  obtain ⟨_, found, rfl⟩ := Except.map_eq_ok done
  exact .ordered direction found

theorem removeOrderBy {index : Nat}
    (done : (QueryChange.removeOrderBy index).apply query = .ok changed) :
    Effect query (.removeOrderBy index) changed := by
  obtain ⟨⟨_, _⟩, made, rfl⟩ := Except.map_eq_ok done
  unfold Query.removeOrderBy at made
  split at made
  · contradiction
  · cases made
    exact .unordered index

/-! #### Joins -/

theorem removeJoin {id : JoinId} (done : (QueryChange.removeJoin id).apply query = .ok changed) :
    Effect query (.removeJoin id) changed := by
  obtain ⟨⟨_, _⟩, made, rfl⟩ := Except.map_eq_ok done
  obtain ⟨before, after, whole, rfl⟩ := Query.removeJoin_split made
  exact .joinRemoved whole

theorem editJoin {id : JoinId} {edit : Join → Except Error Join}
    (edits : ∀ {join edited}, edit join = .ok edited → join.Edited query.tables edited)
    (done : query.editJoin id edit = .ok changed) : Effect query change changed := by
  obtain ⟨before, join, edited, after, whole, _, _, made, rfl⟩ := Query.editJoin_split done
  exact .joinEdited whole (edits made)

theorem setJoinKind {id : JoinId} {kind : JoinKind}
    (done : (QueryChange.setJoinKind id kind).apply query = .ok changed) :
    Effect query (.setJoinKind id kind) changed := by
  refine editJoin ?_ done
  intro join edited edits
  cases edits
  exact .withKind kind

theorem setJoinTable {id : JoinId} {side : JoinSide} {table : TableId}
    (done : (QueryChange.setJoinTable id side table).apply query = .ok changed) :
    Effect query (.setJoinTable id side table) changed := by
  rw [QueryChange.apply, Query.setJoinTable] at done
  split at done
  · contradiction
  · rename_i found
    refine editJoin ?_ done
    intro join edited edits
    split at edits
    · contradiction
    · rename_i apart
      cases edits
      exact .withTable (Query.requireTable_eq_ok found) apart

theorem setJoinTables {id : JoinId} {left right : TableId}
    (done : (QueryChange.setJoinTables id left right).apply query = .ok changed) :
    Effect query (.setJoinTables id left right) changed := by
  rw [QueryChange.apply, Query.setJoinTables] at done
  split at done
  · contradiction
  · rename_i apart
    split at done
    · contradiction
    · contradiction
    · rename_i leftFound rightFound
      refine editJoin ?_ done
      intro join edited edits
      cases edits
      exact .withTables (Query.requireTable_eq_ok leftFound) (Query.requireTable_eq_ok rightFound)
        apart

/-- A column that was checked is admitted by the side's table. -/
theorem mayChoose_of_checkJoinColumn {join : Join} {side : JoinSide} {name : String}
    (checked : query.checkJoinColumn join side name = .ok ()) :
    join.MayChoose query.tables side (some name) := by
  rintro _ ⟨rfl⟩
  unfold Query.checkJoinColumn Query.requireTable at checked
  split at checked
  · contradiction
  · rename_i id chosen
    cases found : query.table? id with
    | none => simp [found] at checked
    | some table =>
      simp only [found] at checked
      split at checked
      · rename_i listed
        exact ⟨id, table, chosen, found, Table.admits_of_column? (Bool.or_eq_true_iff.mp listed)⟩
      · contradiction

/-- To choose a column is to choose what the side's table admits, on the first join of the
identity. -/
theorem setJoinColumn_split {id : JoinId} {side : JoinSide} {column : Option String}
    (done : query.setJoinColumn id side column = .ok changed) {before after : List Join}
    {join : Join} (whole : query.joins = before ++ join :: after)
    (skipped : ∀ other ∈ before, other.id ≠ id) (named : join.id = id) :
    ∃ chosen, join.MayChoose query.tables side chosen ∧
      changed = { query with joins := before ++ join.withColumn chosen side :: after } := by
  rw [Query.setJoinColumn, Query.editJoin_of_split _ whole skipped named] at done
  obtain ⟨edited, edits, rfl⟩ := Except.map_eq_ok done
  split at edits
  · cases edits
    exact ⟨none, fun name none => by contradiction, rfl⟩
  · obtain ⟨_, checked, rfl⟩ := Except.map_eq_ok edits
    exact ⟨_, mayChoose_of_checkJoinColumn checked, rfl⟩

theorem setJoinColumn {id : JoinId} {side : JoinSide} {column : Option String}
    (done : (QueryChange.setJoinColumn id side column).apply query = .ok changed) :
    Effect query (.setJoinColumn id side column) changed := by
  obtain ⟨_, _, _, _, whole, skipped, named, _, _⟩ := Query.editJoin_split done
  obtain ⟨chosen, admitted, rfl⟩ := setJoinColumn_split done whole skipped named
  exact .joinEdited whole (.withColumn admitted)

/-- The second column goes to the join that got the first one. -/
theorem setJoinColumns {id : JoinId} {left right : Option String}
    (done : (QueryChange.setJoinColumns id left right).apply query = .ok changed) :
    Effect query (.setJoinColumns id left right) changed := by
  rw [QueryChange.apply, Query.setJoinColumns] at done
  split at done
  · contradiction
  · rename_i half first
    obtain ⟨_, join, _, _, whole, skipped, named, _, _⟩ := Query.editJoin_split first
    obtain ⟨chosen, leftAdmitted, rfl⟩ := setJoinColumn_split first whole skipped named
    have same := (join.id_withColumn chosen .left).trans named
    obtain ⟨_, rightAdmitted, rfl⟩ := setJoinColumn_split done rfl skipped same
    exact .joinEdited whole (.withColumns leftAdmitted rightAdmitted)

theorem applySuggestions (query : Query) (request : SuggestionRequest)
    (answer : Except Error (List RelationshipSuggestion)) (settings : SuggestionSettings) :
    Effect query (.applySuggestions request answer settings)
      (query.applySuggestions request answer settings).2 := by
  cases found : query.join? request.joinId with
  | none =>
    rw [Query.applySuggestions_missing answer settings found]
    exact .answerIgnored
  | some join =>
    obtain ⟨before, after, whole, skipped, named⟩ := Query.join?_split found
    have taken := Query.applySuggestions_split answer settings whole skipped named
    rw [taken]
    exact .answered whole named taken

/-! #### Conditions -/

theorem updateConditions {edit : ConditionGroup → Except Error ConditionGroup}
    (done : (QueryChange.updateConditions edit).apply query = .ok changed) :
    Effect query (.updateConditions edit) changed := by
  obtain ⟨_, edits, rfl⟩ := Except.map_eq_ok done
  exact .conditionsUpdated edits

end Effect

/-- Every change that is made does what one of the cases says. -/
theorem effect_of_apply {query changed : Query} {change : QueryChange}
    (done : change.apply query = .ok changed) : change.Effect query changed := by
  cases change with
  | addTable table =>
    cases done
    exact .tableAdded table
  | removeTable id => exact .removeTable done
  | setAlias id name => exact .setAlias done
  | toggleColumn id name => exact .toggleColumn done
  | setAggregate id name aggregate => exact .setAggregate done
  | addGroupBy column => exact .addGroupBy done
  | removeGroupBy index => exact .removeGroupBy done
  | addOrderBy column direction => exact .addOrderBy done
  | removeOrderBy index => exact .removeOrderBy done
  | setLimit limit =>
    cases done
    exact .paged limit query.offset
  | setOffset offset =>
    cases done
    exact .paged query.limit offset
  | addJoin id =>
    cases done
    exact .joinAdded id
  | setJoinTables id left right => exact .setJoinTables done
  | setJoinTable id side table => exact .setJoinTable done
  | setJoinColumn id side column => exact .setJoinColumn done
  | setJoinColumns id left right => exact .setJoinColumns done
  | setJoinKind id kind => exact .setJoinKind done
  | removeJoin id => exact .removeJoin done
  | applySuggestions request answer settings =>
    cases done
    exact .applySuggestions query request answer settings
  | setConditions conditions =>
    cases done
    exact .conditionsSet conditions
  | updateConditions edit => exact .updateConditions done
  | restore text => exact .restored done

end QueryChange

end QueryComposer
