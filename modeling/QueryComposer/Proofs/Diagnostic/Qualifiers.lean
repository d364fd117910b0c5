import QueryComposer.Proofs.Diagnostic.Complete
import QueryComposer.Proofs.JoinPlan.Scope
import QueryComposer.Proofs.Layout.Statement

set_option autoImplicit false

/-!
What the qualifiers in the text of a query stand for. Tables are told apart by their identities as
long as the query is compiled, and by their qualifiers in its text: a column there is one of exactly
the table that is meant where no other table has the same qualifier. Nothing compares qualifiers, so
that tables with a common one are no fault of a query.
-/

namespace QueryComposer

/-! ### Columns in a text -/

namespace Statement

/-- The columns in the text, as they are written there, one clause after the other. -/
def columnTexts (statement : Statement) : List String :=
  statement.selected.map SelectItem.qualified ++
    (statement.joins.flatMap JoinClause.predicates).flatMap (fun join =>
      [join.left.qualify join.leftColumn, join.right.qualify join.rightColumn]) ++
    (statement.condition.toList.flatMap WherePart.atoms).map Atom.column ++
    statement.groupBy ++ statement.orderBy.map Prod.fst

/-- The introduced tables for which a qualifier may stand. -/
def tablesBehind (statement : Statement) (qualifier : String) : List Table :=
  statement.introduced.filter (fun table => table.qualifier = qualifier)

end Statement

/-- A column that a query names, with the table that is meant, if one is. -/
structure NamedColumn where
  table : Option Table
  column : String

/-- The column behind the qualifier of its table, or alone. -/
def NamedColumn.text (named : NamedColumn) : String :=
  match named.table with
  | some table => table.qualify named.column
  | none => named.column

def Join.namedColumns (tables : List Table) (join : Join) : List NamedColumn :=
  [ { table := join.leftTable.bind (resolveTable? tables), column := join.leftColumn.getD "" },
    { table := join.rightTable.bind (resolveTable? tables), column := join.rightColumn.getD "" } ]

def Comparison.namedColumn (tables : List Table) (comparison : Comparison) : NamedColumn :=
  { table := comparison.tableId.bind (resolveTable? tables), column := comparison.column }

def ColumnRef.namedColumn (tables : List Table) (column : ColumnRef) : NamedColumn :=
  { table := resolveTable? tables column.tableId, column := column.name }

namespace Query

/-- The columns that the query names: the selected ones, those of its joins and comparisons, and
those by which it is grouped and sorted. -/
def namedColumns (query : Query) : List NamedColumn :=
  query.selectedItems.map (fun item => { table := some item.table, column := item.column.name }) ++
    query.joins.flatMap (Join.namedColumns query.tables) ++
    query.conditions.leaves.map (Comparison.namedColumn query.tables) ++
    query.groupBy.map (ColumnRef.namedColumn query.tables) ++
    query.orderBy.map (fun entry => entry.column.namedColumn query.tables)

def relabel (query : Query) (change : Table → Table) : Query :=
  { query with tables := query.tables.map change }

end Query

/-- The qualifiers in a statement stand for the tables of the query as far as they can: the tables
are introduced each once, every column that the query names is written behind the qualifier of the
table that is meant, and the qualifier stands for that table alone exactly when no other table has
it. A column is written without a qualifier only in a comparison for which no table is set. -/
structure Statement.Denotes (query : Query) (statement : Statement) : Prop where
  introduced : statement.introduced.Perm query.tables
  columns : statement.columnTexts.Perm (query.namedColumns.map NamedColumn.text)
  qualified : ∀ named ∈ query.namedColumns, ∀ table, named.table = some table →
    table ∈ query.tables ∧
      (statement.tablesBehind table.qualifier = [table] ↔
        ∀ other ∈ query.tables, other.qualifier = table.qualifier → other = table)
  bare : ∀ named ∈ query.namedColumns, named.table = none →
    ∃ comparison ∈ query.conditions.leaves, comparison.tableId = none ∧
      comparison.column = named.column
  apart : (statement.introduced.map Table.qualifier).Nodup ↔
    ∀ table ∈ query.tables, statement.tablesBehind table.qualifier = [table]

/-! ### Columns of a query without a defect -/

theorem map_eq_map_of_forall₂ {α β γ : Type} {relation : α → β → Prop} {left : α → γ}
    {right : β → γ} {items : List α} {others : List β}
    (related : List.Forall₂ relation items others)
    (same : ∀ item other, relation item other → left item = right other) :
    items.map left = others.map right := by
  rw [← List.forall₂_eq_eq_eq, List.forall₂_map_left_iff, List.forall₂_map_right_iff]
  exact related.imp (fun item other => same item other)

theorem Join.AcceptedAs.text_namedColumns {tables : List Table} {join : Join}
    {accepted : AcceptedJoin} (taken : join.AcceptedAs tables accepted) :
    (join.namedColumns tables).map NamedColumn.text =
      [accepted.left.qualify accepted.leftColumn, accepted.right.qualify accepted.rightColumn] := by
  simp only [Join.namedColumns, taken.leftTable, taken.rightTable, taken.leftColumn,
    taken.rightColumn, Option.bind_some, taken.leftKnown, taken.rightKnown, Option.getD_some]
  rfl

theorem Join.isUsable_of_sound {tables : List Table} {policy : DuplicateJoinPolicy}
    {earlier : List Join} {join : Join} (sound : join.defect? tables policy earlier = none) :
    join.isUsable tables = true := by
  unfold Join.defect? at sound
  unfold Join.isUsable
  cases complete : join.isComplete with
  | false => simp [complete] at sound
  | true =>
    by_cases same : join.leftTable = join.rightTable
    · simp [complete, same] at sound
    · cases selected : join.isSelected tables with
      | false => simp [complete, same, selected] at sound
      | true => simp [same]

theorem Comparison.text_namedColumn {tables : List Table} {policy : LiteralPolicy}
    {comparison : Comparison} {atom : Atom} (written : comparison.atom tables policy = .ok atom) :
    (comparison.namedColumn tables).text = atom.column := by
  obtain ⟨_, shown, _, _⟩ := atom_eq_ok_iff.mp written
  unfold columnText at shown
  unfold namedColumn
  cases held : comparison.tableId with
  | none =>
    rw [held] at shown
    exact Except.ok.inj shown
  | some id =>
    rw [held] at shown
    rw [Option.bind_some]
    cases found : resolveTable? tables id with
    | none => simp [found] at shown
    | some table =>
      simp only [found] at shown
      exact Except.ok.inj shown

theorem Comparison.hasTable_of_sound {tables : List Table} {comparison : Comparison} {id : TableId}
    (sound : comparison.defect? tables = none) (held : comparison.tableId = some id) :
    hasTable tables id = true := by
  by_contra unselected
  unfold Comparison.defect? at sound
  rw [held, Option.any_some, Bool.eq_false_iff.mpr unselected] at sound
  split at sound
  · contradiction
  · contradiction

theorem ColumnRef.hasTable_of_sound {tables : List Table} {clause : ColumnClause}
    {column : ColumnRef} (sound : column.defect? tables clause = none) :
    hasTable tables column.tableId = true := by
  by_contra unselected
  rw [ColumnRef.defect?, if_neg unselected] at sound
  contradiction

theorem ColumnRef.text_namedColumn {tables : List Table} {column : ColumnRef} {text : String}
    (shown : column.ShownAs tables text) : (column.namedColumn tables).text = text := by
  obtain ⟨table, found, rfl⟩ := shown
  rw [namedColumn, found]
  rfl

theorem soundJoins_eq_self {tables : List Table} {policy : DuplicateJoinPolicy}
    {earlier joins : List Join} (sound : joinDefects tables policy earlier joins = []) :
    soundJoins tables policy earlier joins = joins := by
  induction joins generalizing earlier with
  | nil => rfl
  | cons join joins inner =>
    rw [joinDefects_cons, List.append_eq_nil_iff, Option.toList_eq_nil_iff] at sound
    rw [soundJoins_cons_of_none sound.1, inner sound.2]

namespace Query

variable {query : Query} {settings : CompilerSettings} {policy : DuplicateJoinPolicy}

theorem isValid_iff_isSound :
    (query.compile settings).isValid = true ↔
      query.tables ≠ [] ∧ query.IsSound settings.duplicateJoins := by
  rw [isValid_iff, faults_eq_defects, defects_eq_nil_iff]

theorem filter_isNone_eq_self {α : Type} {items : List α} {defect? : α → Option QueryFault}
    (sound : ∀ item ∈ items, defect? item = none) :
    items.filter (fun item => (defect? item).isNone) = items :=
  List.filter_eq_self.mpr (fun item listed => by rw [sound item listed]; rfl)

section Texts

variable {first : Table} {others : List Table}
variable (sound : query.IsSound settings.duplicateJoins) (tables : query.tables = first :: others)
include sound tables

theorem IsSound.joinTexts :
    (((query.statement settings first).joins.flatMap JoinClause.predicates).flatMap (fun join =>
      [join.left.qualify join.leftColumn, join.right.qualify join.rightColumn])).Perm
        ((query.joins.flatMap (Join.namedColumns query.tables)).map NamedColumn.text) := by
  obtain ⟨accepted, taken, predicates⟩ := (query.statement_showsSound settings tables).joins
  rw [soundJoins_eq_self (joinDefects_eq_nil_iff.mpr sound.joins)] at taken
  have texts := map_eq_map_of_forall₂ taken (fun _ _ => Join.AcceptedAs.text_namedColumns)
  rw [List.map_flatMap, List.flatMap_def (f := fun join => List.map _ _), texts,
    ← List.flatMap_def]
  exact predicates.flatMap_right _

theorem IsSound.comparisonTexts :
    ((query.statement settings first).condition.toList.flatMap WherePart.atoms).map Atom.column =
      (query.conditions.leaves.map (Comparison.namedColumn query.tables)).map
        NamedColumn.text := by
  have shown := (query.statement_showsSound settings tables).comparisons
  rw [filter_isNone_eq_self sound.comparisons] at shown
  rw [List.map_map]
  exact (map_eq_map_of_forall₂ shown (fun _ _ => Comparison.text_namedColumn)).symm

theorem IsSound.groupByTexts :
    (query.statement settings first).groupBy =
      (query.groupBy.map (ColumnRef.namedColumn query.tables)).map NamedColumn.text := by
  have shown := (query.statement_showsSound settings tables).groupBy
  rw [filter_isNone_eq_self sound.groupBy] at shown
  have texts : query.groupBy.map (fun column => (column.namedColumn query.tables).text) =
      (query.statement settings first).groupBy.map id :=
    map_eq_map_of_forall₂ shown (fun _ _ => ColumnRef.text_namedColumn)
  rw [List.map_id] at texts
  rw [List.map_map, ← texts]
  rfl

theorem IsSound.orderByTexts :
    (query.statement settings first).orderBy.map Prod.fst =
      (query.orderBy.map (fun entry => entry.column.namedColumn query.tables)).map
        NamedColumn.text := by
  have shown := (query.statement_showsSound settings tables).orderBy
  rw [filter_isNone_eq_self sound.orderBy] at shown
  rw [List.map_map]
  exact (map_eq_map_of_forall₂ shown
    (fun _ _ written => ColumnRef.text_namedColumn written.1)).symm

/-- The columns in the text are those that the query names, behind their tables' qualifiers. -/
theorem IsSound.columnTexts :
    (query.statement settings first).columnTexts.Perm
      (query.namedColumns.map NamedColumn.text) := by
  have selected : (query.statement settings first).selected.map SelectItem.qualified =
      (query.selectedItems.map (fun item =>
        NamedColumn.mk (some item.table) item.column.name)).map NamedColumn.text := by
    rw [List.map_map]
    rfl
  unfold Statement.columnTexts namedColumns
  rw [selected, sound.comparisonTexts tables, sound.groupByTexts tables,
    sound.orderByTexts tables, List.map_append, List.map_append, List.map_append,
    List.map_append]
  exact ((((List.Perm.refl _).append (sound.joinTexts tables)).append_right _).append_right
    _).append_right _

end Texts

/-! ### The tables that are meant -/

theorem table_mem_of_namedColumn {named : NamedColumn} (listed : named ∈ query.namedColumns)
    {table : Table} (meant : named.table = some table) : table ∈ query.tables := by
  have resolved {id : Option TableId} (found : id.bind (resolveTable? query.tables) = some table) :
      table ∈ query.tables := by
    obtain ⟨id, _, found⟩ := Option.bind_eq_some_iff.mp found
    exact resolveTable?_mem found
  unfold namedColumns at listed
  simp only [List.mem_append] at listed
  rcases listed with (((selected | joined) | compared) | grouped) | ordered
  · obtain ⟨item, chosen, rfl⟩ := List.mem_map.mp selected
    obtain ⟨owner, member, column⟩ := List.mem_flatMap.mp chosen
    obtain ⟨_, _, rfl⟩ := List.mem_map.mp column
    exact Option.some.inj meant ▸ member
  · obtain ⟨join, _, side⟩ := List.mem_flatMap.mp joined
    rcases List.mem_pair.mp side with rfl | rfl
    · exact resolved meant
    · exact resolved meant
  · obtain ⟨comparison, _, rfl⟩ := List.mem_map.mp compared
    exact resolved meant
  · obtain ⟨column, _, rfl⟩ := List.mem_map.mp grouped
    exact resolveTable?_mem meant
  · obtain ⟨entry, _, rfl⟩ := List.mem_map.mp ordered
    exact resolveTable?_mem meant

theorem resolveTable?_ne_none {tables : List Table} {id : TableId}
    (selected : hasTable tables id = true) : resolveTable? tables id ≠ none := by
  rw [← isSome_resolveTable?] at selected
  exact Option.isSome_iff_ne_none.mp selected

/-- Without a defect, only a comparison names a column without a table. -/
theorem IsSound.comparison_of_bare (sound : query.IsSound policy) {named : NamedColumn}
    (listed : named ∈ query.namedColumns) (bare : named.table = none) :
    ∃ comparison ∈ query.conditions.leaves, comparison.tableId = none ∧
      comparison.column = named.column := by
  unfold namedColumns at listed
  simp only [List.mem_append] at listed
  rcases listed with (((selected | joined) | compared) | grouped) | ordered
  · obtain ⟨item, _, rfl⟩ := List.mem_map.mp selected
    contradiction
  · obtain ⟨join, member, side⟩ := List.mem_flatMap.mp joined
    obtain ⟨before, after, split⟩ := List.append_of_mem member
    obtain ⟨accepted, taken⟩ :=
      Join.isUsable_iff.mp (Join.isUsable_of_sound (sound.joins before join after split))
    rcases List.mem_pair.mp side with rfl | rfl
    · simp only [taken.leftTable, Option.bind_some, taken.leftKnown] at bare
      contradiction
    · simp only [taken.rightTable, Option.bind_some, taken.rightKnown] at bare
      contradiction
  · obtain ⟨comparison, member, rfl⟩ := List.mem_map.mp compared
    refine ⟨comparison, member, ?_, rfl⟩
    cases held : comparison.tableId with
    | none => rfl
    | some id =>
      have selected := Comparison.hasTable_of_sound (sound.comparisons comparison member) held
      simp only [Comparison.namedColumn, held, Option.bind_some] at bare
      exact absurd bare (resolveTable?_ne_none selected)
  · obtain ⟨column, member, rfl⟩ := List.mem_map.mp grouped
    have selected := ColumnRef.hasTable_of_sound (sound.groupBy column member)
    exact absurd bare (resolveTable?_ne_none selected)
  · obtain ⟨entry, member, rfl⟩ := List.mem_map.mp ordered
    have selected := ColumnRef.hasTable_of_sound (sound.orderBy entry member)
    exact absurd bare (resolveTable?_ne_none selected)

/-! ### Tables and their qualifiers -/

/-- A qualifier stands for one table alone exactly when no other table has it. -/
theorem filter_qualifier_eq_singleton_iff {tables : List Table} (distinct : tables.Nodup)
    {table : Table} (listed : table ∈ tables) :
    tables.filter (fun other => other.qualifier = table.qualifier) = [table] ↔
      ∀ other ∈ tables, other.qualifier = table.qualifier → other = table := by
  constructor
  · intro alone other member same
    have kept : other ∈ tables.filter (fun other => other.qualifier = table.qualifier) :=
      List.mem_filter.mpr ⟨member, decide_eq_true same⟩
    rw [alone] at kept
    exact List.mem_singleton.mp kept
  · intro only
    rw [← List.perm_singleton, List.perm_ext_iff_of_nodup (distinct.filter _)
      (List.nodup_singleton table)]
    intro other
    rw [List.mem_filter, List.mem_singleton, decide_eq_true_eq]
    constructor
    · exact fun ⟨member, same⟩ => only other member same
    · rintro rfl
      exact ⟨listed, rfl⟩

theorem statement_denotes {first : Table} {others : List Table}
    (sound : query.IsSound settings.duplicateJoins) (tables : query.tables = first :: others)
    (distinct : (query.tables.map Table.id).Nodup) :
    (query.statement settings first).Denotes query := by
  have introduced : (query.statement settings first).introduced.Perm query.tables :=
    joinClauses_introduce_perm settings tables distinct
  have once : (query.statement settings first).introduced.Nodup :=
    introduced.nodup_iff.mpr (List.Nodup.of_map _ distinct)
  have alone {table : Table} (listed : table ∈ query.tables) :
      (query.statement settings first).tablesBehind table.qualifier = [table] ↔
        ∀ other ∈ query.tables, other.qualifier = table.qualifier → other = table := by
    rw [Statement.tablesBehind,
      filter_qualifier_eq_singleton_iff once (introduced.mem_iff.mpr listed)]
    simp only [introduced.mem_iff]
  refine ⟨introduced, sound.columnTexts tables, ?_, ?_, ?_⟩
  · intro named listed table meant
    have member := table_mem_of_namedColumn listed meant
    exact ⟨member, alone member⟩
  · intro named listed bare
    exact sound.comparison_of_bare listed bare
  · rw [(introduced.map Table.qualifier).nodup_iff,
      List.nodup_map_iff_inj_on (List.Nodup.of_map _ distinct)]
    constructor
    · intro apart table listed
      exact (alone listed).mpr (fun other member same => apart other member table listed same)
    · intro each other member table listed same
      exact (alone listed).mp (each table listed) other member same

/-! ### Other qualifiers -/

section Relabel

variable {change : Table → Table} (kept : ∀ table, (change table).id = table.id)
include kept

theorem hasTable_map (tables : List Table) : hasTable (tables.map change) = hasTable tables := by
  funext id
  rw [hasTable, List.any_map, hasTable]
  simp only [Function.comp_def, kept]

/-- Whether a query is sound depends on nothing about its tables but their identities. -/
theorem IsSound.relabel (sound : query.IsSound policy) : (query.relabel change).IsSound policy := by
  -- the names of the tables only come up in the text of a fault
  have joined {join : Join} {earlier : List Join} :
      (join.defect? (query.tables.map change) policy earlier).isNone =
        (join.defect? query.tables policy earlier).isNone := by
    unfold Join.defect? Join.isUsable Join.isSelected
    rw [hasTable_map kept]
    simp only [apply_ite Option.isNone, Option.isNone_some, Option.isNone_none]
  refine ⟨?_, ?_, ?_, ?_⟩
  · intro before join after split
    rw [← Option.isNone_iff_eq_none, Query.relabel, joined,
      sound.joins before join after split]
    rfl
  · intro comparison member
    have none := sound.comparisons comparison member
    unfold Comparison.defect? at none ⊢
    rwa [Query.relabel, hasTable_map kept]
  · intro column member
    have none := sound.groupBy column member
    unfold ColumnRef.defect? at none ⊢
    rwa [Query.relabel, hasTable_map kept]
  · intro entry member
    have none := sound.orderBy entry member
    unfold ColumnRef.defect? at none ⊢
    rwa [Query.relabel, hasTable_map kept]

end Relabel

/-- In the text of a valid query each table is introduced once, and each column stands behind the
qualifier of the table that is meant, which stands for that table alone exactly when no other table
has the same one: for all of them when the introduced qualifiers are pairwise different. That they
are is not checked: the query stays valid under any other schemas, names and aliases. -/
theorem valid_qualifiers_denote (query : Query) (settings : CompilerSettings)
    (distinct : (query.tables.map Table.id).Nodup)
    (valid : (query.compile settings).isValid = true) :
    ∃ first others, query.tables = first :: others ∧
      (query.compile settings).sql = (query.statement settings first).text ∧
      (query.statement settings first).Denotes query ∧
      ∀ change : Table → Table, (∀ table, (change table).id = table.id) →
        ((query.relabel change).compile settings).isValid = true := by
  obtain ⟨selected, sound⟩ := isValid_iff_isSound.mp valid
  obtain ⟨first, others, tables⟩ := List.exists_cons_of_ne_nil selected
  refine ⟨first, others, tables, compile_sql settings tables,
    statement_denotes sound tables distinct, ?_⟩
  intro change kept
  refine isValid_iff_isSound.mpr ⟨?_, IsSound.relabel kept sound⟩
  rw [Query.relabel, tables]
  exact List.cons_ne_nil _ _

/-! ### One table twice -/

/-- The table of users under an alias, with their names selected. -/
def userTable (id : TableId) (aliasName : Option String) : Table :=
  { id, name := "users", aliasName
    columns := [
      { name := "id", type := .number }, { name := "boss", type := .number },
      { name := "name", type := .string, selected := true }] }

/-- Users with those they work for: one table selected twice, under the given aliases. -/
def staff (worker boss : Option String) : Query :=
  { tables := [userTable (.uniform 1) worker, userTable (.uniform 2) boss]
    joins := [
      { id := .uniform 3, leftTable := some (.uniform 1), leftColumn := some "boss"
        rightTable := some (.uniform 2), rightColumn := some "id" }] }

/-- With two aliases every column is one of a single table. -/
theorem aliasedStaff_denotes :
    ((staff (some "w") (some "b")).tables.map Table.id).Nodup ∧
    ((staff (some "w") (some "b")).compile {}).isValid = true ∧
    ((staff (some "w") (some "b")).compile {}).sql =
      "SELECT w.name, b.name FROM users AS w\nINNER JOIN users AS b ON w.boss = b.id " ∧
    ∀ first others, (staff (some "w") (some "b")).tables = first :: others →
      ∀ table ∈ (staff (some "w") (some "b")).tables,
        ((staff (some "w") (some "b")).statement {} first).tablesBehind table.qualifier =
          [table] := by
  have distinct : ((staff (some "w") (some "b")).tables.map Table.id).Nodup := by decide
  have valid : ((staff (some "w") (some "b")).compile {}).isValid = true := by decide +kernel
  refine ⟨distinct, valid, by decide +kernel, ?_⟩
  intro first others tables
  obtain ⟨_, _, same, _, denotes, _⟩ :=
    valid_qualifiers_denote (staff (some "w") (some "b")) {} distinct valid
  rw [tables] at same
  cases same
  refine denotes.apart.mp ?_
  rw [(denotes.introduced.map Table.qualifier).nodup_iff]
  decide

/-- Without aliases both tables are introduced under the same qualifier, and the query is valid all
the same. -/
theorem namesakes_share_qualifier :
    ((staff none none).compile {}).isValid = true ∧
    ((staff none none).compile {}).sql =
      "SELECT users.name, users.name FROM users\nINNER JOIN users ON users.boss = users.id " ∧
    ∀ first others, (staff none none).tables = first :: others →
      ¬ (((staff none none).statement {} first).introduced.map Table.qualifier).Nodup ∧
      ((staff none none).statement {} first).tablesBehind "users" = (staff none none).tables := by
  refine ⟨by decide +kernel, by decide +kernel, ?_⟩
  intro first others tables
  cases tables
  refine ⟨by decide +kernel, by decide +kernel⟩

end Query

end QueryComposer
