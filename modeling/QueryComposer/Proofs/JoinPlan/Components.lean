import Mathlib.Combinatorics.SimpleGraph.Connectivity.Connected
import QueryComposer.Proofs.JoinPlan.Closed

set_option autoImplicit false

/-!
The graph of the tables of a query and its accepted joins. A cross join begins a component of the
graph, and the rest of the component follows by joins, so that the cross joins and the warnings
about Cartesian products count the components without the first table.
-/

namespace QueryComposer

namespace Query

/-! ### The graph of tables and joins -/

/-- A table of the query. -/
abbrev SelectedTable (query : Query) : Type :=
  { table : Table // table ∈ query.tables }

/-- The tables of the query as vertices, its accepted joins as edges. -/
def joinGraph (query : Query) (settings : CompilerSettings) : SimpleGraph query.SelectedTable where
  Adj one other :=
    ∃ join ∈ (query.acceptedJoins settings).joins, join.Connects one.1.id other.1.id
  symm := ⟨fun one other ⟨join, member, connects⟩ => ⟨join, member, by
    rcases connects with ⟨left, right⟩ | ⟨right, left⟩
    · exact Or.inr ⟨right, left⟩
    · exact Or.inl ⟨left, right⟩⟩⟩
  loopless := ⟨fun one ⟨join, _, connects⟩ => by
    rcases connects with ⟨left, right⟩ | ⟨right, left⟩
    · exact join.distinct (left.trans right.symm)
    · exact join.distinct (left.trans right.symm)⟩

/-- The tables of a component of the graph. -/
def tablesOf {query : Query} {settings : CompilerSettings}
    (component : (query.joinGraph settings).ConnectedComponent) : Set Table :=
  Subtype.val '' component.supp

/-- What no join leads out of holds of both or of none of two tables that joins connect. -/
theorem known_iff_of_reachable {query : Query} {settings : CompilerSettings}
    {known : TableId → Prop}
    (closed : ∀ join ∈ (query.acceptedJoins settings).joins,
      known join.left.id ↔ known join.right.id)
    {one other : query.SelectedTable} (reachable : (query.joinGraph settings).Reachable one other) :
    known one.1.id ↔ known other.1.id := by
  rw [SimpleGraph.reachable_iff_reflTransGen] at reachable
  induction reachable with
  | refl => exact Iff.rfl
  | tail _ last inner =>
    obtain ⟨join, member, connects⟩ := last
    refine inner.trans ?_
    rcases connects with ⟨left, right⟩ | ⟨left, right⟩
    · rw [← left, ← right]
      exact closed join member
    · rw [← left, ← right]
      exact (closed join member).symm

theorem reachable_of_connects {query : Query} {settings : CompilerSettings}
    {one other : query.SelectedTable}
    (connects : ∃ join ∈ (query.acceptedJoins settings).joins, join.Connects one.1.id other.1.id) :
    (query.joinGraph settings).Reachable one other :=
  SimpleGraph.Adj.reachable (G := query.joinGraph settings) connects

/-- Joins connect a cross joined table with none that was introduced before it. -/
theorem not_reachable_crossed {query : Query} {settings : CompilerSettings} {first : Table}
    {others : List Table} (tables : query.tables = first :: others)
    (distinct : (query.tables.map Table.id).Nodup)
    {before after : List JoinClause} {known crossed : query.SelectedTable}
    (split : query.joinClauses settings = before ++ .cross crossed.1 :: after)
    (shown : known.1 ∈ first :: before.map JoinClause.table) :
    ¬ (query.joinGraph settings).Reachable known crossed := by
  intro reachable
  have introduced := (joinClauses_introduce_perm settings tables distinct).map Table.id
  have apart := introduced.nodup_iff.mpr distinct
  rw [split, List.map_append, ← List.cons_append, List.map_append] at apart
  have late : crossed.1.id ∉ (first :: before.map JoinClause.table).map Table.id := by
    intro early
    exact (List.nodup_append.mp apart).2.2 _ early _ List.mem_cons_self rfl
  have closed (join : AcceptedJoin) (member : join ∈ (query.acceptedJoins settings).joins) :=
    joinClauses_cross_closed tables split member
  exact late ((known_iff_of_reachable closed reachable).mp (List.mem_map_of_mem shown))

theorem mem_tablesOf_iff {query : Query} {settings : CompilerSettings}
    {component : (query.joinGraph settings).ConnectedComponent} {table : query.SelectedTable} :
    table.1 ∈ tablesOf component ↔ (query.joinGraph settings).connectedComponentMk table =
      component := by
  constructor
  · rintro ⟨same, member, equal⟩
    cases Subtype.ext equal
    exact member
  · intro inside
    exact ⟨table, inside, rfl⟩

/-! ### Components and cross joins -/

/-- Of the tables, one cross join introduces one, and no clause introduces another before it. -/
def CrossedOnce (clauses : List JoinClause) (tables : Set Table) : Prop :=
  ∃ before crossed after, clauses = before ++ .cross crossed :: after ∧ crossed ∈ tables ∧
    (∀ clause ∈ before, clause.table ∉ tables) ∧
    ∀ other, .cross other ∈ after → other ∉ tables

section Components

variable {query : Query} {settings : CompilerSettings} {first : Table} {others : List Table}

theorem reachable_of_mem_tablesOf {component : (query.joinGraph settings).ConnectedComponent}
    {one other : query.SelectedTable} (oneInside : one.1 ∈ tablesOf component)
    (otherInside : other.1 ∈ tablesOf component) :
    (query.joinGraph settings).Reachable one other :=
  SimpleGraph.ConnectedComponent.exact
    ((mem_tablesOf_iff.mp oneInside).trans (mem_tablesOf_iff.mp otherInside).symm)

/-- A cross join introduces no table of a component of which a table was introduced before it. -/
theorem crossed_not_mem_tablesOf (tables : query.tables = first :: others)
    (distinct : (query.tables.map Table.id).Nodup)
    {component : (query.joinGraph settings).ConnectedComponent}
    {before after : List JoinClause} {known crossed : Table}
    (split : query.joinClauses settings = before ++ .cross crossed :: after)
    (shown : known ∈ first :: before.map JoinClause.table)
    (knownInside : known ∈ tablesOf component) : crossed ∉ tablesOf component := by
  rintro ⟨crossed, inside, rfl⟩
  obtain ⟨known, knownIn, rfl⟩ := knownInside
  exact not_reachable_crossed tables distinct split shown
    (reachable_of_mem_tablesOf ⟨known, knownIn, rfl⟩ ⟨crossed, inside, rfl⟩)

/-- A clause with predicates introduces a table of a component only after another one of it. -/
theorem on_follows_component (tables : query.tables = first :: others)
    (distinct : (query.tables.map Table.id).Nodup)
    {component : (query.joinGraph settings).ConnectedComponent}
    {before after : List JoinClause} {kind : JoinKind} {table : Table} {held : List AcceptedJoin}
    (split : query.joinClauses settings = before ++ .on kind table held :: after)
    (inside : table ∈ tablesOf component) :
    ∃ known ∈ first :: before.map JoinClause.table, known ∈ tablesOf component := by
  obtain ⟨known, shown, connects⟩ := joinClauses_on_connects tables split
  obtain ⟨table, member, rfl⟩ := inside
  have introduced := joinClauses_introduce_perm settings tables distinct
  have selected : known ∈ query.tables := by
    apply introduced.mem_iff.mp
    rw [split, List.map_append, ← List.cons_append]
    exact List.mem_append_left _ shown
  have reachable : (query.joinGraph settings).Reachable table ⟨known, selected⟩ :=
    reachable_of_connects connects
  refine ⟨known, shown, ⟨known, selected⟩, ?_, rfl⟩
  exact (SimpleGraph.ConnectedComponent.sound reachable).symm.trans member

/-- A component without the first table is introduced by one cross join and what follows it. -/
theorem crossedOnce_of_first_not_mem (tables : query.tables = first :: others)
    (distinct : (query.tables.map Table.id).Nodup)
    {component : (query.joinGraph settings).ConnectedComponent}
    (outside : first ∉ tablesOf component) :
    CrossedOnce (query.joinClauses settings) (tablesOf component) := by
  classical
  have introduced := joinClauses_introduce_perm settings tables distinct
  obtain ⟨vertex, inside⟩ := component.nonempty_supp
  have vertexInside : vertex.1 ∈ tablesOf component := ⟨vertex, inside, rfl⟩
  have present : ∃ clause ∈ query.joinClauses settings,
      decide (clause.table ∈ tablesOf component) = true := by
    rcases List.mem_cons.mp (introduced.mem_iff.mpr vertex.2) with same | listed
    · rw [same] at vertexInside
      exact absurd vertexInside outside
    · obtain ⟨clause, member, same⟩ := List.mem_map.mp listed
      exact ⟨clause, member, decide_eq_true (same ▸ vertexInside)⟩
  -- The first clause that enters the component can only be a cross join, for a join would enter it
  -- from a table of the component that was there before.
  obtain ⟨clause, found⟩ := Option.isSome_iff_exists.mp (List.find?_isSome.mpr present)
  obtain ⟨entered, before, after, split, earlier⟩ := List.find?_eq_some_iff_append.mp found
  have entered := of_decide_eq_true entered
  have untouched : ∀ other ∈ before, other.table ∉ tablesOf component := by
    intro other member
    simpa using earlier other member
  cases clause with
  | on kind table held =>
    obtain ⟨known, shown, knownInside⟩ := on_follows_component tables distinct split entered
    rcases List.mem_cons.mp shown with rfl | listed
    · exact absurd knownInside outside
    · obtain ⟨other, member, rfl⟩ := List.mem_map.mp listed
      exact absurd knownInside (untouched other member)
  | cross crossed =>
    refine ⟨before, crossed, after, split, entered, untouched, ?_⟩
    intro other later
    obtain ⟨between, rest, rfl⟩ := List.append_of_mem later
    have whole : query.joinClauses settings =
        (before ++ .cross crossed :: between) ++ .cross other :: rest := by
      rw [split, List.append_assoc, List.cons_append]
    have shown : crossed ∈ first :: (before ++ .cross crossed :: between).map JoinClause.table := by
      rw [List.map_append]
      exact List.mem_cons_of_mem first (List.mem_append_right _ List.mem_cons_self)
    exact crossed_not_mem_tablesOf tables distinct whole shown entered

/-- There is a cross join exactly when the graph falls apart. -/
theorem exists_cross_iff (tables : query.tables = first :: others)
    (distinct : (query.tables.map Table.id).Nodup) :
    (∃ crossed, .cross crossed ∈ query.joinClauses settings) ↔
      ¬ (query.joinGraph settings).Preconnected := by
  have start : first ∈ query.tables := by
    rw [tables]
    exact List.mem_cons_self
  constructor
  · rintro ⟨crossed, member⟩ connected
    have selected : crossed ∈ query.tables := table_mem_of_mem_joinClauses member
    obtain ⟨before, after, split⟩ := List.append_of_mem member
    have reachable := connected ⟨first, start⟩ ⟨crossed, selected⟩
    exact not_reachable_crossed tables distinct split List.mem_cons_self reachable
  · intro apart
    -- Some table is not connected with the first one, or all would be connected through it.
    obtain ⟨vertex, unreached⟩ :
        ∃ vertex, ¬ (query.joinGraph settings).Reachable ⟨first, start⟩ vertex := by
      by_contra reached
      simp only [not_exists, not_not] at reached
      exact apart (fun one other => (reached one).symm.trans (reached other))
    have outside : (⟨first, start⟩ : query.SelectedTable).1 ∉
        tablesOf ((query.joinGraph settings).connectedComponentMk vertex) := by
      rw [mem_tablesOf_iff]
      intro same
      exact unreached (SimpleGraph.ConnectedComponent.exact same)
    obtain ⟨before, crossed, after, split, _⟩ :=
      crossedOnce_of_first_not_mem tables distinct outside
    exact ⟨crossed, by
      rw [split]
      exact List.mem_append_right _ List.mem_cons_self⟩

end Components

end Query

/-! ### Warnings about cross joins -/

/-- The warning is about a table that nothing connects. -/
def QueryWarning.isCartesian : QueryWarning → Bool
  | .cartesianProduct _ => true
  | .ungroupedColumn _ | .repeatedJoin .. => false

/-- The table that the clause introduces without a join. -/
def JoinClause.crossed? : JoinClause → Option Table
  | .cross table => some table
  | .on .. => none

theorem AcceptedJoins.isCartesian_of_mem_warnings {tables : List Table}
    {policy : DuplicateJoinPolicy} {number : Nat} {pairs : List (TableId × TableId)}
    {joins : List Join} {warning : QueryWarning}
    (member : warning ∈ (ofJoins tables policy number pairs joins).warnings) :
    warning.isCartesian = false := by
  induction joins generalizing number pairs with
  | nil => contradiction
  | cons join joins inner =>
    cases taken : join.accept tables (number + 1) with
    | error fault =>
      rw [ofJoins, taken] at member
      exact inner member
    | ok accepted =>
      rw [ofJoins_cons taken] at member
      split at member
      · exact inner member
      · simp only at member
        split at member
        · rcases List.mem_cons.mp member with rfl | later
          · rfl
          · exact inner later
        · exact inner member

theorem Query.isCartesian_of_mem_selectWarnings {query : Query} {warning : QueryWarning}
    (member : warning ∈ query.selectWarnings) : warning.isCartesian = false := by
  unfold selectWarnings at member
  simp only at member
  split at member
  · obtain ⟨item, _, rfl⟩ := List.mem_map.mp member
    rfl
  · contradiction

theorem JoinClause.filter_warnings (clauses : List JoinClause) :
    (clauses.filterMap warning?).filter QueryWarning.isCartesian =
      (clauses.filterMap crossed?).map (fun table => .cartesianProduct table.name) := by
  induction clauses with
  | nil => rfl
  | cons clause clauses inner =>
    cases clause with
    | on kind table held => exact inner
    | cross table => exact congrArg (.cartesianProduct table.name :: ·) inner

namespace Query

theorem filter_warnings_compile (query : Query) (settings : CompilerSettings) :
    (query.compile settings).warnings.filter QueryWarning.isCartesian =
      ((query.joinClauses settings).filterMap JoinClause.crossed?).map
        (fun table => .cartesianProduct table.name) := by
  have none {warnings : List QueryWarning}
      (otherwise : ∀ warning ∈ warnings, warning.isCartesian = false) :
      warnings.filter QueryWarning.isCartesian = [] :=
    List.filter_eq_nil_iff.mpr (fun warning member => by
      rw [otherwise warning member]
      exact Bool.noConfusion)
  cases tables : query.tables with
  | nil =>
    unfold compile joinClauses
    rw [tables]
    rfl
  | cons first others =>
    have compiled : (query.compile settings).warnings = query.warnings settings := by
      unfold compile
      rw [tables]
    have repeated : (query.acceptedJoins settings).warnings.filter QueryWarning.isCartesian = [] :=
      none (fun _ => AcceptedJoins.isCartesian_of_mem_warnings)
    rw [compiled, warnings, List.filter_append, List.filter_append,
      none (fun _ => isCartesian_of_mem_selectWarnings), repeated, JoinClause.filter_warnings]
    rfl

theorem mem_filterMap_crossed?_iff {clauses : List JoinClause} {table : Table} :
    table ∈ clauses.filterMap JoinClause.crossed? ↔ .cross table ∈ clauses := by
  rw [List.mem_filterMap]
  constructor
  · rintro ⟨clause, member, same⟩
    cases clause with
    | on kind table held => contradiction
    | cross crossed =>
      cases same
      exact member
  · intro member
    exact ⟨.cross table, member, rfl⟩

/-- Of the components of the graph of tables and accepted joins, the one with the first table has no
cross join, and each other one is introduced by exactly one, before any other table of it. There is
one warning about a Cartesian product for each cross join, in the same order; so there is one at all
exactly when the graph is not connected. -/
theorem cross_joins_begin_components (query : Query) (settings : CompilerSettings)
    (distinct : (query.tables.map Table.id).Nodup) :
    (∀ first others, query.tables = first :: others →
      (query.compile settings).sql = (query.statement settings first).text ∧
        (query.statement settings first).joins = query.joinClauses settings) ∧
    (∀ component : (query.joinGraph settings).ConnectedComponent,
      ((∃ first ∈ query.tables.head?, first ∈ tablesOf component) →
        ∀ crossed, .cross crossed ∈ query.joinClauses settings → crossed ∉ tablesOf component) ∧
      ((∀ first ∈ query.tables.head?, first ∉ tablesOf component) →
        CrossedOnce (query.joinClauses settings) (tablesOf component))) ∧
    (query.compile settings).warnings.filter QueryWarning.isCartesian =
      ((query.joinClauses settings).filterMap JoinClause.crossed?).map
        (fun table => .cartesianProduct table.name) ∧
    ((∃ warning ∈ (query.compile settings).warnings, warning.isCartesian = true) ↔
      ¬ (query.joinGraph settings).Preconnected) := by
  refine ⟨fun first others tables => ⟨compile_sql settings tables, rfl⟩, ?_,
    query.filter_warnings_compile settings, ?_⟩
  · intro component
    obtain ⟨vertex, _⟩ := component.nonempty_supp
    cases tables : query.tables with
    | nil => exact absurd tables (List.ne_nil_of_mem vertex.2)
    | cons first others =>
      simp only [List.head?_cons, Option.mem_def, Option.some.injEq, exists_eq_left', forall_eq']
      refine ⟨?_, crossedOnce_of_first_not_mem tables distinct⟩
      intro inside crossed member
      obtain ⟨before, after, split⟩ := List.append_of_mem member
      exact crossed_not_mem_tablesOf tables distinct split List.mem_cons_self inside
  · have warned : (∃ warning ∈ (query.compile settings).warnings, warning.isCartesian = true) ↔
        ∃ crossed, .cross crossed ∈ query.joinClauses settings := by
      simp only [← List.mem_filter, ← mem_filterMap_crossed?_iff, filter_warnings_compile,
        List.mem_map]
      constructor
      · rintro ⟨_, crossed, member, _⟩
        exact ⟨crossed, member⟩
      · rintro ⟨crossed, member⟩
        exact ⟨_, crossed, member, rfl⟩
    rw [warned]
    cases tables : query.tables with
    | nil =>
      have connected : (query.joinGraph settings).Preconnected :=
        fun one _ => absurd tables (List.ne_nil_of_mem one.2)
      have clauses : query.joinClauses settings = [] := by
        unfold joinClauses
        rw [tables]
      rw [clauses]
      exact iff_of_false (by simp) (fun apart => apart connected)
    | cons first others => exact exists_cross_iff tables distinct

/-! ### A query in three parts -/

/-- One table is joined with the first, two are joined twice with each other, and one is alone. -/
def threeParts : Query :=
  { tables := [Table.plain 0 "users", Table.plain 1 "x", Table.plain 2 "y", Table.plain 3 "orders",
      Table.plain 4 "audit"]
    joins := [Join.plain 5 2 1, Join.plain 6 3 0, Join.plain 7 1 2] }

theorem threeParts_not_connected :
    (threeParts.tables.map Table.id).Nodup ∧
    (threeParts.compile {}).warnings.filter QueryWarning.isCartesian =
      [.cartesianProduct "y", .cartesianProduct "audit"] ∧
    ¬ (threeParts.joinGraph {}).Preconnected := by
  have distinct : (threeParts.tables.map Table.id).Nodup := by decide
  have warned : (threeParts.compile {}).warnings.filter QueryWarning.isCartesian =
      [.cartesianProduct "y", .cartesianProduct "audit"] := by decide +kernel
  refine ⟨distinct, warned, ?_⟩
  apply (cross_joins_begin_components threeParts {} distinct).2.2.2.mp
  refine ⟨.cartesianProduct "y", List.mem_of_mem_filter (p := QueryWarning.isCartesian) ?_, rfl⟩
  rw [warned]
  exact List.mem_cons_self

end Query

end QueryComposer
