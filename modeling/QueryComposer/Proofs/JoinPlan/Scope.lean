import Mathlib.Data.List.Nodup
import QueryComposer.Proofs.JoinPlan.Predicates

set_option autoImplicit false

/-!
The order in which a query introduces its tables: each table once, and every predicate after both of
its tables.
-/

namespace QueryComposer

namespace JoinPlan

/-! ### Each table once -/

theorem not_mem_introduced {plan : JoinPlan} {id : TableId} (absent : plan.place? id = none) :
    id ∉ plan.introduced.map Table.id := by
  intro member
  obtain ⟨table, present, same⟩ := List.mem_map.mp member
  have placed := (plan.inScope_iff id).mpr ⟨table, present, same⟩
  rw [(plan.place?_eq_none_iff id).mp absent] at placed
  contradiction

theorem Advance.distinct {plan next : JoinPlan} (step : plan.Advance next)
    (distinct : (plan.introduced.map Table.id).Nodup) :
    (next.introduced.map Table.id).Nodup := by
  have added (clause : JoinClause) (absent : plan.place? clause.table.id = none) :
      ((plan.addClause clause).introduced.map Table.id).Nodup := by
    rw [introduced_addClause, List.map_append]
    refine List.nodup_append.mpr ⟨distinct, List.nodup_singleton _, ?_⟩
    intro id member other same equal
    rw [List.map_singleton, List.mem_singleton] at same
    rw [equal, same] at member
    exact not_mem_introduced absent member
  cases step with
  | close before after join left right waiting leftPlaced rightPlaced =>
    rw [introduced_withPending, introduced_addPredicateAt]
    exact distinct
  | introduceRight before after join left waiting leftPlaced rightAbsent =>
    exact added (.on join.kind join.right [join]) rightAbsent
  | introduceLeft before after join right waiting leftAbsent rightPlaced =>
    exact added (.on join.kind.mirrored join.left [join]) leftAbsent
  | cross join after waiting blocked =>
    have waits : join ∈ plan.pending := by
      rw [waiting]
      exact List.mem_cons_self
    exact added (.cross join.left) (blocked join waits).1

/-- The introduced tables, and those of the joins that wait, are among the given ones. -/
structure Within (tables : List Table) (plan : JoinPlan) : Prop where
  introduced : ∀ table ∈ plan.introduced, table ∈ tables
  pending : ∀ join ∈ plan.pending, join.Among tables

theorem Within.advance {tables : List Table} {plan next : JoinPlan} (step : plan.Advance next)
    (within : plan.Within tables) : next.Within tables := by
  refine ⟨?_, fun join member => within.pending join (step.mem_pending member)⟩
  have added (clause : JoinClause) (known : clause.table ∈ tables) :
      ∀ table ∈ (plan.addClause clause).introduced, table ∈ tables := by
    intro table member
    rw [introduced_addClause] at member
    rcases List.mem_append.mp member with old | new
    · exact within.introduced table old
    · rw [List.mem_singleton.mp new]
      exact known
  cases step with
  | close before after join left right waiting leftPlaced rightPlaced =>
    rw [introduced_withPending, introduced_addPredicateAt]
    exact within.introduced
  | introduceRight before after join left waiting leftPlaced rightAbsent =>
    exact added (.on join.kind join.right [join]) (within.pending join (by simp [waiting])).2
  | introduceLeft before after join right waiting leftAbsent rightPlaced =>
    exact added (.on join.kind.mirrored join.left [join])
      (within.pending join (by simp [waiting])).1
  | cross join after waiting blocked =>
    exact added (.cross join.left) (within.pending join (by simp [waiting])).1

/-! ### Predicates after their tables -/

/-- Both tables of every predicate were introduced no later than by its clause. -/
def Scoped (plan : JoinPlan) : Prop :=
  ∀ (index : Nat) (clause : JoinClause), plan.clauses[index]? = some clause →
    ∀ join ∈ clause.predicates,
      plan.PlacedBy join.left.id (index + 1) ∧ plan.PlacedBy join.right.id (index + 1)

private theorem Scoped.addClause {plan : JoinPlan} (placed : plan.Scoped) (added : JoinClause)
    (pending : List AcceptedJoin)
    (new : ∀ join ∈ added.predicates,
      (plan.addClause added).PlacedBy join.left.id (plan.clauses.length + 1) ∧
        (plan.addClause added).PlacedBy join.right.id (plan.clauses.length + 1)) :
    Scoped { plan.addClause added with pending } := by
  intro index clause found join member
  rcases clause_of_addClause plan added index found with old | ⟨rfl, rfl⟩
  · obtain ⟨left, right⟩ := placed index clause old join member
    exact ⟨left.addClause added, right.addClause added⟩
  · exact new join member

theorem Scoped.advance {plan next : JoinPlan} (step : plan.Advance next)
    (placed : plan.Scoped) : next.Scoped := by
  cases step with
  | close before after join left right waiting leftPlaced rightPlaced =>
    intro index clause found other member
    have known (id : TableId) (early : plan.PlacedBy id (index + 1)) :
        (plan.addPredicateAt (max left right) join).PlacedBy id (index + 1) :=
      (placedBy_addPredicateAt plan _ join id _).mpr early
    refine And.imp (known _) (known _) ?_
    obtain ⟨earlier, old, unchanged | ⟨here, changed⟩⟩ :=
      clause_of_addPredicateAt plan _ index join found
    · subst unchanged
      exact placed index clause old other member
    · subst changed
      rcases predicates_addPredicate member with held | rfl
      · exact placed index earlier old other held
      · exact ⟨⟨left, leftPlaced, by omega⟩, ⟨right, rightPlaced, by omega⟩⟩
  | introduceRight before after join left waiting leftPlaced rightAbsent =>
    refine placed.addClause _ _ ?_
    intro other member
    cases List.mem_singleton.mp member
    have known := (plan.placedBy_of_place? leftPlaced).mono (Nat.le_succ _)
    exact ⟨known.addClause _, plan.placedBy_added (.on join.kind join.right [join])⟩
  | introduceLeft before after join right waiting leftAbsent rightPlaced =>
    refine placed.addClause _ _ ?_
    intro other member
    cases List.mem_singleton.mp member
    have known := (plan.placedBy_of_place? rightPlaced).mono (Nat.le_succ _)
    exact ⟨plan.placedBy_added (.on join.kind.mirrored join.left [join]), known.addClause _⟩
  | cross join after waiting blocked =>
    refine placed.addClause _ _ ?_
    intro other member
    contradiction

end JoinPlan

/-! ### Tables and joins told apart by a digit -/

/-- A table with nothing but an identity and a name. -/
def Table.plain (digit : Nat) (name : String) : Table :=
  { id := .uniform digit, name }

/-- An inner join of two such tables, with a column chosen on each side. -/
def Join.plain (digit left right : Nat) : Join :=
  { id := .uniform digit
    leftTable := some (.uniform left)
    leftColumn := some "id"
    rightTable := some (.uniform right)
    rightColumn := some "ref" }

/-! ### Tables of a query -/

/-- The tables that the statement introduces, from the first on. -/
def Statement.introduced (statement : Statement) : List Table :=
  statement.first :: statement.joins.map JoinClause.table

namespace Query

private theorem joinPlan_distinct (query : Query) (settings : CompilerSettings) (first : Table) :
    ((query.joinPlan settings first).introduced.map Table.id).Nodup :=
  JoinPlan.run_preserves (fun plan => (plan.introduced.map Table.id).Nodup)
    (fun _ _ step distinct => step.distinct distinct) _ (List.nodup_singleton _)

theorem joinPlan_within {query : Query} (settings : CompilerSettings) {first : Table}
    (member : first ∈ query.tables) :
    (query.joinPlan settings first).Within query.tables := by
  refine JoinPlan.run_preserves (JoinPlan.Within query.tables)
    (fun _ _ step within => within.advance step) _ ⟨?_, fun join => mem_acceptedJoins_among⟩
  intro table introduced
  rw [List.mem_singleton.mp introduced]
  exact member

/-- The clauses introduce tables of the query. -/
theorem table_mem_of_mem_joinClauses {query : Query} {settings : CompilerSettings}
    {clause : JoinClause} (member : clause ∈ query.joinClauses settings) :
    clause.table ∈ query.tables := by
  cases tables : query.tables with
  | nil =>
    unfold joinClauses at member
    rw [tables] at member
    contradiction
  | cons first others =>
    rw [joinClauses_eq settings tables] at member
    rcases List.mem_append.mp member with planned | left
    · rw [← tables]
      have start : first ∈ query.tables := by
        rw [tables]
        exact List.mem_cons_self
      exact (joinPlan_within settings start).introduced clause.table
        (List.mem_cons_of_mem _ (List.mem_map_of_mem planned))
    · obtain ⟨table, kept, rfl⟩ := List.mem_map.mp left
      exact List.mem_cons_of_mem first (List.mem_filter.mp kept).1

/-- The predicates of the clauses are those of accepted joins. -/
theorem predicate_mem_of_mem_joinClauses {query : Query} {settings : CompilerSettings}
    {clause : JoinClause} (member : clause ∈ query.joinClauses settings) {join : AcceptedJoin}
    (held : join ∈ clause.predicates) : join ∈ (query.acceptedJoins settings).joins := by
  have listed : join ∈ (query.joinClauses settings).flatMap JoinClause.predicates :=
    List.mem_flatMap.mpr ⟨clause, member, held⟩
  cases tables : query.tables with
  | nil =>
    unfold joinClauses at listed
    rw [tables] at listed
    contradiction
  | cons first others =>
    rw [joinClauses_eq settings tables, List.flatMap_append, flatMap_predicates_leftOver,
      List.append_nil] at listed
    exact (JoinPlan.predicates_run first (query.acceptedJoins settings).joins).mem_iff.mp listed

theorem joinPlan_scoped (query : Query) (settings : CompilerSettings) (first : Table) :
    (query.joinPlan settings first).Scoped := by
  refine JoinPlan.run_preserves JoinPlan.Scoped (fun _ _ step placed => placed.advance step) _ ?_
  intro index clause found
  simp at found

/-- Tables with different identities are known by them. -/
theorem table_eq_of_id_eq {query : Query} (distinct : (query.tables.map Table.id).Nodup)
    {one other : Table} (oneMember : one ∈ query.tables) (otherMember : other ∈ query.tables)
    (same : one.id = other.id) : one = other :=
  List.inj_on_of_nodup_map distinct oneMember otherMember same

theorem statement_introduced {query : Query} (settings : CompilerSettings) {first : Table}
    {others : List Table} (tables : query.tables = first :: others) :
    (query.statement settings first).introduced =
      (query.joinPlan settings first).introduced ++
        others.filter (fun table => !(query.joinPlan settings first).inScope table.id) := by
  have crossed (kept : List Table) : (kept.map JoinClause.cross).map JoinClause.table = kept := by
    rw [List.map_map]
    exact List.map_id kept
  unfold Statement.introduced statement
  simp only
  rw [joinClauses_eq settings tables, List.map_append, JoinPlan.leftOver, crossed]
  unfold JoinPlan.introduced
  rw [first_joinPlan, List.cons_append]

theorem statement_introduced_nodup {query : Query} (settings : CompilerSettings)
    {first : Table} {others : List Table} (tables : query.tables = first :: others)
    (distinct : (query.tables.map Table.id).Nodup) :
    (query.statement settings first).introduced.Nodup := by
  have otherDistinct : others.Nodup := by
    have all := List.Nodup.of_map _ distinct
    rw [tables] at all
    exact (List.nodup_cons.mp all).2
  rw [statement_introduced settings tables]
  refine List.nodup_append.mpr ⟨List.Nodup.of_map _ (query.joinPlan_distinct settings first),
    List.Nodup.filter _ otherDistinct, ?_⟩
  intro table planned other left same
  subst same
  have inScope := (JoinPlan.inScope_iff _ table.id).mpr ⟨table, planned, rfl⟩
  have missing := (List.mem_filter.mp left).2
  rw [inScope] at missing
  contradiction

theorem mem_statement_introduced {query : Query} (settings : CompilerSettings)
    {first : Table} {others : List Table} (tables : query.tables = first :: others)
    (distinct : (query.tables.map Table.id).Nodup) (table : Table) :
    table ∈ (query.statement settings first).introduced ↔ table ∈ query.tables := by
  have start : first ∈ query.tables := by
    rw [tables]
    exact List.mem_cons_self
  have within := joinPlan_within settings start
  rw [statement_introduced settings tables, List.mem_append, List.mem_filter]
  constructor
  · rintro (planned | ⟨left, _⟩)
    · exact within.introduced table planned
    · rw [tables]
      exact List.mem_cons_of_mem first left
  · intro member
    cases inScope : (query.joinPlan settings first).inScope table.id with
    | true =>
      obtain ⟨same, planned, equal⟩ := (JoinPlan.inScope_iff _ table.id).mp inScope
      have known := within.introduced same planned
      rw [← table_eq_of_id_eq distinct known member equal]
      exact Or.inl planned
    | false =>
      refine Or.inr ⟨?_, rfl⟩
      rw [tables] at member
      rcases List.mem_cons.mp member with rfl | left
      · have placed := (JoinPlan.inScope_iff (query.joinPlan settings table) table.id).mpr
          ⟨table, ?_, rfl⟩
        · rw [inScope] at placed
          contradiction
        · unfold JoinPlan.introduced
          rw [first_joinPlan]
          exact List.mem_cons_self
      · exact left

/-- The query introduces its tables in some order, each once. -/
theorem joinClauses_introduce_perm {query : Query} (settings : CompilerSettings) {first : Table}
    {others : List Table} (tables : query.tables = first :: others)
    (distinct : (query.tables.map Table.id).Nodup) :
    (first :: (query.joinClauses settings).map JoinClause.table).Perm query.tables :=
  (List.perm_ext_iff_of_nodup (statement_introduced_nodup settings tables distinct)
    (List.Nodup.of_map _ distinct)).mpr (mem_statement_introduced settings tables distinct)

private theorem mem_planned_among {query : Query} {settings : CompilerSettings} {first : Table}
    {index : Nat} {clause : JoinClause} {join : AcceptedJoin}
    (here : (query.joinPlan settings first).clauses[index]? = some clause)
    (member : join ∈ clause.predicates) : join.Among query.tables := by
  have held : join ∈ (query.joinPlan settings first).predicates :=
    List.mem_flatMap.mpr ⟨clause, List.mem_of_getElem? here, member⟩
  exact mem_acceptedJoins_among ((JoinPlan.predicates_run first _).mem_iff.mp held)

/-- A query introduces each of its tables once, and a predicate names only tables that the first
line, an earlier clause or its own clause introduces. -/
theorem statement_introduces_each_table_once (query : Query) (settings : CompilerSettings)
    (first : Table) (others : List Table) (tables : query.tables = first :: others)
    (distinct : (query.tables.map Table.id).Nodup) :
    (query.compile settings).sql = (query.statement settings first).text ∧
    (query.statement settings first).introduced.Perm query.tables ∧
    ∀ before clause after, (query.statement settings first).joins = before ++ clause :: after →
      ∀ join ∈ clause.predicates,
        join.Among (first :: (before ++ [clause]).map JoinClause.table) := by
  refine ⟨compile_sql settings tables, ?_, ?_⟩
  · exact (List.perm_ext_iff_of_nodup (statement_introduced_nodup settings tables distinct)
      (List.Nodup.of_map _ distinct)).mpr (mem_statement_introduced settings tables distinct)
  · intro before clause after split join member
    have joined : ∀ table, clause ≠ .cross table := by
      intro table same
      rw [same] at member
      contradiction
    obtain ⟨here, earlier⟩ := joinClauses_split tables split joined
    have start : first ∈ query.tables := by
      rw [tables]
      exact List.mem_cons_self
    have among := mem_planned_among here member
    have upTo : (query.joinPlan settings first).clauses.take (before ++ [clause]).length =
        before ++ [clause] := by
      rw [List.length_append, List.length_singleton, List.take_add_one, earlier, here]
      rfl
    have known {table : Table} (asked : table ∈ query.tables)
        (placed : (query.joinPlan settings first).PlacedBy table.id (before.length + 1)) :
        table ∈ first :: (before ++ [clause]).map JoinClause.table := by
      rw [← List.length_singleton (a := clause), ← List.length_append] at placed
      obtain ⟨same, shown, equal⟩ := (joinPlan_placedBy_iff upTo table.id).mp placed
      have planned : same ∈ (query.joinPlan settings first).introduced := by
        apply List.mem_of_mem_take (i := (before ++ [clause]).length + 1)
        rw [JoinPlan.introduced_take, upTo, first_joinPlan]
        exact shown
      have given := (joinPlan_within settings start).introduced same planned
      rw [← table_eq_of_id_eq distinct given asked equal]
      exact shown
    obtain ⟨left, right⟩ := query.joinPlan_scoped settings first _ _ here join member
    exact ⟨known among.1 left, known among.2 right⟩

/-! ### A query with a cycle beside its first table -/

/-- Four tables, of which three are joined in a cycle that does not reach the first. -/
def cycleApart : Query :=
  { tables := [Table.plain 0 "users", Table.plain 1 "x", Table.plain 2 "y", Table.plain 3 "z"]
    joins := [Join.plain 4 2 3, Join.plain 5 1 2, Join.plain 6 3 1, Join.plain 7 1 2] }

theorem cycleApart_introduces_each_table_once :
    (cycleApart.tables.map Table.id).Nodup ∧
    (cycleApart.statement {} (Table.plain 0 "users")).introduced.Perm cycleApart.tables ∧
    ∀ before clause after,
      (cycleApart.statement {} (Table.plain 0 "users")).joins = before ++ clause :: after →
      ∀ join ∈ clause.predicates,
        join.Among (Table.plain 0 "users" :: (before ++ [clause]).map JoinClause.table) :=
  have distinct : (cycleApart.tables.map Table.id).Nodup := by decide
  ⟨distinct,
    (statement_introduces_each_table_once cycleApart {} (Table.plain 0 "users") _ rfl distinct).2⟩

end Query

end QueryComposer
