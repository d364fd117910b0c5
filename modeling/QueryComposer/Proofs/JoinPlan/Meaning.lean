import QueryComposer.Proofs.JoinPlan.Rearranged
import QueryComposer.Proofs.JoinPlan.Rows

set_option autoImplicit false

/-!
What the clauses of a query denote when all its accepted joins are inner joins: the choices of a row
for each table that satisfy every accepted join. Neither the order of the joins nor which side of a
join comes first has a part in it.
-/

namespace QueryComposer

theorem Relations.satisfies_exchanged {Row Value : Type} [DecidableEq Value]
    (relations : Relations Row Value) (choice : RowChoice Row) (join : AcceptedJoin) :
    relations.satisfies choice join.exchanged = relations.satisfies choice join := by
  unfold Relations.satisfies AcceptedJoin.exchanged
  simp only
  cases relations.valueIn? choice join.left.id join.leftColumn with
  | none => cases relations.valueIn? choice join.right.id join.rightColumn <;> rfl
  | some left =>
    cases relations.valueIn? choice join.right.id join.rightColumn with
    | none => rfl
    | some right => simp only [eq_comm]

/-- It takes neither the order of the tables nor that of the joins to select. -/
theorem Relations.selects_congr {Row Value : Type} [DecidableEq Value]
    {relations : Relations Row Value} {tables others : List Table}
    {joins further : List AcceptedJoin} {choice : RowChoice Row} (sameTables : tables.Perm others)
    (sameJoins : (∀ join ∈ joins, relations.satisfies choice join = true) ↔
      ∀ join ∈ further, relations.satisfies choice join = true) :
    relations.Selects tables joins choice ↔ relations.Selects others further choice := by
  have ids := sameTables.map Table.id
  constructor
  · rintro ⟨chosen, apart, satisfied⟩
    exact ⟨fun table member => chosen table (sameTables.mem_iff.mpr member),
      fun id missing => apart id (fun member => missing (ids.mem_iff.mp member)),
      sameJoins.mp satisfied⟩
  · rintro ⟨chosen, apart, satisfied⟩
    exact ⟨fun table member => chosen table (sameTables.mem_iff.mp member),
      fun id missing => apart id (fun member => missing (ids.mem_iff.mpr member)),
      sameJoins.mpr satisfied⟩

namespace Query

/-! ### The clauses of a query with inner joins -/

/-- The predicates of a query's clauses are about tables that are introduced by then. -/
theorem joinClauses_scoped {query : Query} (settings : CompilerSettings) {first : Table}
    {others : List Table} (tables : query.tables = first :: others) :
    PredicatesScoped first (query.joinClauses settings) := by
  intro before clause after split join held
  have joined : ∀ table, clause ≠ .cross table := by
    rintro table rfl
    exact absurd held List.not_mem_nil
  obtain ⟨here, earlier⟩ := joinClauses_split tables split joined
  have upTo : (query.joinPlan settings first).clauses.take (before ++ [clause]).length =
      before ++ [clause] := by
    rw [List.length_append, List.length_singleton, List.take_add_one, earlier, here]
    rfl
  have known {id : TableId}
      (placed : (query.joinPlan settings first).PlacedBy id (before.length + 1)) :
      id ∈ (first :: (before ++ [clause]).map JoinClause.table).map Table.id := by
    rw [← List.length_singleton (a := clause), ← List.length_append] at placed
    obtain ⟨table, shown, same⟩ := (joinPlan_placedBy_iff upTo id).mp placed
    exact List.mem_map.mpr ⟨table, shown, same⟩
  obtain ⟨left, right⟩ := query.joinPlan_scoped settings first _ _ here join held
  exact ⟨known left, known right⟩

/-- When no accepted join keeps unmatched rows, no clause does: a clause has the kind of the join
that opened it, from one side or the other. -/
theorem joinClauses_inner {query : Query} {settings : CompilerSettings} {first : Table}
    {others : List Table} (tables : query.tables = first :: others)
    (inner : ∀ join ∈ (query.acceptedJoins settings).joins, join.kind = .inner) :
    ∀ clause ∈ query.joinClauses settings, clause.IsInner := by
  intro clause member
  cases clause with
  | cross table => trivial
  | on kind table held =>
    obtain ⟨before, after, split⟩ := List.append_of_mem member
    obtain ⟨here, _⟩ := joinClauses_split tables split (fun _ same => by contradiction)
    obtain ⟨opener, rest, rfl, opens⟩ :=
      JoinPlan.opened_run first (query.acceptedJoins settings).joins _ _ _ _ here
    have openerInner : opener.kind = .inner :=
      inner opener (predicate_mem_of_mem_joinClauses member List.mem_cons_self)
    rcases opens with ⟨_, rfl, _⟩ | ⟨_, rfl, _⟩
    · exact openerInner
    · rw [JoinClause.IsInner, openerInner]
      rfl

theorem mem_predicates_joinClauses_iff {query : Query} {settings : CompilerSettings}
    {first : Table} {others : List Table} (tables : query.tables = first :: others)
    {join : AcceptedJoin} :
    join ∈ (query.joinClauses settings).flatMap JoinClause.predicates ↔
      join ∈ (query.acceptedJoins settings).joins := by
  rw [joinClauses_eq settings tables, List.flatMap_append, flatMap_predicates_leftOver,
    List.append_nil]
  exact (JoinPlan.predicates_run first (query.acceptedJoins settings).joins).mem_iff

/-- With inner joins only, the clauses denote the choices that satisfy every accepted join. -/
theorem mem_meaning_joinClauses_iff {query : Query} {settings : CompilerSettings}
    {first : Table} {others : List Table} (tables : query.tables = first :: others)
    (distinct : (query.tables.map Table.id).Nodup)
    (inner : ∀ join ∈ (query.acceptedJoins settings).joins, join.kind = .inner)
    {Row Value : Type} [DecidableEq Value] {relations : Relations Row Value}
    {choice : RowChoice Row} :
    choice ∈ relations.meaning first (query.joinClauses settings) ↔
      relations.Selects query.tables (query.acceptedJoins settings).joins choice := by
  have introduced := joinClauses_introduce_perm settings tables distinct
  have introducedDistinct := ((introduced.map Table.id).nodup_iff).mpr distinct
  rw [Relations.mem_meaning_iff introducedDistinct (joinClauses_scoped settings tables)
    (joinClauses_inner tables inner)]
  apply Relations.selects_congr introduced
  simp only [mem_predicates_joinClauses_iff tables]

/-- The clauses of a query whose accepted joins are all inner joins denote the choices of a row for
each table that satisfy every accepted join. When every join is accepted, the joins may stand in any
order and with either side first: all of them are accepted still, the rest of the statement is the
same, and so is what its clauses denote. -/
theorem inner_joins_denote_satisfying_choices (query : Query) (settings : CompilerSettings)
    (first : Table) (others : List Table) (tables : query.tables = first :: others)
    (distinct : (query.tables.map Table.id).Nodup)
    (inner : ∀ join ∈ (query.acceptedJoins settings).joins, join.kind = .inner) :
    (query.compile settings).sql = (query.statement settings first).text ∧
    (∀ clause ∈ (query.statement settings first).joins, clause.IsInner) ∧
    (∀ (Row Value : Type) [DecidableEq Value] (relations : Relations Row Value)
      (choice : RowChoice Row),
      choice ∈ relations.meaning first (query.statement settings first).joins ↔
        relations.Selects query.tables (query.acceptedJoins settings).joins choice) ∧
    ((query.acceptedJoins settings).joins.length = query.joins.length →
      ∀ joins, Rearranged Join.exchanged query.joins joins →
        let rearranged : Query := { query with joins }
        (rearranged.acceptedJoins settings).joins.length = joins.length ∧
        (rearranged.compile settings).sql =
          { query.statement settings first with joins := rearranged.joinClauses settings }.text ∧
        ∀ (Row Value : Type) [DecidableEq Value] (relations : Relations Row Value)
          (choice : RowChoice Row),
          choice ∈ relations.meaning first (rearranged.joinClauses settings) ↔
            choice ∈ relations.meaning first (query.statement settings first).joins) := by
  refine ⟨compile_sql settings tables, joinClauses_inner tables inner, ?_, ?_⟩
  · intro Row Value _ relations choice
    exact mem_meaning_joinClauses_iff tables distinct inner
  · intro all joins arrangement rearranged
    have accepted : Rearranged AcceptedJoin.exchanged (query.acceptedJoins settings).joins
        (rearranged.acceptedJoins settings).joins :=
      AcceptedJoins.ofJoins_rearranged arrangement all
    have stillInner : ∀ join ∈ (rearranged.acceptedJoins settings).joins, join.kind = .inner :=
      (accepted.forall_iff AcceptedJoin.inner_exchanged).mp inner
    have sameTables : rearranged.tables = first :: others := tables
    refine ⟨?_, compile_sql settings sameTables, ?_⟩
    · rw [← accepted.length_eq, all, arrangement.length_eq]
    · intro Row Value _ relations choice
      have satisfied : (∀ join ∈ (query.acceptedJoins settings).joins,
            relations.satisfies choice join = true) ↔
          ∀ join ∈ (rearranged.acceptedJoins settings).joins,
            relations.satisfies choice join = true :=
        accepted.forall_iff (fun join => by rw [relations.satisfies_exchanged choice join])
      rw [mem_meaning_joinClauses_iff sameTables distinct stillInner,
        Relations.selects_congr (List.Perm.refl query.tables) satisfied.symm]
      exact (mem_meaning_joinClauses_iff tables distinct inner).symm

/-! ### A query with a cycle of joins and a table apart -/

/-- The query starts from a table that no join touches; the joins go around the other three. -/
def triangleApart : Query :=
  { tables := [Table.plain 0 "apart", Table.plain 1 "a", Table.plain 2 "b", Table.plain 3 "c"]
    joins := [Join.plain 4 1 2, Join.plain 5 2 3, Join.plain 6 3 1] }

/-- The joins of the triangle, taken the other way around and two of them exchanged. -/
def turnedEdges : List Join :=
  [(Join.plain 6 3 1).exchanged, Join.plain 5 2 3, (Join.plain 4 1 2).exchanged]

theorem turnedEdges_denote_the_same :
    (triangleApart.tables.map Table.id).Nodup ∧
    (∀ join ∈ (triangleApart.acceptedJoins {}).joins, join.kind = .inner) ∧
    (triangleApart.acceptedJoins {}).joins.length = triangleApart.joins.length ∧
    Rearranged Join.exchanged triangleApart.joins turnedEdges ∧
    ∀ (Row Value : Type) [DecidableEq Value] (relations : Relations Row Value)
      (choice : RowChoice Row),
      choice ∈ relations.meaning (Table.plain 0 "apart")
          ({ triangleApart with joins := turnedEdges }.joinClauses {}) ↔
        choice ∈ relations.meaning (Table.plain 0 "apart")
          (triangleApart.statement {} (Table.plain 0 "apart")).joins := by
  have distinct : (triangleApart.tables.map Table.id).Nodup := by decide
  have inner : ∀ join ∈ (triangleApart.acceptedJoins {}).joins, join.kind = .inner := by
    decide +kernel
  have all : (triangleApart.acceptedJoins {}).joins.length = triangleApart.joins.length := by
    decide +kernel
  have turned : Rearranged Join.exchanged triangleApart.joins turnedEdges :=
    ⟨triangleApart.joins.reverse, (List.reverse_perm _).symm,
      .cons (Or.inr rfl) (.cons (Or.inl rfl) (.cons (Or.inr rfl) .nil))⟩
  refine ⟨distinct, inner, all, turned, ?_⟩
  exact ((inner_joins_denote_satisfying_choices triangleApart {} (Table.plain 0 "apart") _ rfl
    distinct inner).2.2.2 all turnedEdges turned).2.2

end Query

end QueryComposer
