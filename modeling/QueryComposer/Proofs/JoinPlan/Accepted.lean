import QueryComposer.Proofs.JoinPlan.Step
import QueryComposer.Sql.Statement

set_option autoImplicit false

/-!
Accepted joins are between tables of the query, and the clauses of a compiled query are those of the
finished plan for them, with cross joins behind.
-/

namespace QueryComposer

/-- Both tables of the join are among the tables. -/
def AcceptedJoin.Among (tables : List Table) (join : AcceptedJoin) : Prop :=
  join.left ∈ tables ∧ join.right ∈ tables

theorem Join.accept_eq_ok {tables : List Table} {number : Nat} {join : Join}
    {accepted : AcceptedJoin} (found : join.accept tables number = .ok accepted) :
    accepted.Among tables ∧ join.leftColumn = some accepted.leftColumn ∧
      join.rightColumn = some accepted.rightColumn := by
  unfold Join.accept at found
  split at found
  · rename_i leftChosen _ rightChosen
    split at found
    · contradiction
    · split at found
      · rename_i leftFound rightFound
        cases found
        exact ⟨⟨resolveTable?_mem leftFound, resolveTable?_mem rightFound⟩, leftChosen, rightChosen⟩
      · contradiction
  · contradiction

/-- The two tables that the join connects, whichever comes first. -/
def AcceptedJoin.pair (join : AcceptedJoin) : TableId × TableId :=
  orderedPair join.left.id join.right.id

/-- A join that can be accepted is refused when it is a repetition and the policy allows none, and
else it is accepted, with a warning about a repetition where the policy asks for one. -/
theorem AcceptedJoins.ofJoins_cons {tables : List Table} {policy : DuplicateJoinPolicy}
    {number : Nat} {pairs : List (TableId × TableId)} {join : Join} {joins : List Join}
    {accepted : AcceptedJoin} (taken : join.accept tables (number + 1) = .ok accepted) :
    ofJoins tables policy number pairs (join :: joins) =
      let rest := ofJoins tables policy (number + 1) (accepted.pair :: pairs) joins
      let left := accepted.left.name
      let right := accepted.right.name
      if policy = .reject ∧ accepted.pair ∈ pairs then
        { rest with faults := .repeatedJoin (number + 1) left right :: rest.faults }
      else
        { rest with
          joins := accepted :: rest.joins
          warnings :=
            if policy = .warn ∧ accepted.pair ∈ pairs then
              .repeatedJoin (number + 1) left right :: rest.warnings
            else rest.warnings } := by
  rw [ofJoins, taken]
  simp only [← AcceptedJoin.pair.eq_def]
  by_cases repeated : accepted.pair ∈ pairs
  · cases policy <;> simp [repeated]
  · simp [repeated]

/-- An accepted join comes from one of the joins. -/
theorem AcceptedJoins.mem_ofJoins {tables : List Table} {policy : DuplicateJoinPolicy}
    {number : Nat} {pairs : List (TableId × TableId)} {joins : List Join} {join : AcceptedJoin}
    (member : join ∈ (ofJoins tables policy number pairs joins).joins) :
    ∃ given ∈ joins, ∃ place, given.accept tables place = .ok join := by
  induction joins generalizing number pairs with
  | nil => simp [ofJoins] at member
  | cons first joins inner =>
    have later {number : Nat} {pairs : List (TableId × TableId)}
        (further : join ∈ (ofJoins tables policy number pairs joins).joins) :
        ∃ given ∈ first :: joins, ∃ place, given.accept tables place = .ok join := by
      obtain ⟨given, listed, taken⟩ := inner further
      exact ⟨given, List.mem_cons_of_mem first listed, taken⟩
    cases taken : first.accept tables (number + 1) with
    | error fault =>
      rw [ofJoins, taken] at member
      exact later member
    | ok accepted =>
      rw [ofJoins_cons taken] at member
      split at member
      · exact later member
      · rcases List.mem_cons.mp member with rfl | further
        · exact ⟨first, List.mem_cons_self, number + 1, taken⟩
        · exact later further

theorem AcceptedJoins.mem_ofJoins_among {tables : List Table} {policy : DuplicateJoinPolicy}
    {number : Nat} {pairs : List (TableId × TableId)} {joins : List Join} {join : AcceptedJoin}
    (member : join ∈ (ofJoins tables policy number pairs joins).joins) : join.Among tables := by
  obtain ⟨_, _, _, taken⟩ := mem_ofJoins member
  exact (Join.accept_eq_ok taken).1

namespace Query

theorem mem_acceptedJoins_among {query : Query} {settings : CompilerSettings}
    {join : AcceptedJoin} (member : join ∈ (query.acceptedJoins settings).joins) :
    join.Among query.tables :=
  AcceptedJoins.mem_ofJoins_among member

/-- A query without tables has no join to accept. -/
theorem acceptedJoins_eq_nil {query : Query} (settings : CompilerSettings)
    (none : query.tables = []) : (query.acceptedJoins settings).joins = [] := by
  apply List.eq_nil_iff_forall_not_mem.mpr
  intro join member
  have known := (mem_acceptedJoins_among member).1
  rw [none] at known
  contradiction

/-- The finished plan of a query that starts from a table. -/
def joinPlan (query : Query) (settings : CompilerSettings) (first : Table) : JoinPlan :=
  JoinPlan.run { first, pending := (query.acceptedJoins settings).joins }

theorem first_joinPlan (query : Query) (settings : CompilerSettings) (first : Table) :
    (query.joinPlan settings first).first = first :=
  JoinPlan.first_run _

/-- The clauses of a query are those of its plan, and cross joins of the tables that the plan does
not introduce. -/
theorem joinClauses_eq {query : Query} (settings : CompilerSettings) {first : Table}
    {others : List Table} (tables : query.tables = first :: others) :
    query.joinClauses settings =
      (query.joinPlan settings first).clauses ++
        (query.joinPlan settings first).leftOver others := by
  unfold joinClauses
  rw [tables]
  rfl

theorem compile_sql {query : Query} (settings : CompilerSettings) {first : Table}
    {others : List Table} (tables : query.tables = first :: others) :
    (query.compile settings).sql = (query.statement settings first).text := by
  unfold compile
  rw [tables]

/-- Each of the first clauses stands among the clauses of the plan, at the same place. -/
theorem joinClauses_split_within {query : Query} {settings : CompilerSettings}
    {first : Table} {others : List Table} (tables : query.tables = first :: others)
    {before after : List JoinClause} {clause : JoinClause}
    (split : query.joinClauses settings = before ++ clause :: after)
    (within : before.length < (query.joinPlan settings first).clauses.length) :
    (query.joinPlan settings first).clauses[before.length]? = some clause ∧
      (query.joinPlan settings first).clauses.take before.length = before := by
  rw [joinClauses_eq settings tables] at split
  have here := congrArg (fun clauses => clauses[before.length]?) split
  have earlier := congrArg (List.take before.length) split
  simp only [List.getElem?_append_left within, List.getElem?_append_right (Nat.le_refl _),
    Nat.sub_self, List.getElem?_cons_zero, List.take_left'] at here earlier
  rw [List.take_append_of_le_length (Nat.le_of_lt within)] at earlier
  exact ⟨here, earlier⟩

/-- A clause that is not a cross join stands among the clauses of the plan, at the same place. -/
theorem joinClauses_split {query : Query} {settings : CompilerSettings}
    {first : Table} {others : List Table} (tables : query.tables = first :: others)
    {before after : List JoinClause} {clause : JoinClause}
    (split : query.joinClauses settings = before ++ clause :: after)
    (joined : ∀ table, clause ≠ .cross table) :
    (query.joinPlan settings first).clauses[before.length]? = some clause ∧
      (query.joinPlan settings first).clauses.take before.length = before := by
  by_cases within : before.length < (query.joinPlan settings first).clauses.length
  · exact joinClauses_split_within tables split within
  · rw [joinClauses_eq settings tables] at split
    have here := congrArg (fun clauses => clauses[before.length]?) split
    simp only [List.getElem?_append_right (Nat.le_refl _), Nat.sub_self,
      List.getElem?_cons_zero] at here
    rw [List.getElem?_append_right (Nat.le_of_not_lt within)] at here
    have crossed := List.mem_of_getElem? here
    simp only [JoinPlan.leftOver, List.mem_map] at crossed
    obtain ⟨table, _, rfl⟩ := crossed
    exact absurd rfl (joined table)

/-- What the plan introduced up to a clause of the query are the query's first table and the tables
of the clauses before it. -/
theorem joinPlan_placedBy_iff {query : Query} {settings : CompilerSettings} {first : Table}
    {before : List JoinClause}
    (earlier : (query.joinPlan settings first).clauses.take before.length = before)
    (id : TableId) :
    (query.joinPlan settings first).PlacedBy id before.length ↔
      ∃ table ∈ first :: before.map JoinClause.table, table.id = id := by
  rw [JoinPlan.placedBy_iff, JoinPlan.introduced_take, earlier, first_joinPlan]

end Query

end QueryComposer
