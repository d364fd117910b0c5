import QueryComposer.Proofs.JoinPlan.Accepted

set_option autoImplicit false

/-!
Where the predicates of joins end up. A table that was cross joined stands before every other table
that a waiting join connects with it, so the later of two introduced tables was introduced by a
clause with predicates, and the predicate of a join between them has a place. In the finished plan
the predicates are those of the accepted joins, each once, and every clause with predicates has the
kind of the join that opened it, seen from the side of the table it introduces.
-/

namespace QueryComposer

/-- The join is between two tables, named in either order. -/
def AcceptedJoin.Connects (join : AcceptedJoin) (one other : TableId) : Prop :=
  (join.left.id = one ∧ join.right.id = other) ∨ (join.right.id = one ∧ join.left.id = other)

/-- The clause introduces a table by the join, whose other table is known already: the right table
under the join's kind, or the left table under the kind seen from the other side. -/
def AcceptedJoin.Opens (join : AcceptedJoin) (kind : JoinKind) (table : Table)
    (known : TableId → Prop) : Prop :=
  (table = join.right ∧ kind = join.kind ∧ known join.left.id) ∨
    (table = join.left ∧ kind = join.kind.mirrored ∧ known join.right.id)

theorem AcceptedJoin.Opens.mono {join : AcceptedJoin} {kind : JoinKind} {table : Table}
    {known known' : TableId → Prop} (more : ∀ id, known id → known' id)
    (opens : join.Opens kind table known) : join.Opens kind table known' := by
  rcases opens with ⟨sameTable, sameKind, earlier⟩ | ⟨sameTable, sameKind, earlier⟩
  · exact Or.inl ⟨sameTable, sameKind, more _ earlier⟩
  · exact Or.inr ⟨sameTable, sameKind, more _ earlier⟩

namespace JoinPlan

/-! ### Cross joined tables come first -/

/-- No waiting join connects a cross joined table with one that was introduced before it. -/
def CrossFirst (plan : JoinPlan) : Prop :=
  ∀ join ∈ plan.pending, ∀ one other, join.Connects one other →
    ∀ index table, plan.clauses[index]? = some (.cross table) → table.id = one →
      ¬ plan.PlacedBy other index

theorem CrossFirst.initial (first : Table) (joins : List AcceptedJoin) :
    CrossFirst { first, pending := joins } := by
  intro join _ one other _ index table found
  simp at found

private theorem CrossFirst.addOn {plan : JoinPlan} (crossFirst : plan.CrossFirst)
    {pending : List AcceptedJoin} (fewer : ∀ join ∈ pending, join ∈ plan.pending)
    (kind : JoinKind) (table : Table) (predicates : List AcceptedJoin) :
    CrossFirst { plan.addClause (.on kind table predicates) with pending } := by
  intro join member one other connects index crossed found same placed
  rcases clause_of_addClause plan _ index found with old | ⟨_, new⟩
  · have within := (List.getElem?_eq_some_iff.mp old).1
    rw [placedBy_withPending, placedBy_addClause plan _ other (by omega)] at placed
    exact crossFirst join (fewer join member) one other connects index crossed old same placed
  · contradiction

theorem CrossFirst.advance {plan next : JoinPlan} (step : plan.Advance next)
    (crossFirst : plan.CrossFirst) : next.CrossFirst := by
  have fewer : ∀ join ∈ next.pending, join ∈ plan.pending := fun _ => step.mem_pending
  cases step with
  | close before after join left right waiting leftPlaced rightPlaced =>
    intro other member one further connects index crossed found same placed
    rw [placedBy_withPending, placedBy_addPredicateAt] at placed
    have old := cross_of_addPredicateAt plan _ index join found
    exact crossFirst other (fewer other member) one further connects index crossed old same placed
  | introduceRight before after join left waiting leftPlaced rightAbsent =>
    exact crossFirst.addOn fewer join.kind join.right [join]
  | introduceLeft before after join right waiting leftAbsent rightPlaced =>
    exact crossFirst.addOn fewer join.kind.mirrored join.left [join]
  | cross join after waiting blocked =>
    -- Nothing that waits touches an introduced table, so nothing connects with one.
    intro other waits one further connects index crossed found same placed
    have absent : plan.place? further = none := by
      rcases connects with ⟨_, rfl⟩ | ⟨_, rfl⟩
      · exact (blocked other waits).2
      · exact (blocked other waits).1
    have early : index ≤ plan.clauses.length := by
      have within := (List.getElem?_eq_some_iff.mp found).1
      simp only [addClause, List.length_append, List.length_cons, List.length_nil] at within
      omega
    rw [placedBy_addClause plan _ further early] at placed
    obtain ⟨place, present, _⟩ := placed
    rw [absent] at present
    contradiction

/-- The later of two tables that a waiting join connects stands in a clause with predicates. -/
theorem CrossFirst.later_on {plan : JoinPlan} (crossFirst : plan.CrossFirst)
    {join : AcceptedJoin} (waits : join ∈ plan.pending) {one other : TableId}
    (connects : join.Connects one other) {later earlier : Nat}
    (onePlaced : plan.place? one = some later) (otherPlaced : plan.place? other = some earlier)
    (order : earlier < later) :
    ∃ kind table predicates, plan.clauses[later - 1]? = some (.on kind table predicates) := by
  obtain ⟨table, at_, same⟩ := plan.introduced_at_place onePlaced
  obtain ⟨index, rfl⟩ : ∃ index, later = index + 1 := ⟨later - 1, by omega⟩
  simp only [introduced, List.getElem?_cons_succ, List.getElem?_map, Option.map_eq_some_iff] at at_
  obtain ⟨clause, found, rfl⟩ := at_
  cases clause with
  | on kind table predicates => exact ⟨kind, table, predicates, found⟩
  | cross table =>
    have early : plan.PlacedBy other index := ⟨earlier, otherPlaced, by omega⟩
    exact absurd early (crossFirst join waits one other connects index table found same)

/-- Wherever a step puts the predicate of a join between introduced tables, there are predicates. -/
theorem CrossFirst.close_on {plan : JoinPlan} (crossFirst : plan.CrossFirst)
    {join : AcceptedJoin} (waits : join ∈ plan.pending) {left right : Nat}
    (leftPlaced : plan.place? join.left.id = some left)
    (rightPlaced : plan.place? join.right.id = some right) :
    ∃ kind table predicates,
      plan.clauses[max left right - 1]? = some (.on kind table predicates) := by
  rcases Nat.lt_trichotomy left right with before | same | after
  · rw [Nat.max_eq_right (Nat.le_of_lt before)]
    exact crossFirst.later_on waits (Or.inr ⟨rfl, rfl⟩) rightPlaced leftPlaced before
  · rw [← same] at rightPlaced
    exact absurd (plan.place?_inj leftPlaced rightPlaced) join.distinct
  · rw [Nat.max_eq_left (Nat.le_of_lt after)]
    exact crossFirst.later_on waits (Or.inl ⟨rfl, rfl⟩) leftPlaced rightPlaced after

/-! ### No predicate is lost -/

/-- The predicates of all clauses in order. -/
def predicates (plan : JoinPlan) : List AcceptedJoin :=
  plan.clauses.flatMap JoinClause.predicates

theorem predicates_addClause (plan : JoinPlan) (clause : JoinClause) :
    (plan.addClause clause).predicates = plan.predicates ++ clause.predicates := by
  simp [predicates, addClause]

theorem predicates_addPredicateAt (plan : JoinPlan) {place : Nat} (join : AcceptedJoin)
    {kind : JoinKind} {table : Table} {held : List AcceptedJoin}
    (found : plan.clauses[place - 1]? = some (.on kind table held)) :
    (plan.addPredicateAt place join).predicates.Perm (join :: plan.predicates) := by
  obtain ⟨within, same⟩ := List.getElem?_eq_some_iff.mp found
  obtain ⟨before, clause, after, split, size, changed⟩ :=
    List.exists_of_modify (JoinClause.addPredicate join) within
  have here : clause = .on kind table held := by
    rw [split, ← size] at found
    simpa using found
  subst here
  unfold predicates addPredicateAt
  rw [changed, split]
  simp only [List.flatMap_append, List.flatMap_cons, JoinClause.addPredicate,
    JoinClause.predicates, List.append_assoc, List.singleton_append]
  calc before.flatMap JoinClause.predicates ++ (held ++ join :: after.flatMap JoinClause.predicates)
      = (before.flatMap JoinClause.predicates ++ held) ++
          join :: after.flatMap JoinClause.predicates := (List.append_assoc ..).symm
    List.Perm _ (join :: ((before.flatMap JoinClause.predicates ++ held) ++
          after.flatMap JoinClause.predicates)) := List.perm_middle
    _ = join :: (before.flatMap JoinClause.predicates ++
          (held ++ after.flatMap JoinClause.predicates)) := by rw [List.append_assoc]

/-- The predicates of the clauses and of the joins that wait are those of the given joins. -/
def Accounts (joins : List AcceptedJoin) (plan : JoinPlan) : Prop :=
  (plan.predicates ++ plan.pending).Perm joins

private theorem perm_taken {held before after : List AcceptedJoin} {join : AcceptedJoin} :
    (held ++ [join] ++ (before ++ after)).Perm (held ++ (before ++ join :: after)) := by
  rw [List.append_assoc, List.singleton_append]
  exact List.Perm.append_left held List.perm_middle.symm

theorem Accounts.advance {joins : List AcceptedJoin} {plan next : JoinPlan}
    (step : plan.Advance next) (crossFirst : plan.CrossFirst) (accounts : plan.Accounts joins) :
    next.Accounts joins := by
  unfold Accounts at accounts ⊢
  cases step with
  | close before after join left right waiting leftPlaced rightPlaced =>
    have waits : join ∈ plan.pending := by simp [waiting]
    obtain ⟨kind, table, held, found⟩ := crossFirst.close_on waits leftPlaced rightPlaced
    rw [waiting] at accounts
    refine List.Perm.trans ?_ accounts
    refine List.Perm.trans (List.Perm.append_right _
      (plan.predicates_addPredicateAt join found)) ?_
    refine List.Perm.trans ?_ perm_taken
    rw [List.append_assoc]
    exact List.perm_middle.symm
  | introduceRight before after join left waiting leftPlaced rightAbsent =>
    rw [waiting] at accounts
    refine List.Perm.trans ?_ accounts
    change ((plan.addClause (.on join.kind join.right [join])).predicates ++ _).Perm _
    rw [predicates_addClause]
    exact perm_taken
  | introduceLeft before after join right waiting leftAbsent rightPlaced =>
    rw [waiting] at accounts
    refine List.Perm.trans ?_ accounts
    change ((plan.addClause (.on join.kind.mirrored join.left [join])).predicates ++ _).Perm _
    rw [predicates_addClause]
    exact perm_taken
  | cross join after waiting blocked =>
    change ((plan.addClause (.cross join.left)).predicates ++ plan.pending).Perm joins
    rw [predicates_addClause]
    simpa [JoinClause.predicates] using accounts

/-- The finished plan has the predicate of every join it started with, once. -/
theorem predicates_run (first : Table) (joins : List AcceptedJoin) :
    (run { first, pending := joins }).predicates.Perm joins := by
  have start : CrossFirst { first, pending := joins } ∧
      Accounts joins { first, pending := joins } :=
    ⟨CrossFirst.initial first joins, List.Perm.refl joins⟩
  have done := (run_preserves (fun plan => plan.CrossFirst ∧ plan.Accounts joins)
    (fun plan next step ⟨crossFirst, accounts⟩ =>
      ⟨crossFirst.advance step, accounts.advance step crossFirst⟩) _ start).2
  unfold Accounts at done
  rw [pending_run, List.append_nil] at done
  exact done

/-! ### How clauses are opened -/

/-- Every clause with predicates was opened by its first join. -/
def Opened (plan : JoinPlan) : Prop :=
  ∀ (index : Nat) (kind : JoinKind) (table : Table) (held : List AcceptedJoin),
    plan.clauses[index]? = some (.on kind table held) →
    ∃ opener rest, held = opener :: rest ∧
      opener.Opens kind table (fun id => plan.PlacedBy id index)

private theorem Opened.addClause {plan : JoinPlan} (opened : plan.Opened) (added : JoinClause)
    (pending : List AcceptedJoin)
    (new : ∀ kind table held, added = .on kind table held →
      ∃ opener rest, held = opener :: rest ∧
        opener.Opens kind table (fun id => plan.PlacedBy id plan.clauses.length)) :
    Opened { plan.addClause added with pending } := by
  intro index kind table held found
  have known : ∀ id, plan.PlacedBy id index → (plan.addClause added).PlacedBy id index :=
    fun id placed => placed.addClause added
  rcases clause_of_addClause plan added index found with old | ⟨rfl, same⟩
  · obtain ⟨opener, rest, split, opens⟩ := opened index kind table held old
    exact ⟨opener, rest, split, opens.mono known⟩
  · obtain ⟨opener, rest, split, opens⟩ := new kind table held same.symm
    exact ⟨opener, rest, split, opens.mono known⟩

theorem Opened.advance {plan next : JoinPlan} (step : plan.Advance next)
    (opened : plan.Opened) : next.Opened := by
  cases step with
  | close before after join left right waiting leftPlaced rightPlaced =>
    intro index kind table held found
    have known : ∀ id, plan.PlacedBy id index →
        (plan.addPredicateAt (max left right) join).PlacedBy id index :=
      fun id => (placedBy_addPredicateAt plan _ join id index).mpr
    obtain ⟨earlier, old, unchanged | ⟨_, changed⟩⟩ :=
      clause_of_addPredicateAt plan _ index join found
    · subst unchanged
      obtain ⟨opener, rest, split, opens⟩ := opened index kind table held old
      exact ⟨opener, rest, split, opens.mono known⟩
    · cases earlier with
      | cross table => contradiction
      | on kind table before =>
        cases changed
        obtain ⟨opener, rest, rfl, opens⟩ := opened index kind table before old
        exact ⟨opener, rest ++ [join], rfl, opens.mono known⟩
  | introduceRight before after join left waiting leftPlaced rightAbsent =>
    refine opened.addClause _ _ ?_
    intro kind table held same
    cases same
    exact ⟨join, [], rfl, Or.inl ⟨rfl, rfl, plan.placedBy_of_place? leftPlaced⟩⟩
  | introduceLeft before after join right waiting leftAbsent rightPlaced =>
    refine opened.addClause _ _ ?_
    intro kind table held same
    cases same
    exact ⟨join, [], rfl, Or.inr ⟨rfl, rfl, plan.placedBy_of_place? rightPlaced⟩⟩
  | cross join after waiting blocked =>
    refine opened.addClause _ _ ?_
    intro kind table held same
    contradiction

theorem opened_run (first : Table) (joins : List AcceptedJoin) :
    (run { first, pending := joins }).Opened := by
  refine run_preserves Opened (fun plan next step opened => opened.advance step) _ ?_
  intro index kind table held found
  simp at found

end JoinPlan

/-! ### Clauses of a query -/

namespace Query

theorem flatMap_predicates_leftOver (plan : JoinPlan) (others : List Table) :
    (plan.leftOver others).flatMap JoinClause.predicates = [] := by
  unfold JoinPlan.leftOver
  rw [List.flatMap_map]
  exact List.flatMap_eq_nil_iff.mpr (fun table _ => rfl)

/-- The predicates in the clauses of a query are those of its accepted joins, each once, and every
clause that has predicates was opened by its first join, from a table that the query introduced
before it. -/
theorem joinClauses_keep_predicates (query : Query) (settings : CompilerSettings) :
    (∀ first others, query.tables = first :: others →
      (query.compile settings).sql = (query.statement settings first).text ∧
        (query.statement settings first).joins = query.joinClauses settings) ∧
    ((query.joinClauses settings).flatMap JoinClause.predicates).Perm
      (query.acceptedJoins settings).joins ∧
    ∀ before kind table held after,
      query.joinClauses settings = before ++ .on kind table held :: after →
      ∃ opener rest, held = opener :: rest ∧
        opener.Opens kind table (fun id =>
          ∃ known ∈ query.tables.take 1 ++ before.map JoinClause.table, known.id = id) := by
  refine ⟨fun first others tables => ⟨compile_sql settings tables, rfl⟩, ?_⟩
  cases tables : query.tables with
  | nil =>
    have clauses : query.joinClauses settings = [] := by
      unfold joinClauses
      rw [tables]
    rw [acceptedJoins_eq_nil settings tables, clauses]
    refine ⟨List.Perm.refl [], ?_⟩
    intro before kind table held after split
    simp at split
  | cons first others =>
    constructor
    · rw [joinClauses_eq settings tables, List.flatMap_append, flatMap_predicates_leftOver,
        List.append_nil]
      exact JoinPlan.predicates_run first (query.acceptedJoins settings).joins
    · intro before kind table held after split
      obtain ⟨here, earlier⟩ :=
        joinClauses_split tables split (fun crossed same => by contradiction)
      obtain ⟨opener, rest, rfl, opens⟩ :=
        JoinPlan.opened_run first (query.acceptedJoins settings).joins _ _ _ _ here
      refine ⟨opener, rest, rfl, opens.mono ?_⟩
      intro id placed
      exact (joinPlan_placedBy_iff earlier id).mp placed

end Query

end QueryComposer
