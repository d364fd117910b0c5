import QueryComposer.Proofs.JoinPlan.Scope

set_option autoImplicit false

/-!
What a plan has introduced when nothing that waits is ready. No accepted join leads out of these
tables: a join that does not wait has both its tables among them, and one that waits has neither. A
cross join follows such tables, and a clause with predicates follows a table that its join names.
-/

namespace QueryComposer

namespace JoinPlan

/-! ### Joins that are settled -/

/-- Every join waits, or both its tables were introduced. -/
def Settles (joins : List AcceptedJoin) (plan : JoinPlan) : Prop :=
  ∀ join ∈ joins, join ∈ plan.pending ∨
    (plan.inScope join.left.id = true ∧ plan.inScope join.right.id = true)

theorem inScope_of_place? {plan : JoinPlan} {id : TableId} {place : Nat}
    (placed : plan.place? id = some place) : plan.inScope id = true := by
  unfold inScope
  rw [placed]
  rfl

theorem inScope_iff_placedBy (plan : JoinPlan) (id : TableId) :
    plan.inScope id = true ↔ plan.PlacedBy id plan.clauses.length := by
  constructor
  · intro known
    obtain ⟨place, placed⟩ := Option.isSome_iff_exists.mp known
    exact plan.placedBy_of_place? placed
  · rintro ⟨place, placed, _⟩
    exact inScope_of_place? placed

theorem Advance.inScope {plan next : JoinPlan} (step : plan.Advance next) {id : TableId}
    (known : plan.inScope id = true) : next.inScope id = true := by
  have added (clause : JoinClause) : (plan.addClause clause).inScope id = true := by
    obtain ⟨table, member, same⟩ := (plan.inScope_iff id).mp known
    refine ((plan.addClause clause).inScope_iff id).mpr ⟨table, ?_, same⟩
    rw [introduced_addClause]
    exact List.mem_append_left _ member
  cases step with
  | close before after join left right waiting leftPlaced rightPlaced =>
    rw [JoinPlan.inScope, place?_withPending, place?_addPredicateAt]
    exact known
  | introduceRight before after join left waiting leftPlaced rightAbsent =>
    exact added (.on join.kind join.right [join])
  | introduceLeft before after join right waiting leftAbsent rightPlaced =>
    exact added (.on join.kind.mirrored join.left [join])
  | cross join after waiting blocked => exact added (.cross join.left)

/-- A join that a step takes has both its tables introduced after it. -/
theorem Advance.settles_waiting {plan next : JoinPlan} (step : plan.Advance next)
    {join : AcceptedJoin} (waits : join ∈ plan.pending) :
    join ∈ next.pending ∨
      (next.inScope join.left.id = true ∧ next.inScope join.right.id = true) := by
  -- One join is taken at most, so that each waits on or is the taken one.
  have stays {before after : List AcceptedJoin} {taken : AcceptedJoin}
      (waiting : plan.pending = before ++ taken :: after) :
      join ∈ before ++ after ∨ join = taken := by
    rw [waiting] at waits
    rcases List.mem_append.mp waits with early | here
    · exact Or.inl (List.mem_append_left _ early)
    · rcases List.mem_cons.mp here with same | late
      · exact Or.inr same
      · exact Or.inl (List.mem_append_right _ late)
  have kept {id : TableId} (known : plan.inScope id = true) : next.inScope id = true :=
    step.inScope known
  cases step with
  | close before after taken left right waiting leftPlaced rightPlaced =>
    refine (stays waiting).imp_right ?_
    rintro rfl
    exact ⟨kept (inScope_of_place? leftPlaced), kept (inScope_of_place? rightPlaced)⟩
  | introduceRight before after taken left waiting leftPlaced rightAbsent =>
    refine (stays waiting).imp_right ?_
    rintro rfl
    exact ⟨kept (inScope_of_place? leftPlaced),
      plan.inScope_addClause (.on join.kind join.right [join])⟩
  | introduceLeft before after taken right waiting leftAbsent rightPlaced =>
    refine (stays waiting).imp_right ?_
    rintro rfl
    exact ⟨plan.inScope_addClause (.on join.kind.mirrored join.left [join]),
      kept (inScope_of_place? rightPlaced)⟩
  | cross taken after waiting blocked => exact Or.inl waits

theorem Settles.advance {joins : List AcceptedJoin} {plan next : JoinPlan}
    (step : plan.Advance next) (settles : plan.Settles joins) : next.Settles joins := by
  intro join member
  rcases settles join member with waits | ⟨left, right⟩
  · exact step.settles_waiting waits
  · exact Or.inr ⟨step.inScope left, step.inScope right⟩

theorem settles_run (first : Table) (joins : List AcceptedJoin) :
    (run { first, pending := joins }).Settles joins :=
  run_preserves (Settles joins) (fun _ _ step settles => settles.advance step) _
    (fun _ member => Or.inl member)

/-! ### Cross joins between closed parts -/

/-- No join leads out of the tables that were introduced up to a place. -/
def ClosedAt (joins : List AcceptedJoin) (plan : JoinPlan) (place : Nat) : Prop :=
  ∀ join ∈ joins, plan.PlacedBy join.left.id place ↔ plan.PlacedBy join.right.id place

/-- What was introduced before a cross join is closed. -/
def CrossClosed (joins : List AcceptedJoin) (plan : JoinPlan) : Prop :=
  ∀ (index : Nat) (table : Table), plan.clauses[index]? = some (.cross table) →
    plan.ClosedAt joins index

/-- While nothing that waits is ready, the introduced tables are closed: a join that does not wait
has both tables among them, and one that waits has none. -/
theorem Settles.closedAt_of_blocked {joins : List AcceptedJoin} {plan : JoinPlan}
    (settles : plan.Settles joins)
    (blocked : ∀ other ∈ plan.pending,
      plan.place? other.left.id = none ∧ plan.place? other.right.id = none) :
    plan.ClosedAt joins plan.clauses.length := by
  intro join member
  rw [← inScope_iff_placedBy, ← inScope_iff_placedBy]
  rcases settles join member with waits | ⟨left, right⟩
  · obtain ⟨left, right⟩ := blocked join waits
    rw [(plan.place?_eq_none_iff _).mp left, (plan.place?_eq_none_iff _).mp right]
  · rw [left, right]

theorem ClosedAt.addClause {joins : List AcceptedJoin} {plan : JoinPlan} {place : Nat}
    (closed : plan.ClosedAt joins place) (before : place ≤ plan.clauses.length)
    (clause : JoinClause) (pending : List AcceptedJoin) :
    ClosedAt joins { plan.addClause clause with pending } place := by
  have same (id : TableId) :
      PlacedBy { plan.addClause clause with pending } id place ↔ plan.PlacedBy id place :=
    (placedBy_withPending _ pending id place).trans (placedBy_addClause plan clause id before)
  intro join member
  exact (same _).trans ((closed join member).trans (same _).symm)

private theorem CrossClosed.addOn {joins : List AcceptedJoin} {plan : JoinPlan}
    (closed : plan.CrossClosed joins) (kind : JoinKind) (table : Table)
    (predicates pending : List AcceptedJoin) :
    CrossClosed joins { plan.addClause (.on kind table predicates) with pending } := by
  intro index crossed found
  rcases clause_of_addClause plan _ index found with old | ⟨_, new⟩
  · have within := (List.getElem?_eq_some_iff.mp old).1
    exact (closed index crossed old).addClause (Nat.le_of_lt within) _ pending
  · contradiction

theorem CrossClosed.advance {joins : List AcceptedJoin} {plan next : JoinPlan}
    (step : plan.Advance next) (settles : plan.Settles joins)
    (closed : plan.CrossClosed joins) : next.CrossClosed joins := by
  cases step with
  | close before after join left right waiting leftPlaced rightPlaced =>
    intro index crossed found
    have old := cross_of_addPredicateAt plan _ index join found
    have same (id : TableId) :
        PlacedBy { plan.addPredicateAt (max left right) join with pending := before ++ after }
          id index ↔ plan.PlacedBy id index :=
      (placedBy_withPending _ _ id index).trans (placedBy_addPredicateAt plan _ join id index)
    intro other member
    exact (same _).trans ((closed index crossed old other member).trans (same _).symm)
  | introduceRight before after join left waiting leftPlaced rightAbsent =>
    exact closed.addOn join.kind join.right [join] (before ++ after)
  | introduceLeft before after join right waiting leftAbsent rightPlaced =>
    exact closed.addOn join.kind.mirrored join.left [join] (before ++ after)
  | cross join after waiting blocked =>
    intro index crossed found
    -- The places of earlier cross joins stay closed; the new one is, since nothing was ready.
    rcases clause_of_addClause plan _ index found with old | ⟨rfl, _⟩
    · have within := (List.getElem?_eq_some_iff.mp old).1
      exact (closed index crossed old).addClause (Nat.le_of_lt within) _ plan.pending
    · exact (settles.closedAt_of_blocked blocked).addClause (Nat.le_refl _) _ plan.pending

theorem crossClosed_run (first : Table) (joins : List AcceptedJoin) :
    (run { first, pending := joins }).CrossClosed joins := by
  have start : Settles joins { first, pending := joins } ∧
      CrossClosed joins { first, pending := joins } := by
    refine ⟨fun _ member => Or.inl member, ?_⟩
    intro index table found
    simp at found
  exact (run_preserves (fun plan => plan.Settles joins ∧ plan.CrossClosed joins)
    (fun plan next step ⟨settles, closed⟩ => ⟨settles.advance step, closed.advance step settles⟩)
    _ start).2

end JoinPlan

namespace Query

/-! ### The clauses of a query -/

/-- In a finished plan the joins are between introduced tables. -/
theorem joinPlan_settled {query : Query} {settings : CompilerSettings} {first : Table}
    {join : AcceptedJoin} (member : join ∈ (query.acceptedJoins settings).joins) :
    (query.joinPlan settings first).inScope join.left.id = true ∧
      (query.joinPlan settings first).inScope join.right.id = true := by
  rcases JoinPlan.settles_run first _ join member with waits | settled
  · rw [JoinPlan.pending_run] at waits
    contradiction
  · exact settled

/-- No accepted join leads out of what was introduced before a cross join. -/
theorem joinClauses_cross_closed {query : Query} {settings : CompilerSettings} {first : Table}
    {others : List Table} (tables : query.tables = first :: others)
    {before after : List JoinClause} {crossed : Table}
    (split : query.joinClauses settings = before ++ .cross crossed :: after)
    {join : AcceptedJoin} (member : join ∈ (query.acceptedJoins settings).joins) :
    join.left.id ∈ (first :: before.map JoinClause.table).map Table.id ↔
      join.right.id ∈ (first :: before.map JoinClause.table).map Table.id := by
  by_cases within : before.length < (query.joinPlan settings first).clauses.length
  · obtain ⟨here, earlier⟩ := joinClauses_split_within tables split within
    have placed (id : TableId) :
        id ∈ (first :: before.map JoinClause.table).map Table.id ↔
          (query.joinPlan settings first).PlacedBy id before.length := by
      rw [joinPlan_placedBy_iff earlier]
      exact List.mem_map
    rw [placed, placed]
    exact JoinPlan.crossClosed_run first _ _ _ here join member
  · -- The cross join stands behind the plan, which has introduced both tables of every join.
    have planned : (query.joinPlan settings first).clauses <+: before := by
      have start : before <+: (query.joinPlan settings first).clauses ++
          (query.joinPlan settings first).leftOver others := by
        rw [← joinClauses_eq settings tables, split]
        exact List.prefix_append before _
      exact List.prefix_of_prefix_length_le (List.prefix_append _ _) start (by omega)
    obtain ⟨behind, rfl⟩ := planned
    have known {id : TableId} (placed : (query.joinPlan settings first).inScope id = true) :
        id ∈ (first :: ((query.joinPlan settings first).clauses ++ behind).map
          JoinClause.table).map Table.id := by
      obtain ⟨table, shown, same⟩ := (JoinPlan.inScope_iff _ id).mp placed
      refine List.mem_map.mpr ⟨table, ?_, same⟩
      rw [JoinPlan.introduced, first_joinPlan] at shown
      rw [List.map_append]
      exact List.mem_append_left _ shown
    obtain ⟨leftKnown, rightKnown⟩ :
        (query.joinPlan settings first).inScope join.left.id = true ∧
          (query.joinPlan settings first).inScope join.right.id = true := joinPlan_settled member
    exact iff_of_true (known leftKnown) (known rightKnown)

/-- A clause with predicates joins its table to one that was introduced before it. -/
theorem joinClauses_on_connects {query : Query} {settings : CompilerSettings} {first : Table}
    {others : List Table} (tables : query.tables = first :: others)
    {before after : List JoinClause} {kind : JoinKind} {table : Table} {held : List AcceptedJoin}
    (split : query.joinClauses settings = before ++ .on kind table held :: after) :
    ∃ known ∈ first :: before.map JoinClause.table,
      ∃ join ∈ (query.acceptedJoins settings).joins, join.Connects table.id known.id := by
  obtain ⟨here, earlier⟩ := joinClauses_split tables split (fun crossed same => by contradiction)
  obtain ⟨opener, rest, rfl, opens⟩ :=
    JoinPlan.opened_run first (query.acceptedJoins settings).joins _ _ _ _ here
  have listed : .on kind table (opener :: rest) ∈ query.joinClauses settings := by
    rw [split]
    exact List.mem_append_right _ List.mem_cons_self
  have accepted : opener ∈ (query.acceptedJoins settings).joins :=
    predicate_mem_of_mem_joinClauses listed List.mem_cons_self
  rcases opens with ⟨rfl, _, placed⟩ | ⟨rfl, _, placed⟩
  · obtain ⟨known, shown, same⟩ := (joinPlan_placedBy_iff earlier _).mp placed
    exact ⟨known, shown, opener, accepted, Or.inr ⟨rfl, same.symm⟩⟩
  · obtain ⟨known, shown, same⟩ := (joinPlan_placedBy_iff earlier _).mp placed
    exact ⟨known, shown, opener, accepted, Or.inl ⟨rfl, same.symm⟩⟩

end Query

end QueryComposer
