import QueryComposer.Sql.JoinPlan

set_option autoImplicit false

/-!
What a step of a join plan can do, where it leaves the tables that were introduced before, and how a
property that every step keeps is carried to the finished plan.
-/

namespace QueryComposer.JoinPlan

/-! ### Introduced tables -/

/-- The tables in the order in which the plan introduces them. -/
def introduced (plan : JoinPlan) : List Table :=
  plan.first :: plan.clauses.map JoinClause.table

/-- The place of a table is its place among the introduced ones. -/
theorem place?_eq_findIdx? (plan : JoinPlan) (id : TableId) :
    plan.place? id = plan.introduced.findIdx? (fun table => table.id = id) := by
  unfold place? introduced
  rw [List.findIdx?_cons, List.findIdx?_map]
  simp only [decide_eq_true_eq]
  rfl

theorem inScope_iff (plan : JoinPlan) (id : TableId) :
    plan.inScope id = true ↔ ∃ table ∈ plan.introduced, table.id = id := by
  unfold inScope
  rw [place?_eq_findIdx?, List.findIdx?_isSome, List.any_eq_true]
  simp only [decide_eq_true_eq]

theorem place?_eq_none_iff (plan : JoinPlan) (id : TableId) :
    plan.place? id = none ↔ plan.inScope id = false := by
  unfold inScope
  cases plan.place? id <;> simp

theorem place?_lt (plan : JoinPlan) {id : TableId} {place : Nat}
    (placed : plan.place? id = some place) : place < plan.clauses.length + 1 := by
  rw [place?_eq_findIdx?] at placed
  have bounded := (List.findIdx?_eq_some_iff_getElem.mp placed).1
  simpa [introduced] using bounded

/-- The table at the place of an identity has that identity. -/
theorem introduced_at_place (plan : JoinPlan) {id : TableId} {place : Nat}
    (placed : plan.place? id = some place) :
    ∃ table, plan.introduced[place]? = some table ∧ table.id = id := by
  rw [place?_eq_findIdx?] at placed
  obtain ⟨within, same, _⟩ := List.findIdx?_eq_some_iff_getElem.mp placed
  exact ⟨plan.introduced[place], List.getElem?_eq_getElem within, by simpa using same⟩

/-- Two identities with one place are the same. -/
theorem place?_inj (plan : JoinPlan) {left right : TableId} {place : Nat}
    (leftPlaced : plan.place? left = some place) (rightPlaced : plan.place? right = some place) :
    left = right := by
  obtain ⟨_, leftAt, rfl⟩ := plan.introduced_at_place leftPlaced
  obtain ⟨_, rightAt, rfl⟩ := plan.introduced_at_place rightPlaced
  rw [leftAt] at rightAt
  cases rightAt
  rfl

theorem introduced_take (plan : JoinPlan) (count : Nat) :
    plan.introduced.take (count + 1) =
      plan.first :: (plan.clauses.take count).map JoinClause.table := by
  simp [introduced, List.map_take]

/-! ### Changes of the clauses -/

@[simp] theorem introduced_withPending (plan : JoinPlan) (pending : List AcceptedJoin) :
    introduced { plan with pending } = plan.introduced := rfl

@[simp] theorem place?_withPending (plan : JoinPlan) (pending : List AcceptedJoin)
    (id : TableId) : place? { plan with pending } id = plan.place? id := rfl

@[simp] theorem introduced_addClause (plan : JoinPlan) (clause : JoinClause) :
    (plan.addClause clause).introduced = plan.introduced ++ [clause.table] := by
  simp [introduced, addClause]

@[simp] theorem table_addPredicate (join : AcceptedJoin) (clause : JoinClause) :
    (clause.addPredicate join).table = clause.table := by
  cases clause <;> rfl

@[simp] theorem introduced_addPredicateAt (plan : JoinPlan) (place : Nat) (join : AcceptedJoin) :
    (plan.addPredicateAt place join).introduced = plan.introduced := by
  unfold introduced addPredicateAt
  congr 1
  apply List.ext_getElem?
  intro index
  simp only [List.getElem?_map, List.getElem?_modify]
  split
  · cases plan.clauses[index]? <;> simp
  · simp

theorem place?_addPredicateAt (plan : JoinPlan) (place : Nat) (join : AcceptedJoin)
    (id : TableId) : (plan.addPredicateAt place join).place? id = plan.place? id := by
  rw [place?_eq_findIdx?, place?_eq_findIdx?, introduced_addPredicateAt]

/-- A table keeps its place when a clause is added. -/
theorem place?_addClause_of_some (plan : JoinPlan) (clause : JoinClause) {id : TableId}
    {place : Nat} (placed : plan.place? id = some place) :
    (plan.addClause clause).place? id = some place := by
  rw [place?_eq_findIdx?] at placed ⊢
  rw [introduced_addClause, List.findIdx?_append, placed]
  rfl

/-- A table that is new has the place after all others. -/
theorem place?_addClause_of_none (plan : JoinPlan) (clause : JoinClause) {id : TableId}
    (absent : plan.place? id = none) :
    (plan.addClause clause).place? id =
      if clause.table.id = id then some (plan.clauses.length + 1) else none := by
  rw [place?_eq_findIdx?] at absent ⊢
  rw [introduced_addClause, List.findIdx?_append, absent]
  by_cases same : clause.table.id = id
  · simp [same, introduced]
  · simp [same]

/-- The table with an identity was introduced, and no later than at a place. -/
def PlacedBy (plan : JoinPlan) (id : TableId) (place : Nat) : Prop :=
  ∃ found, plan.place? id = some found ∧ found ≤ place

theorem placedBy_withPending (plan : JoinPlan) (pending : List AcceptedJoin) (id : TableId)
    (place : Nat) : PlacedBy { plan with pending } id place ↔ plan.PlacedBy id place := by
  unfold PlacedBy
  rw [place?_withPending]

theorem placedBy_addPredicateAt (plan : JoinPlan) (at_ : Nat) (join : AcceptedJoin)
    (id : TableId) (place : Nat) :
    (plan.addPredicateAt at_ join).PlacedBy id place ↔ plan.PlacedBy id place := by
  unfold PlacedBy
  rw [place?_addPredicateAt]

/-- Among the places that there were, a new clause changes nothing. -/
theorem placedBy_addClause (plan : JoinPlan) (clause : JoinClause) (id : TableId) {place : Nat}
    (before : place ≤ plan.clauses.length) :
    (plan.addClause clause).PlacedBy id place ↔ plan.PlacedBy id place := by
  unfold PlacedBy
  cases placed : plan.place? id with
  | some found => rw [place?_addClause_of_some plan clause placed]
  | none =>
    rw [place?_addClause_of_none plan clause placed]
    constructor
    · rintro ⟨found, new, bounded⟩
      split at new
      · cases new
        omega
      · contradiction
    · rintro ⟨found, old, _⟩
      contradiction

theorem PlacedBy.addClause {plan : JoinPlan} {id : TableId} {place : Nat}
    (placed : plan.PlacedBy id place) (clause : JoinClause) :
    (plan.addClause clause).PlacedBy id place := by
  obtain ⟨found, old, bounded⟩ := placed
  exact ⟨found, place?_addClause_of_some plan clause old, bounded⟩

theorem placedBy_added (plan : JoinPlan) (clause : JoinClause) :
    (plan.addClause clause).PlacedBy clause.table.id (plan.clauses.length + 1) := by
  cases placed : plan.place? clause.table.id with
  | some found =>
    have bounded := plan.place?_lt placed
    exact ⟨found, place?_addClause_of_some plan clause placed, by omega⟩
  | none =>
    refine ⟨plan.clauses.length + 1, ?_, Nat.le_refl _⟩
    rw [place?_addClause_of_none plan clause placed, if_pos rfl]

theorem PlacedBy.mono {plan : JoinPlan} {id : TableId} {place later : Nat}
    (placed : plan.PlacedBy id place) (order : place ≤ later) : plan.PlacedBy id later := by
  obtain ⟨found, at_, bounded⟩ := placed
  exact ⟨found, at_, Nat.le_trans bounded order⟩

theorem placedBy_of_place? (plan : JoinPlan) {id : TableId} {place : Nat}
    (placed : plan.place? id = some place) : plan.PlacedBy id plan.clauses.length := by
  have bounded := plan.place?_lt placed
  exact ⟨place, placed, by omega⟩

/-- A table was introduced by a place when it is among the tables up to there. -/
theorem placedBy_iff (plan : JoinPlan) (id : TableId) (place : Nat) :
    plan.PlacedBy id place ↔ ∃ table ∈ plan.introduced.take (place + 1), table.id = id := by
  constructor
  · rintro ⟨found, placed, bounded⟩
    obtain ⟨table, here, same⟩ := plan.introduced_at_place placed
    refine ⟨table, ?_, same⟩
    apply List.mem_of_getElem? (i := found)
    rw [List.getElem?_take_of_lt (by omega)]
    exact here
  · rintro ⟨table, member, same⟩
    unfold PlacedBy
    rw [place?_eq_findIdx?]
    have early :
        ((plan.introduced.take (place + 1)).findIdx? (fun table => table.id = id)).isSome := by
      rw [List.findIdx?_isSome, List.any_eq_true]
      exact ⟨table, member, by simpa using same⟩
    obtain ⟨found, at_⟩ := Option.isSome_iff_exists.mp early
    have bounded := (List.findIdx?_eq_some_iff_getElem.mp at_).1
    rw [List.length_take] at bounded
    refine ⟨found, ?_, by omega⟩
    rw [← List.take_append_drop (place + 1) plan.introduced, List.findIdx?_append, at_]
    rfl

/-! ### Clauses after a change -/

theorem clause_of_addPredicateAt (plan : JoinPlan) (place index : Nat) (join : AcceptedJoin)
    {clause : JoinClause}
    (found : (plan.addPredicateAt place join).clauses[index]? = some clause) :
    ∃ earlier, plan.clauses[index]? = some earlier ∧
      (clause = earlier ∨ place - 1 = index ∧ clause = earlier.addPredicate join) := by
  simp only [addPredicateAt, List.getElem?_modify, Option.map_eq_map] at found
  cases present : plan.clauses[index]? with
  | none =>
    rw [present] at found
    contradiction
  | some earlier =>
    refine ⟨earlier, rfl, ?_⟩
    rw [present] at found
    simp only [Option.map_some, Option.some.injEq] at found
    split at found
    · rename_i here
      exact Or.inr ⟨here, found.symm⟩
    · exact Or.inl found.symm

/-- A cross join has been one before predicates were added. -/
theorem cross_of_addPredicateAt (plan : JoinPlan) (place index : Nat) (join : AcceptedJoin)
    {table : Table}
    (found : (plan.addPredicateAt place join).clauses[index]? = some (.cross table)) :
    plan.clauses[index]? = some (.cross table) := by
  obtain ⟨earlier, old, unchanged | ⟨_, changed⟩⟩ :=
    clause_of_addPredicateAt plan place index join found
  · rwa [unchanged]
  · cases earlier with
    | on kind table predicates => contradiction
    | cross crossed => rwa [changed]

theorem clause_of_addClause (plan : JoinPlan) (added : JoinClause) (index : Nat)
    {clause : JoinClause} (found : (plan.addClause added).clauses[index]? = some clause) :
    plan.clauses[index]? = some clause ∨ index = plan.clauses.length ∧ clause = added := by
  simp only [addClause, List.getElem?_append] at found
  split at found
  · exact Or.inl found
  · rename_i beyond
    obtain ⟨within, same⟩ := List.getElem?_eq_some_iff.mp found
    simp only [List.length_cons, List.length_nil] at within
    have last : index - plan.clauses.length = 0 := by omega
    refine Or.inr ⟨by omega, ?_⟩
    rw [← same]
    simp [last]

theorem predicates_addPredicate {join other : AcceptedJoin} {clause : JoinClause}
    (member : other ∈ (clause.addPredicate join).predicates) :
    other ∈ clause.predicates ∨ other = join := by
  cases clause with
  | on kind table held =>
    rcases List.mem_append.mp member with old | new
    · exact Or.inl old
    · exact Or.inr (List.mem_singleton.mp new)
  | cross table => contradiction

/-! ### Steps -/

/-- What a step can do: put the predicate of a join between two introduced tables into the later of
their clauses, introduce the table of a join that is missing, or introduce the left table of the
first join when no join is ready. -/
inductive Advance (plan : JoinPlan) : JoinPlan → Prop
  | close (before after : List AcceptedJoin) (join : AcceptedJoin) (left right : Nat)
      (waiting : plan.pending = before ++ join :: after)
      (leftPlaced : plan.place? join.left.id = some left)
      (rightPlaced : plan.place? join.right.id = some right) :
      Advance plan { plan.addPredicateAt (max left right) join with pending := before ++ after }
  | introduceRight (before after : List AcceptedJoin) (join : AcceptedJoin) (left : Nat)
      (waiting : plan.pending = before ++ join :: after)
      (leftPlaced : plan.place? join.left.id = some left)
      (rightAbsent : plan.place? join.right.id = none) :
      Advance plan
        { plan.addClause (.on join.kind join.right [join]) with pending := before ++ after }
  | introduceLeft (before after : List AcceptedJoin) (join : AcceptedJoin) (right : Nat)
      (waiting : plan.pending = before ++ join :: after)
      (leftAbsent : plan.place? join.left.id = none)
      (rightPlaced : plan.place? join.right.id = some right) :
      Advance plan
        { plan.addClause (.on join.kind.mirrored join.left [join]) with
          pending := before ++ after }
  | cross (join : AcceptedJoin) (after : List AcceptedJoin)
      (waiting : plan.pending = join :: after)
      (blocked : ∀ other ∈ plan.pending,
        plan.place? other.left.id = none ∧ plan.place? other.right.id = none) :
      Advance plan (plan.addClause (.cross join.left))

theorem isReady_eq_false_iff (plan : JoinPlan) (join : AcceptedJoin) :
    plan.isReady join = false ↔
      plan.place? join.left.id = none ∧ plan.place? join.right.id = none := by
  unfold isReady
  rw [Bool.or_eq_false_iff, place?_eq_none_iff, place?_eq_none_iff]

/-- Every step of a plan with waiting joins is one of these. -/
theorem advance_step (plan : JoinPlan) (waiting : plan.pending ≠ []) :
    Advance plan plan.step := by
  unfold step
  split
  · rename_i join rest taken
    obtain ⟨before, after, split, rfl, _⟩ := takeFirst?_split taken
    have ready := takeFirst?_meets taken
    unfold accept
    split
    · rename_i left right leftPlaced rightPlaced
      exact .close before after join left right split leftPlaced rightPlaced
    · rename_i left leftPlaced rightAbsent
      exact .introduceRight before after join left split leftPlaced rightAbsent
    · rename_i leftAbsent
      cases rightPlaced : plan.place? join.right.id with
      | some right => exact .introduceLeft before after join right split leftAbsent rightPlaced
      | none =>
        have unready := (plan.isReady_eq_false_iff join).mpr ⟨leftAbsent, rightPlaced⟩
        rw [ready] at unready
        contradiction
  · rename_i none_taken
    cases pendingAt : plan.pending with
    | nil => exact absurd pendingAt waiting
    | cons join after =>
      refine .cross join after pendingAt ?_
      intro other member
      exact (plan.isReady_eq_false_iff other).mp
        (takeFirst?_eq_none_iff.mp none_taken other member)

/-- No step makes a join wait that did not. -/
theorem Advance.mem_pending {plan next : JoinPlan} (step : plan.Advance next)
    {join : AcceptedJoin} (member : join ∈ next.pending) : join ∈ plan.pending := by
  have kept {before after : List AcceptedJoin} {taken : AcceptedJoin}
      (waiting : plan.pending = before ++ taken :: after) (inRest : join ∈ before ++ after) :
      join ∈ plan.pending := by
    rw [waiting]
    rcases List.mem_append.mp inRest with early | late
    · exact List.mem_append_left _ early
    · exact List.mem_append_right _ (List.mem_cons_of_mem _ late)
  cases step with
  | close before after taken left right waiting => exact kept waiting member
  | introduceRight before after taken left waiting => exact kept waiting member
  | introduceLeft before after taken right waiting => exact kept waiting member
  | cross taken after waiting => exact member

/-! ### Runs -/

/-- What every step keeps holds of the finished plan. -/
theorem run_preserves (invariant : JoinPlan → Prop)
    (preserved : ∀ plan next, Advance plan next → invariant plan → invariant next)
    (plan : JoinPlan) (initial : invariant plan) : invariant plan.run := by
  unfold run
  split
  · exact initial
  · rename_i waiting
    exact run_preserves invariant preserved plan.step
      (preserved plan plan.step (plan.advance_step waiting) initial)
termination_by plan.weight
decreasing_by exact weight_step plan ‹_›

/-- No join waits in the finished plan. -/
theorem pending_run (plan : JoinPlan) : plan.run.pending = [] := by
  unfold run
  split
  · assumption
  · exact pending_run plan.step
termination_by plan.weight
decreasing_by exact weight_step plan ‹_›

theorem first_run (plan : JoinPlan) : plan.run.first = plan.first := by
  refine run_preserves (fun other => other.first = plan.first) ?_ plan rfl
  intro earlier next advance same
  cases advance <;> exact same

end QueryComposer.JoinPlan
