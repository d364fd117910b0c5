import QueryComposer.Proofs.JoinPlan.Rearranged

set_option autoImplicit false

/-!
Joins whose tables have other identities. The identities are compared with each other and nothing
else, and the order in which a pair of them stands does not matter; so different identities in place
of different ones give the same plan, with the new identities in it.
-/

namespace QueryComposer

variable {rename : TableId → TableId}

/-! ### Tables and joins -/

namespace Table

/-- The table with another identity. -/
def renamed (rename : TableId → TableId) (table : Table) : Table :=
  { table with id := rename table.id }

@[simp] theorem id_renamed (table : Table) : (table.renamed rename).id = rename table.id := rfl

@[simp] theorem name_renamed (table : Table) : (table.renamed rename).name = table.name := rfl

@[simp] theorem columns_renamed (table : Table) : (table.renamed rename).columns = table.columns :=
  rfl

@[simp] theorem reference_renamed (table : Table) :
    (table.renamed rename).reference = table.reference := rfl

end Table

/-- The join with another identity, between tables with other identities. -/
def Join.renamed (rename : TableId → TableId) (renameJoin : JoinId → JoinId) (join : Join) : Join :=
  { join with
    id := renameJoin join.id
    leftTable := join.leftTable.map rename
    rightTable := join.rightTable.map rename }

namespace AcceptedJoin

/-- The accepted join between tables with other identities, which are different again. -/
def renamed (injective : Function.Injective rename) (join : AcceptedJoin) : AcceptedJoin :=
  { join with
    left := join.left.renamed rename
    right := join.right.renamed rename
    distinct := fun same => join.distinct (injective same) }

@[simp] theorem predicate_renamed (injective : Function.Injective rename) (join : AcceptedJoin) :
    (join.renamed injective).predicate = join.predicate := rfl

end AcceptedJoin

namespace JoinClause

/-- The clause with other identities of its tables. -/
def renamed (injective : Function.Injective rename) : JoinClause → JoinClause
  | .on kind table predicates =>
    .on kind (table.renamed rename) (predicates.map (AcceptedJoin.renamed injective))
  | .cross table => .cross (table.renamed rename)

variable (injective : Function.Injective rename)

@[simp] theorem table_renamed (clause : JoinClause) :
    (clause.renamed injective).table = clause.table.renamed rename := by
  cases clause <;> rfl

@[simp] theorem text_renamed (clause : JoinClause) :
    (clause.renamed injective).text = clause.text := by
  cases clause with
  | on kind table predicates =>
    simp only [renamed, text, List.map_map, Function.comp_def, Table.reference_renamed,
      AcceptedJoin.predicate_renamed]
  | cross table => rfl

@[simp] theorem warning?_renamed (clause : JoinClause) :
    (clause.renamed injective).warning? = clause.warning? := by
  cases clause <;> rfl

theorem addPredicate_renamed (join : AcceptedJoin) (clause : JoinClause) :
    (clause.renamed injective).addPredicate (join.renamed injective) =
      (clause.addPredicate join).renamed injective := by
  cases clause with
  | on kind table predicates => simp [renamed, addPredicate]
  | cross table => rfl

end JoinClause

/-! ### Accepted joins -/

section Accepted

variable (injective : Function.Injective rename) (renameJoin : JoinId → JoinId)
include injective

theorem resolveTable?_renamed (tables : List Table) (id : TableId) :
    resolveTable? (tables.map (Table.renamed rename)) (rename id) =
      (resolveTable? tables id).map (Table.renamed rename) := by
  unfold resolveTable?
  rw [← List.map_reverse, List.find?_map]
  simp only [Function.comp_def, Table.id_renamed, injective.eq_iff]

theorem orderedPair_renamed_eq_iff {one other left right : TableId} :
    orderedPair (rename one) (rename other) = orderedPair (rename left) (rename right) ↔
      orderedPair one other = orderedPair left right := by
  simp only [orderedPair_eq_iff, injective.eq_iff]

theorem Join.AcceptedAs.renamed {tables : List Table} {join : Join} {accepted : AcceptedJoin}
    (taken : join.AcceptedAs tables accepted) :
    (join.renamed rename renameJoin).AcceptedAs (tables.map (Table.renamed rename))
      (accepted.renamed injective) where
  kind := taken.kind
  leftTable := congrArg (Option.map rename) taken.leftTable
  leftColumn := taken.leftColumn
  rightTable := congrArg (Option.map rename) taken.rightTable
  rightColumn := taken.rightColumn
  leftKnown := (resolveTable?_renamed injective tables _).trans
    (congrArg (Option.map (Table.renamed rename)) taken.leftKnown)
  rightKnown := (resolveTable?_renamed injective tables _).trans
    (congrArg (Option.map (Table.renamed rename)) taken.rightKnown)

/-- A join is accepted or refused as before. -/
theorem Join.accept_renamed (tables : List Table) (number : Nat) (join : Join) :
    (join.renamed rename renameJoin).accept (tables.map (Table.renamed rename)) number =
      (join.accept tables number).map (AcceptedJoin.renamed injective) := by
  cases taken : join.accept tables number with
  | ok accepted =>
    exact accept_eq_ok_iff.mpr ((accept_eq_ok_iff.mp taken).renamed injective renameJoin)
  | error fault =>
    unfold accept at taken ⊢
    obtain ⟨id, leftTable, leftColumn, rightTable, rightColumn, kind, suggestions⟩ := join
    split at taken
    · rename_i leftId leftColumn rightId rightColumn left leftChosen right rightChosen
      cases left
      cases leftChosen
      cases right
      cases rightChosen
      by_cases same : leftId = rightId
      · rw [dif_pos same] at taken
        cases taken
        simp [Join.renamed, same, Except.map]
      · rw [dif_neg same] at taken
        simp only [Join.renamed, Option.map_some]
        rw [dif_neg (fun equal => same (injective equal))]
        split at taken
        · contradiction
        · rename_i missing
          cases taken
          split
          · rename_i leftFound rightFound
            rw [resolveTable?_renamed injective] at leftFound rightFound
            obtain ⟨_, leftKnown, _⟩ := Option.map_eq_some_iff.mp leftFound
            obtain ⟨_, rightKnown, _⟩ := Option.map_eq_some_iff.mp rightFound
            exact absurd rightKnown (missing _ _ leftKnown)
          · rfl
    · rename_i missing
      cases taken
      split
      · rename_i left leftChosen right rightChosen
        obtain ⟨_, leftWas, _⟩ := Option.map_eq_some_iff.mp left
        obtain ⟨_, rightWas, _⟩ := Option.map_eq_some_iff.mp right
        exact absurd rightChosen (missing _ _ _ _ leftWas leftChosen rightWas)
      · rfl

/-! ### Repeated pairs -/

/-- The two lists have the same pairs of tables, under their identities in either. -/
def SamePairs (rename : TableId → TableId) (pairs renamedPairs : List (TableId × TableId)) : Prop :=
  ∀ left right, orderedPair (rename left) (rename right) ∈ renamedPairs ↔
    orderedPair left right ∈ pairs

variable {pairs renamedPairs : List (TableId × TableId)}

theorem SamePairs.cons (same : SamePairs rename pairs renamedPairs) (left right : TableId) :
    SamePairs rename (orderedPair left right :: pairs)
      (orderedPair (rename left) (rename right) :: renamedPairs) := by
  intro one other
  rw [List.mem_cons, List.mem_cons, orderedPair_renamed_eq_iff injective, same]

namespace AcceptedJoins

/-- The accepted joins under other identities; what is said about the others stays. -/
def renamed (injective : Function.Injective rename) (accepted : AcceptedJoins) : AcceptedJoins :=
  { accepted with joins := accepted.joins.map (AcceptedJoin.renamed injective) }

theorem ofJoins_renamed (tables : List Table) (policy : DuplicateJoinPolicy) (number : Nat)
    (same : SamePairs rename pairs renamedPairs) (joins : List Join) :
    ofJoins (tables.map (Table.renamed rename)) policy number renamedPairs
        (joins.map (Join.renamed rename renameJoin)) =
      (ofJoins tables policy number pairs joins).renamed injective := by
  induction joins generalizing number pairs renamedPairs with
  | nil => rfl
  | cons join joins induct =>
    rw [List.map_cons, ofJoins, ofJoins, Join.accept_renamed injective]
    cases join.accept tables (number + 1) with
    | error fault =>
      simp only [Except.map, induct (number + 1) same]
      rfl
    | ok accepted =>
      have later := same.cons injective accepted.left.id accepted.right.id
      -- the new identities may stand in the other order, which a pair does not show
      have listed : renamedPairs.contains
          (orderedPair (rename accepted.left.id) (rename accepted.right.id)) =
            pairs.contains (orderedPair accepted.left.id accepted.right.id) := by
        rw [Bool.eq_iff_iff, List.contains_iff_mem, List.contains_iff_mem, same]
      simp only [Except.map, AcceptedJoin.renamed, Table.id_renamed, Table.name_renamed,
        induct (number + 1) later, listed]
      split
      · rfl
      · split <;> rfl

end AcceptedJoins

end Accepted

/-! ### Plans -/

/-- The first item that meets the test among changed ones is the changed first item whose change
meets it. -/
theorem takeFirst?_map {α β : Type} (change : α → β) (meets : β → Bool) (items : List α) :
    takeFirst? meets (items.map change) =
      (takeFirst? (fun item => meets (change item)) items).map
        (fun (taken, rest) => (change taken, rest.map change)) := by
  induction items with
  | nil => rfl
  | cons item items induct =>
    rw [List.map_cons, takeFirst?, takeFirst?, induct]
    split
    · rfl
    · cases takeFirst? (fun item => meets (change item)) items <;> rfl

namespace JoinPlan

variable (injective : Function.Injective rename)

/-- The plan with other identities of its tables. -/
def renamed (plan : JoinPlan) : JoinPlan :=
  { first := plan.first.renamed rename
    clauses := plan.clauses.map (JoinClause.renamed injective)
    pending := plan.pending.map (AcceptedJoin.renamed injective) }

theorem pending_renamed (plan : JoinPlan) :
    (plan.renamed injective).pending = plan.pending.map (AcceptedJoin.renamed injective) := rfl

theorem place?_renamed (plan : JoinPlan) (id : TableId) :
    (plan.renamed injective).place? (rename id) = plan.place? id := by
  unfold place? renamed
  rw [List.findIdx?_map]
  simp only [Function.comp_def, JoinClause.table_renamed, Table.id_renamed, injective.eq_iff]

theorem inScope_renamed (plan : JoinPlan) (id : TableId) :
    (plan.renamed injective).inScope (rename id) = plan.inScope id := by
  rw [inScope, place?_renamed, inScope]

theorem isReady_renamed (plan : JoinPlan) (join : AcceptedJoin) :
    (plan.renamed injective).isReady (join.renamed injective) = plan.isReady join := by
  simp only [isReady, AcceptedJoin.renamed, Table.id_renamed, inScope_renamed]

theorem addClause_renamed (plan : JoinPlan) (clause : JoinClause) :
    (plan.renamed injective).addClause (clause.renamed injective) =
      (plan.addClause clause).renamed injective := by
  simp [addClause, renamed]

theorem addPredicateAt_renamed (plan : JoinPlan) (place : Nat) (join : AcceptedJoin) :
    (plan.renamed injective).addPredicateAt place (join.renamed injective) =
      (plan.addPredicateAt place join).renamed injective := by
  have changed : (plan.clauses.map (JoinClause.renamed injective)).modify (place - 1)
      (JoinClause.addPredicate (join.renamed injective)) =
        (plan.clauses.modify (place - 1) (JoinClause.addPredicate join)).map
          (JoinClause.renamed injective) := by
    apply List.ext_getElem?
    intro index
    simp only [List.getElem?_map, List.getElem?_modify]
    cases plan.clauses[index]? with
    | none => rfl
    | some clause =>
      simp only [Option.map_some, Option.map_eq_map]
      split
      · rw [JoinClause.addPredicate_renamed]
      · rfl
  unfold addPredicateAt renamed
  rw [changed]

theorem accept_renamed (plan : JoinPlan) (join : AcceptedJoin) :
    (plan.renamed injective).accept (join.renamed injective) =
      (plan.accept join).renamed injective := by
  have left := plan.place?_renamed injective join.left.id
  have right := plan.place?_renamed injective join.right.id
  unfold accept
  simp only [AcceptedJoin.renamed, Table.id_renamed, left, right]
  split
  · exact plan.addPredicateAt_renamed injective _ join
  · exact plan.addClause_renamed injective (.on join.kind join.right [join])
  · exact plan.addClause_renamed injective (.on join.kind.mirrored join.left [join])

/-- A step of the plan is the same step under other identities. -/
theorem step_renamed (plan : JoinPlan) :
    (plan.renamed injective).step = plan.step.renamed injective := by
  have taken : takeFirst? (plan.renamed injective).isReady (plan.renamed injective).pending =
      (takeFirst? plan.isReady plan.pending).map (fun (join, rest) =>
        (join.renamed injective, rest.map (AcceptedJoin.renamed injective))) := by
    rw [pending_renamed, takeFirst?_map]
    simp only [isReady_renamed]
  unfold step
  rw [taken]
  cases takeFirst? plan.isReady plan.pending with
  | some found =>
    obtain ⟨join, rest⟩ := found
    simp only [Option.map_some, accept_renamed]
    rfl
  | none =>
    rw [Option.map_none, pending_renamed]
    cases waiting : plan.pending with
    | nil => rfl
    | cons join others => exact plan.addClause_renamed injective (.cross join.left)

theorem run_renamed (plan : JoinPlan) :
    run (plan.renamed injective) = (run plan).renamed injective := by
  induction plan using run.induct with
  | case1 plan done =>
    have renamedDone : (plan.renamed injective).pending = [] := by rw [pending_renamed, done]; rfl
    rw [run, dif_pos renamedDone, run, dif_pos done]
  | case2 plan waiting induct =>
    have renamedWaiting : (plan.renamed injective).pending ≠ [] := by
      rw [pending_renamed, ne_eq, List.map_eq_nil_iff]
      exact waiting
    rw [run, dif_neg renamedWaiting, step_renamed, induct, run.eq_1 plan, dif_neg waiting]

theorem leftOver_renamed (plan : JoinPlan) (tables : List Table) :
    (plan.renamed injective).leftOver (tables.map (Table.renamed rename)) =
      (plan.leftOver tables).map (JoinClause.renamed injective) := by
  unfold leftOver
  rw [List.filter_map, List.map_map, List.map_map]
  simp only [Function.comp_def, Table.id_renamed, inScope_renamed, JoinClause.renamed]

/-- The clauses of renamed joins are the same clauses under other identities. -/
theorem clausesFor_renamed (first : Table) (others : List Table) (joins : List AcceptedJoin) :
    clausesFor (first.renamed rename) (others.map (Table.renamed rename))
        (joins.map (AcceptedJoin.renamed injective)) =
      (clausesFor first others joins).map (JoinClause.renamed injective) := by
  have finished := run_renamed injective { first, pending := joins }
  unfold clausesFor
  rw [List.map_append, ← leftOver_renamed, ← finished]
  exact congrArg (· ++ _) (congrArg JoinPlan.clauses finished)

end JoinPlan

end QueryComposer
