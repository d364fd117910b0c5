import Mathlib.Data.Fin.Basic
import Mathlib.Data.List.Perm.Basic
import QueryComposer.Proofs.JoinPlan.Accepted

set_option autoImplicit false

/-!
Joins in another order and with their sides exchanged. When all joins of a query are accepted, so
are the rearranged ones, and the accepted joins are the same up to order and sides.
-/

namespace QueryComposer

/-! ### Rearranged lists -/

/-- The other list has the items in any order, each as it is or exchanged. -/
def Rearranged {α : Type} (exchange : α → α) (items others : List α) : Prop :=
  ∃ middle, items.Perm middle ∧
    List.Forall₂ (fun item other => other = item ∨ other = exchange item) middle others

namespace Rearranged

variable {α β : Type} {exchange : α → α} {items others : List α}

/-- What the exchange does not change about an item is the same about the rearranged ones. -/
theorem map_perm {of : α → β} (unchanged : ∀ item, of (exchange item) = of item)
    (rearranged : Rearranged exchange items others) : (items.map of).Perm (others.map of) := by
  obtain ⟨middle, permuted, exchanged⟩ := rearranged
  have same : middle.map of = others.map of := by
    induction exchanged generalizing items with
    | nil => rfl
    | cons changed _ induct =>
      rw [List.map_cons, List.map_cons, induct (List.Perm.refl _)]
      rcases changed with rfl | rfl
      · rfl
      · rw [unchanged]
  rw [← same]
  exact permuted.map of

/-- What holds of an item and of the exchanged one alike holds of all items or of none of the two
lists. -/
theorem forall_iff {property : α → Prop}
    (unchanged : ∀ item, property (exchange item) = property item)
    (rearranged : Rearranged exchange items others) :
    (∀ item ∈ items, property item) ↔ ∀ other ∈ others, property other := by
  have spread (list : List α) :
      (∀ item ∈ list, property item) ↔ ∀ truth ∈ list.map property, truth :=
    (List.forall_mem_map (P := fun truth => truth)).symm
  rw [spread, spread]
  exact ⟨fun all truth member => all truth ((rearranged.map_perm unchanged).mem_iff.mpr member),
    fun all truth member => all truth ((rearranged.map_perm unchanged).mem_iff.mp member)⟩

theorem length_eq (rearranged : Rearranged exchange items others) :
    items.length = others.length := by
  obtain ⟨middle, permuted, exchanged⟩ := rearranged
  exact permuted.length_eq.trans exchanged.length_eq

end Rearranged

/-! ### Exchanged sides -/

theorem Uuid.eq_of_not_lt {one other : Uuid} (notBefore : one.lt other = false)
    (notAfter : other.lt one = false) : one = other := by
  simp only [Uuid.lt, decide_eq_false_iff_not, List.not_lt] at notBefore notAfter
  obtain ⟨digits, _⟩ := one
  obtain ⟨otherDigits, _⟩ := other
  have same : digits = otherDigits :=
    List.map_injective_iff.mpr Fin.val_injective (List.le_antisymm notAfter notBefore)
  subst same
  rfl

theorem Uuid.lt_asymm {one other : Uuid} (before : one.lt other = true) :
    other.lt one = false := by
  simp only [Uuid.lt, decide_eq_true_eq, decide_eq_false_iff_not] at before ⊢
  exact List.lt_asymm before

theorem orderedPair_comm (one other : TableId) : orderedPair one other = orderedPair other one := by
  unfold orderedPair
  cases before : one.lt other with
  | true => simp [Uuid.lt_asymm before]
  | false =>
    cases after : other.lt one with
    | true => simp
    | false => simp [Uuid.eq_of_not_lt before after]

theorem orderedPair_cases (one other : TableId) :
    orderedPair one other = (one, other) ∨ orderedPair one other = (other, one) := by
  unfold orderedPair
  split
  · exact Or.inl rfl
  · exact Or.inr rfl

/-- An ordered pair tells which two tables it is of, and nothing about their order. -/
theorem orderedPair_eq_iff {one other left right : TableId} :
    orderedPair one other = orderedPair left right ↔
      (one = left ∧ other = right) ∨ (one = right ∧ other = left) := by
  constructor
  · intro same
    rcases orderedPair_cases one other with first | first <;>
      rcases orderedPair_cases left right with second | second <;>
      rw [first, second, Prod.mk.injEq] at same
    · exact Or.inl same
    · exact Or.inr same
    · exact Or.inr same.symm
    · exact Or.inl same.symm
  · rintro (⟨rfl, rfl⟩ | ⟨rfl, rfl⟩)
    · rfl
    · exact orderedPair_comm one other

/-- The suggested pair of columns for the exchanged sides. -/
def RelationshipSuggestion.exchanged (suggestion : RelationshipSuggestion) :
    RelationshipSuggestion :=
  { suggestion with
    leftColumn := suggestion.rightColumn
    rightColumn := suggestion.leftColumn }

/-- The join with its two sides exchanged; it keeps the same rows. -/
def Join.exchanged (join : Join) : Join :=
  { join with
    leftTable := join.rightTable
    leftColumn := join.rightColumn
    rightTable := join.leftTable
    rightColumn := join.leftColumn
    kind := join.kind.mirrored
    suggestions := join.suggestions.map RelationshipSuggestion.exchanged }

namespace AcceptedJoin

/-- The accepted join with its two sides exchanged. -/
def exchanged (join : AcceptedJoin) : AcceptedJoin :=
  { kind := join.kind.mirrored
    left := join.right
    leftColumn := join.rightColumn
    right := join.left
    rightColumn := join.leftColumn
    distinct := join.distinct.symm }

theorem pair_exchanged (join : AcceptedJoin) : join.exchanged.pair = join.pair :=
  orderedPair_comm _ _

theorem inner_exchanged (join : AcceptedJoin) :
    (join.exchanged.kind = .inner) = (join.kind = .inner) := by
  unfold exchanged
  cases join.kind <;> simp [JoinKind.mirrored]

end AcceptedJoin

/-! ### When every join is accepted -/

/-- The join has everything chosen, and the accepted one is the same between the tables found. -/
structure Join.AcceptedAs (tables : List Table) (join : Join) (accepted : AcceptedJoin) :
    Prop where
  kind : join.kind = accepted.kind
  leftTable : join.leftTable = some accepted.left.id
  leftColumn : join.leftColumn = some accepted.leftColumn
  rightTable : join.rightTable = some accepted.right.id
  rightColumn : join.rightColumn = some accepted.rightColumn
  leftKnown : resolveTable? tables accepted.left.id = some accepted.left
  rightKnown : resolveTable? tables accepted.right.id = some accepted.right

theorem Join.accept_eq_ok_iff {tables : List Table} {number : Nat} {join : Join}
    {accepted : AcceptedJoin} :
    join.accept tables number = .ok accepted ↔ join.AcceptedAs tables accepted := by
  constructor
  · intro taken
    unfold Join.accept at taken
    split at taken
    · rename_i leftTable leftColumn rightTable rightColumn
      split at taken
      · contradiction
      · split at taken
        · rename_i leftFound rightFound
          cases taken
          have leftId := resolveTable?_id leftFound
          have rightId := resolveTable?_id rightFound
          subst leftId rightId
          exact ⟨rfl, leftTable, leftColumn, rightTable, rightColumn, leftFound, rightFound⟩
        · contradiction
    · contradiction
  · rintro ⟨kind, leftTable, leftColumn, rightTable, rightColumn, leftKnown, rightKnown⟩
    unfold Join.accept
    simp only [leftTable, leftColumn, rightTable, rightColumn]
    rw [dif_neg accepted.distinct]
    split
    · rename_i left right leftFound rightFound
      rw [leftKnown] at leftFound
      rw [rightKnown] at rightFound
      cases leftFound
      cases rightFound
      cases accepted
      cases kind
      rfl
    · rename_i missing
      exact absurd rightKnown (missing _ _ leftKnown)

theorem Join.AcceptedAs.exchanged {tables : List Table} {join : Join} {accepted : AcceptedJoin}
    (taken : join.AcceptedAs tables accepted) :
    join.exchanged.AcceptedAs tables accepted.exchanged :=
  ⟨congrArg JoinKind.mirrored taken.kind, taken.rightTable, taken.rightColumn, taken.leftTable,
    taken.leftColumn, taken.rightKnown, taken.leftKnown⟩

namespace AcceptedJoins

variable {tables : List Table} {policy : DuplicateJoinPolicy}

/-- Under the policy that allows no repeated join, no two of the joins connect the same tables, and
none connects one of the pairs. -/
def Unrepeated (policy : DuplicateJoinPolicy) (pairs : List (TableId × TableId))
    (joins : List AcceptedJoin) : Prop :=
  policy = .reject →
    (joins.map AcceptedJoin.pair).Nodup ∧ ∀ pair ∈ joins.map AcceptedJoin.pair, pair ∉ pairs

theorem unrepeated_cons_iff {pairs : List (TableId × TableId)} {join : AcceptedJoin}
    {joins : List AcceptedJoin} :
    Unrepeated policy pairs (join :: joins) ↔
      ¬(policy = .reject ∧ join.pair ∈ pairs) ∧ Unrepeated policy (join.pair :: pairs) joins := by
  simp only [Unrepeated, List.map_cons, List.nodup_cons, List.mem_cons, not_or, not_and]
  constructor
  · intro unrepeated
    refine ⟨fun rejects => (unrepeated rejects).2 _ (Or.inl rfl), fun rejects => ?_⟩
    obtain ⟨⟨new, apart⟩, others⟩ := unrepeated rejects
    exact ⟨apart, fun pair member =>
      ⟨fun same => new (same ▸ member), others pair (Or.inr member)⟩⟩
  · rintro ⟨new, unrepeated⟩ rejects
    obtain ⟨apart, others⟩ := unrepeated rejects
    refine ⟨⟨fun member => (others join.pair member).1 rfl, apart⟩, ?_⟩
    rintro pair (rfl | member)
    · exact new rejects
    · exact (others pair member).2

theorem length_ofJoins_le (number : Nat) (pairs : List (TableId × TableId)) (joins : List Join) :
    (ofJoins tables policy number pairs joins).joins.length ≤ joins.length := by
  induction joins generalizing number pairs with
  | nil => exact Nat.le_refl 0
  | cons join joins induct =>
    cases taken : join.accept tables (number + 1) with
    | error fault =>
      rw [ofJoins, taken]
      exact Nat.le_succ_of_le (induct _ _)
    | ok accepted =>
      rw [ofJoins_cons taken]
      split
      · exact Nat.le_succ_of_le (induct _ _)
      · exact Nat.succ_le_succ (induct _ _)

/-- All joins are accepted when each is complete and none is repeated against the policy. -/
theorem ofJoins_eq_iff {number : Nat} {pairs : List (TableId × TableId)} {joins : List Join}
    {accepted : List AcceptedJoin} :
    (ofJoins tables policy number pairs joins).joins = accepted ∧ accepted.length = joins.length ↔
      List.Forall₂ (Join.AcceptedAs tables) joins accepted ∧
        Unrepeated policy pairs accepted := by
  induction joins generalizing number pairs accepted with
  | nil =>
    rw [List.forall₂_nil_left_iff]
    constructor
    · rintro ⟨rfl, _⟩
      exact ⟨rfl, fun _ => by simp [ofJoins]⟩
    · rintro ⟨rfl, _⟩
      exact ⟨rfl, rfl⟩
  | cons join joins induct =>
    have short (pairs : List (TableId × TableId)) :
        (ofJoins tables policy (number + 1) pairs joins).joins.length ≤ joins.length :=
      length_ofJoins_le _ _ _
    cases taken : join.accept tables (number + 1) with
    | error fault =>
      rw [ofJoins, taken]
      constructor
      · rintro ⟨rfl, size⟩
        have bound := short pairs
        simp only [List.length_cons] at size
        omega
      · rintro ⟨each, _⟩
        cases each with
        | cons first _ =>
          rw [Join.accept_eq_ok_iff.mpr first] at taken
          contradiction
    | ok found =>
      have bound := short (found.pair :: pairs)
      rw [ofJoins_cons taken]
      constructor
      · rintro ⟨rfl, size⟩
        split at size
        · simp only [List.length_cons] at size
          omega
        · rename_i kept
          rw [if_neg kept, unrepeated_cons_iff, List.forall₂_cons]
          obtain ⟨each, unrepeated⟩ := induct.mp ⟨rfl, Nat.succ.inj size⟩
          exact ⟨⟨Join.accept_eq_ok_iff.mp taken, each⟩, kept, unrepeated⟩
      · rintro ⟨each, unrepeated⟩
        cases each with
        | cons first rest =>
          have same := taken.symm.trans (Join.accept_eq_ok_iff.mpr first)
          cases same
          obtain ⟨kept, later⟩ := unrepeated_cons_iff.mp unrepeated
          obtain ⟨others, size⟩ := induct.mpr ⟨rest, later⟩
          rw [if_neg kept, others]
          exact ⟨rfl, congrArg Nat.succ size⟩

/-- When all joins are accepted, so are all of the rearranged ones, and they are accepted as the
same joins rearranged. -/
theorem ofJoins_rearranged {joins others : List Join}
    (rearranged : Rearranged Join.exchanged joins others)
    (all : (ofJoins tables policy 0 [] joins).joins.length = joins.length) :
    Rearranged AcceptedJoin.exchanged (ofJoins tables policy 0 [] joins).joins
      (ofJoins tables policy 0 [] others).joins := by
  obtain ⟨middle, permuted, exchanged⟩ := rearranged
  obtain ⟨each, unrepeated⟩ := ofJoins_eq_iff.mp ⟨rfl, all⟩
  obtain ⟨accepted, permutedEach, acceptedPerm⟩ := List.perm_comp_forall₂ permuted.symm each
  have taken : ∃ final, List.Forall₂ (Join.AcceptedAs tables) others final ∧
      List.Forall₂ (fun join other => other = join ∨ other = join.exchanged) accepted final := by
    clear permuted acceptedPerm
    induction exchanged generalizing accepted with
    | nil =>
      rw [List.forall₂_nil_left_iff] at permutedEach
      subst permutedEach
      exact ⟨[], .nil, .nil⟩
    | cons changed _ induct =>
      cases permutedEach with
      | cons first rest =>
        obtain ⟨final, finalEach, finalChanged⟩ := induct _ rest
        rcases changed with rfl | rfl
        · exact ⟨_, .cons first finalEach, .cons (Or.inl rfl) finalChanged⟩
        · exact ⟨_, .cons first.exchanged finalEach, .cons (Or.inr rfl) finalChanged⟩
  obtain ⟨final, finalEach, finalChanged⟩ := taken
  have arranged :
      Rearranged AcceptedJoin.exchanged (ofJoins tables policy 0 [] joins).joins final :=
    ⟨accepted, acceptedPerm.symm, finalChanged⟩
  have pairs := arranged.map_perm AcceptedJoin.pair_exchanged
  have finalUnrepeated : Unrepeated policy [] final :=
    fun rejects => ⟨pairs.nodup_iff.mp (unrepeated rejects).1, fun _ _ => List.not_mem_nil⟩
  rw [(ofJoins_eq_iff.mpr ⟨finalEach, finalUnrepeated⟩).1]
  exact arranged

end AcceptedJoins

end QueryComposer
