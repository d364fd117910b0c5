import QueryComposer.Query.Suggestion

set_option autoImplicit false

/-!
The ranking of suggestions. Suggestions that are sure enough have finite confidences; on these the
order of confidences is that of integers, so that the ranking is a stable sort and its first
suggestion can be named without it.
-/

namespace QueryComposer

namespace Number.Binary64

/-! ### The order of finite numbers -/

/-- The place of a finite number in the order, with negative zero right before positive zero. -/
def place (number : Binary64) : Int :=
  2 * number.units?.getD 0 - (if number.isNegative then 1 else 0)

theorem exists_units {number : Binary64} (finite : number.isFinite = true) :
    ∃ units, number.units? = some units := by
  cases number with
  | nan => contradiction
  | infinite negative => contradiction
  | finite negative mantissa exponent canonical => exact ⟨_, rfl⟩

theorem lt_eq_units {left right : Binary64} {leftUnits rightUnits : Int}
    (leftValue : left.units? = some leftUnits) (rightValue : right.units? = some rightUnits) :
    left.lt right = decide (leftUnits < rightUnits) := by
  cases left with
  | nan => contradiction
  | infinite negative => contradiction
  | finite leftSign leftMantissa leftExponent leftCanonical =>
    cases right with
    | nan => contradiction
    | infinite negative => contradiction
    | finite rightSign rightMantissa rightExponent rightCanonical =>
      rw [lt, leftValue, rightValue]

theorem totalLt_eq_place {left right : Binary64} (leftFinite : left.isFinite = true)
    (rightFinite : right.isFinite = true) :
    left.totalLt right = decide (left.place < right.place) := by
  obtain ⟨leftUnits, leftValue⟩ := exists_units leftFinite
  obtain ⟨rightUnits, rightValue⟩ := exists_units rightFinite
  rw [totalLt, lt_eq_units leftValue rightValue, lt_eq_units rightValue leftValue, place, place,
    leftValue, rightValue, Bool.eq_iff_iff]
  simp only [Option.getD_some, Bool.or_eq_true, Bool.and_eq_true, decide_eq_true_eq,
    Bool.not_eq_true', decide_eq_false_iff_not]
  cases left.isNegative <;> cases right.isNegative <;> simp <;> omega

theorem totalLe_eq_place {left right : Binary64} (leftFinite : left.isFinite = true)
    (rightFinite : right.isFinite = true) :
    left.totalLe right = decide (left.place ≤ right.place) := by
  rw [totalLe, totalLt_eq_place rightFinite leftFinite, Bool.eq_iff_iff]
  simp

end Number.Binary64

/-! ### The first of a sorted list -/

/-- Of the items that none comes before, a stable sort puts the first one in front. -/
theorem mergeSort_eq_cons {α : Type} {le : α → α → Bool}
    (trans : ∀ first second third, le first second → le second third → le first third)
    (total : ∀ first second, le first second || le second first) {items others : List α} {top : α}
    (sorted : items.mergeSort le = top :: others) :
    ∃ before after, items = before ++ top :: after ∧ (∀ other ∈ before, le other top = false) ∧
      ∀ other ∈ after, le top other = true := by
  induction items generalizing others with
  | nil =>
    rw [List.mergeSort_nil] at sorted
    contradiction
  | cons first items inner =>
    obtain ⟨ahead, behind, whole, rest, later⟩ := List.mergeSort_cons trans total first items
    have ordered := List.pairwise_mergeSort trans total (first :: items)
    rw [whole] at sorted ordered
    cases ahead with
    | nil =>
      obtain ⟨rfl, rfl⟩ := List.cons.inj sorted
      refine ⟨[], items, rfl, by simp, ?_⟩
      intro other member
      have listed := (List.mergeSort_perm items le).mem_iff.mpr member
      rw [rest] at listed
      exact (List.pairwise_cons.mp ordered).1 other listed
    | cons earliest ahead =>
      obtain ⟨rfl, rfl⟩ := List.cons.inj sorted
      obtain ⟨before, after, split, lower, higher⟩ := inner rest
      refine ⟨first :: before, after, by rw [split, List.cons_append], ?_, higher⟩
      intro other member
      rcases List.mem_cons.mp member with rfl | earlier
      · simpa using later earliest List.mem_cons_self
      · exact lower other earlier

/-! ### Suggestions -/

namespace RelationshipSuggestion

open QueryComposer.Number

theorem isFinite_of_passes {minConfidence : Binary64} {suggestion : RelationshipSuggestion}
    (passes : suggestion.passes minConfidence = true) : suggestion.confidence.isFinite = true :=
  (Bool.and_eq_true_iff.mp passes).1

/-- The suggestion is the first among the surest of those that are sure enough. -/
def TopRanked (minConfidence : Binary64) (offered : List RelationshipSuggestion)
    (top : RelationshipSuggestion) : Prop :=
  ∃ before after, offered = before ++ top :: after ∧ top.passes minConfidence = true ∧
    (∀ other ∈ before, other.passes minConfidence = true →
      other.confidence.totalLt top.confidence = true) ∧
    ∀ other ∈ after, other.passes minConfidence = true →
      top.confidence.totalLt other.confidence = false

/-- Suggestions that are sure enough are ranked by the places of their confidences. -/
theorem ranked_eq_places (minConfidence : Binary64) (offered : List RelationshipSuggestion) :
    ranked minConfidence offered =
      (offered.filter (passes minConfidence)).mergeSort
        (fun left right => decide (right.confidence.place ≤ left.confidence.place)) := by
  have same := List.map_mergeSort (r := fun left right : RelationshipSuggestion =>
      right.confidence.totalLe left.confidence)
    (s := fun left right => decide (right.confidence.place ≤ left.confidence.place))
    (f := id) (l := offered.filter (passes minConfidence)) (by
      intro left leftMember right rightMember
      exact Binary64.totalLe_eq_place (isFinite_of_passes (List.mem_filter.mp rightMember).2)
        (isFinite_of_passes (List.mem_filter.mp leftMember).2))
  rwa [List.map_id, List.map_id] at same

theorem ranked_eq_nil_iff (minConfidence : Binary64) (offered : List RelationshipSuggestion) :
    ranked minConfidence offered = [] ↔
      ∀ suggestion ∈ offered, suggestion.passes minConfidence = false := by
  have length := (List.mergeSort_perm (offered.filter (passes minConfidence))
    (fun left right => right.confidence.totalLe left.confidence)).length_eq
  rw [ranked, ← List.length_eq_zero_iff, length, List.length_eq_zero_iff, List.filter_eq_nil_iff]
  simp only [Bool.not_eq_true]

theorem topRanked_of_ranked {minConfidence : Binary64}
    {offered others : List RelationshipSuggestion}
    {top : RelationshipSuggestion} (sorted : ranked minConfidence offered = top :: others) :
    TopRanked minConfidence offered top := by
  rw [ranked_eq_places] at sorted
  obtain ⟨before, after, whole, lower, higher⟩ := mergeSort_eq_cons
    (by
      intro first second third
      simp only [decide_eq_true_eq]
      omega)
    (by
      intro first second
      simp only [Bool.or_eq_true, decide_eq_true_eq]
      omega)
    sorted
  obtain ⟨offeredBefore, rest, split, keptBefore, kept⟩ := List.filter_eq_append_iff.mp whole
  obtain ⟨skipped, offeredAfter, rfl, dropped, topPasses, keptAfter⟩ :=
    List.filter_eq_cons_iff.mp kept
  have finite := isFinite_of_passes topPasses
  refine ⟨offeredBefore ++ skipped, offeredAfter, by rw [split, List.append_assoc], topPasses,
    ?_, ?_⟩
  · intro other member otherPasses
    rcases List.mem_append.mp member with earlier | between
    · have listed : other ∈ before := by
        rw [← keptBefore]
        exact List.mem_filter.mpr ⟨earlier, otherPasses⟩
      have below := lower other listed
      rw [Binary64.totalLt_eq_place (isFinite_of_passes otherPasses) finite]
      simp only [decide_eq_false_iff_not, decide_eq_true_eq] at below ⊢
      omega
    · exact absurd otherPasses (dropped other between)
  · intro other member otherPasses
    have listed : other ∈ after := by
      rw [← keptAfter]
      exact List.mem_filter.mpr ⟨member, otherPasses⟩
    have above := higher other listed
    rw [Binary64.totalLt_eq_place finite (isFinite_of_passes otherPasses)]
    simp only [decide_eq_false_iff_not, decide_eq_true_eq] at above ⊢
    omega

end RelationshipSuggestion

end QueryComposer
