import QueryComposer.Proofs.JoinPlan.Rearranged

set_option autoImplicit false

/-!
What is wrong with a join, said of the join and of those that stand before it. The joins of a query
are accepted or refused one after the other: there is one fault for each join that is defective, in
their order, and the others are accepted.
-/

namespace QueryComposer

/-- Each item with those that stand before it. -/
def withEarlier {α : Type} (earlier : List α) : List α → List (List α × α)
  | [] => []
  | item :: items => (earlier, item) :: withEarlier (earlier ++ [item]) items

theorem map_snd_withEarlier {α : Type} (earlier items : List α) :
    (withEarlier earlier items).map Prod.snd = items := by
  induction items generalizing earlier with
  | nil => rfl
  | cons item items induct => rw [withEarlier, List.map_cons, induct]

/-! ### Defects -/

/-- The name of a chosen table. -/
def chosenName (tables : List Table) (chosen : Option TableId) : String :=
  ((chosen.bind (resolveTable? tables)).map Table.name).getD ""

/-- One of the tables has the identity. -/
def hasTable (tables : List Table) (id : TableId) : Bool :=
  tables.any (fun table => table.id = id)

theorem isSome_resolveTable? (tables : List Table) (id : TableId) :
    (resolveTable? tables id).isSome = hasTable tables id := by
  rw [resolveTable?, List.isSome_find?, List.any_reverse, hasTable]

theorem hasTable_iff {tables : List Table} {id : TableId} :
    hasTable tables id = true ↔ id ∈ tables.map Table.id := by
  simp only [hasTable, List.any_eq_true, decide_eq_true_eq, List.mem_map]

namespace Join

/-- The tables of both sides are among the tables, as far as they are chosen. -/
def isSelected (tables : List Table) (join : Join) : Bool :=
  (join.leftTable.toList ++ join.rightTable.toList).all (hasTable tables)

/-- Everything is chosen, and the sides are two different ones of the tables. -/
def isUsable (tables : List Table) (join : Join) : Bool :=
  join.isComplete && join.leftTable ≠ join.rightTable && join.isSelected tables

/-- The two joins are between the same two tables, whichever of them is on the left. -/
def connectsAlike (join other : Join) : Bool :=
  (join.leftTable = other.leftTable && join.rightTable = other.rightTable) ||
    (join.leftTable = other.rightTable && join.rightTable = other.leftTable)

/-- What is wrong with a join that stands behind earlier ones. -/
def defect? (tables : List Table) (policy : DuplicateJoinPolicy) (earlier : List Join)
    (join : Join) : Option QueryFault :=
  let number := earlier.length + 1
  if !join.isComplete then some (.incompleteJoin number)
  else if join.leftTable = join.rightTable then some (.selfJoin number)
  else if !join.isSelected tables then some (.joinOfUnselected number)
  else if policy = .reject &&
      earlier.any (fun other => other.isUsable tables && other.connectsAlike join) then
    some (.repeatedJoin number (chosenName tables join.leftTable)
      (chosenName tables join.rightTable))
  else none

variable {tables : List Table} {policy : DuplicateJoinPolicy} {earlier : List Join}

theorem isComplete_iff {join : Join} :
    join.isComplete = true ↔
      ∃ leftTable leftColumn rightTable rightColumn, join.leftTable = some leftTable ∧
        join.leftColumn = some leftColumn ∧ join.rightTable = some rightTable ∧
        join.rightColumn = some rightColumn := by
  unfold isComplete endpoints?
  cases join.leftTable <;> cases join.leftColumn <;> cases join.rightTable <;>
    cases join.rightColumn <;> simp

theorem AcceptedAs.isComplete {join : Join} {accepted : AcceptedJoin}
    (taken : join.AcceptedAs tables accepted) : join.isComplete = true :=
  isComplete_iff.mpr ⟨_, _, _, _, taken.leftTable, taken.leftColumn, taken.rightTable,
    taken.rightColumn⟩

theorem AcceptedAs.isSelected {join : Join} {accepted : AcceptedJoin}
    (taken : join.AcceptedAs tables accepted) : join.isSelected tables = true := by
  unfold Join.isSelected
  simp [taken.leftTable, taken.rightTable, ← isSome_resolveTable?, taken.leftKnown,
    taken.rightKnown]

theorem AcceptedAs.sides_ne {join : Join} {accepted : AcceptedJoin}
    (taken : join.AcceptedAs tables accepted) : join.leftTable ≠ join.rightTable := by
  rw [taken.leftTable, taken.rightTable]
  exact fun same => accepted.distinct (Option.some.inj same)

/-- A join is usable when it is accepted while nothing is said about repetition. -/
theorem isUsable_iff {join : Join} :
    join.isUsable tables = true ↔ ∃ accepted, join.AcceptedAs tables accepted := by
  constructor
  · intro usable
    simp only [isUsable, Bool.and_eq_true, decide_eq_true_eq] at usable
    obtain ⟨⟨complete, apart⟩, selected⟩ := usable
    obtain ⟨leftId, leftColumn, rightId, rightColumn, leftTable, leftChosen, rightTable,
      rightChosen⟩ := isComplete_iff.mp complete
    simp only [isSelected, leftTable, rightTable, Option.toList_some, List.cons_append,
      List.nil_append, List.all_cons, List.all_nil, Bool.and_true, Bool.and_eq_true,
      ← isSome_resolveTable?, Option.isSome_iff_exists] at selected
    obtain ⟨⟨left, leftKnown⟩, ⟨right, rightKnown⟩⟩ := selected
    have leftIs := resolveTable?_id leftKnown
    have rightIs := resolveTable?_id rightKnown
    subst leftIs rightIs
    have distinct : left.id ≠ right.id := by
      rintro same
      rw [leftTable, rightTable, same] at apart
      exact apart rfl
    exact ⟨⟨join.kind, left, leftColumn, right, rightColumn, distinct⟩, rfl, leftTable, leftChosen,
      rightTable, rightChosen, leftKnown, rightKnown⟩
  · rintro ⟨accepted, taken⟩
    simp only [isUsable, Bool.and_eq_true, decide_eq_true_eq]
    exact ⟨⟨taken.isComplete, taken.sides_ne⟩, taken.isSelected⟩

/-- Joins that are accepted connect the same tables when their pairs are the same. -/
theorem connectsAlike_iff {join other : Join} {accepted otherAccepted : AcceptedJoin}
    (taken : join.AcceptedAs tables accepted) (otherTaken : other.AcceptedAs tables otherAccepted) :
    other.connectsAlike join = true ↔ otherAccepted.pair = accepted.pair := by
  unfold connectsAlike AcceptedJoin.pair
  rw [orderedPair_eq_iff, taken.leftTable, taken.rightTable, otherTaken.leftTable,
    otherTaken.rightTable]
  simp only [Bool.or_eq_true, Bool.and_eq_true, decide_eq_true_eq, Option.some.injEq]

theorem isUsable_of_accept_eq_error {number : Nat} {join : Join} {fault : QueryFault}
    (refused : join.accept tables number = .error fault) : join.isUsable tables = false := by
  rw [← Bool.not_eq_true, isUsable_iff]
  rintro ⟨accepted, taken⟩
  rw [accept_eq_ok_iff.mpr taken] at refused
  contradiction

/-- A join that is not accepted is refused for its defect, whatever stands before it. -/
theorem defect?_of_accept_eq_error {join : Join} {fault : QueryFault}
    (refused : join.accept tables (earlier.length + 1) = .error fault) :
    join.defect? tables policy earlier = some fault := by
  have unusable := isUsable_of_accept_eq_error refused
  unfold defect?
  cases complete : join.isComplete with
  | false =>
    unfold accept at refused
    split at refused
    · rename_i leftTable leftColumn rightTable rightColumn
      rw [isComplete_iff.mpr ⟨_, _, _, _, leftTable, leftColumn, rightTable, rightColumn⟩]
        at complete
      contradiction
    · cases refused
      rfl
  | true =>
    obtain ⟨leftId, leftColumn, rightId, rightColumn, leftTable, leftChosen, rightTable,
      rightChosen⟩ := isComplete_iff.mp complete
    unfold accept at refused
    simp only [leftTable, leftChosen, rightTable, rightChosen] at refused
    by_cases same : leftId = rightId
    · rw [dif_pos same] at refused
      cases refused
      simp [leftTable, rightTable, same]
    · have apart : join.leftTable ≠ join.rightTable := by
        rw [leftTable, rightTable]
        exact fun equal => same (Option.some.inj equal)
      have unselected : join.isSelected tables = false := by
        simpa [isUsable, complete, apart] using unusable
      rw [dif_neg same] at refused
      split at refused
      · contradiction
      · cases refused
        simp [apart, unselected]

end Join

/-! ### The pairs of earlier joins -/

/-- The pairs are those of the usable ones among the earlier joins. -/
def TracksPairs (tables : List Table) (earlier : List Join) (pairs : List (TableId × TableId)) :
    Prop :=
  ∀ pair, pair ∈ pairs ↔
    ∃ other ∈ earlier, ∃ accepted, other.AcceptedAs tables accepted ∧ accepted.pair = pair

variable {tables : List Table} {policy : DuplicateJoinPolicy} {earlier : List Join}
  {pairs : List (TableId × TableId)} {join : Join}

namespace TracksPairs

theorem nil : TracksPairs tables [] [] := by
  intro pair
  simp

theorem skip (tracks : TracksPairs tables earlier pairs) (unusable : join.isUsable tables = false) :
    TracksPairs tables (earlier ++ [join]) pairs := by
  intro pair
  rw [tracks pair]
  constructor
  · rintro ⟨other, member, found⟩
    exact ⟨other, List.mem_append_left _ member, found⟩
  · rintro ⟨other, member, accepted, taken, same⟩
    rcases List.mem_append.mp member with before | last
    · exact ⟨other, before, accepted, taken, same⟩
    · cases List.mem_singleton.mp last
      rw [Join.isUsable_iff.mpr ⟨accepted, taken⟩] at unusable
      contradiction

theorem take (tracks : TracksPairs tables earlier pairs) {accepted : AcceptedJoin}
    (taken : join.AcceptedAs tables accepted) :
    TracksPairs tables (earlier ++ [join]) (accepted.pair :: pairs) := by
  intro pair
  rw [List.mem_cons, tracks pair]
  constructor
  · rintro (rfl | ⟨other, member, found⟩)
    · exact ⟨join, List.mem_append_right _ (List.mem_singleton_self join), accepted, taken, rfl⟩
    · exact ⟨other, List.mem_append_left _ member, found⟩
  · rintro ⟨other, member, otherAccepted, otherTaken, same⟩
    rcases List.mem_append.mp member with before | last
    · exact Or.inr ⟨other, before, otherAccepted, otherTaken, same⟩
    · cases List.mem_singleton.mp last
      have accepts : join.accept tables 0 = .ok accepted := Join.accept_eq_ok_iff.mpr taken
      rw [Join.accept_eq_ok_iff.mpr otherTaken] at accepts
      cases accepts
      exact Or.inl same.symm

/-- The pair of an accepted join was seen when an earlier usable join connects the same tables. -/
theorem mem_iff (tracks : TracksPairs tables earlier pairs) {accepted : AcceptedJoin}
    (taken : join.AcceptedAs tables accepted) :
    accepted.pair ∈ pairs ↔
      earlier.any (fun other => other.isUsable tables && other.connectsAlike join) = true := by
  rw [tracks accepted.pair, List.any_eq_true]
  constructor
  · rintro ⟨other, member, otherAccepted, otherTaken, same⟩
    refine ⟨other, member, Bool.and_eq_true_iff.mpr ⟨Join.isUsable_iff.mpr ⟨_, otherTaken⟩, ?_⟩⟩
    exact (Join.connectsAlike_iff taken otherTaken).mpr same
  · rintro ⟨other, member, holds⟩
    obtain ⟨usable, alike⟩ := Bool.and_eq_true_iff.mp holds
    obtain ⟨otherAccepted, otherTaken⟩ := Join.isUsable_iff.mp usable
    exact ⟨other, member, otherAccepted, otherTaken,
      (Join.connectsAlike_iff taken otherTaken).mp alike⟩

/-- The defect that an accepted join may have is to repeat an earlier one. -/
theorem defect?_eq (tracks : TracksPairs tables earlier pairs) (policy : DuplicateJoinPolicy)
    {accepted : AcceptedJoin} (taken : join.AcceptedAs tables accepted) :
    join.defect? tables policy earlier =
      if policy = .reject ∧ accepted.pair ∈ pairs then
        some (.repeatedJoin (earlier.length + 1) accepted.left.name accepted.right.name)
      else none := by
  have leftName : chosenName tables join.leftTable = accepted.left.name := by
    simp [chosenName, taken.leftTable, taken.leftKnown]
  have rightName : chosenName tables join.rightTable = accepted.right.name := by
    simp [chosenName, taken.rightTable, taken.rightKnown]
  unfold Join.defect?
  simp only [taken.isComplete, taken.isSelected, taken.sides_ne, leftName, rightName,
    tracks.mem_iff taken, Bool.not_true, Bool.false_eq_true, if_false, Bool.and_eq_true,
    decide_eq_true_eq]

end TracksPairs

/-! ### All joins of a query -/

/-- The defects of the joins, given those that stand before all of them. -/
def joinDefects (tables : List Table) (policy : DuplicateJoinPolicy) (earlier joins : List Join) :
    List QueryFault :=
  (withEarlier earlier joins).filterMap (fun entry => entry.2.defect? tables policy entry.1)

/-- The joins without a defect, given those that stand before all of them. -/
def soundJoins (tables : List Table) (policy : DuplicateJoinPolicy) (earlier joins : List Join) :
    List Join :=
  ((withEarlier earlier joins).filter
    (fun entry => (entry.2.defect? tables policy entry.1).isNone)).map Prod.snd

theorem joinDefects_cons (join : Join) (joins : List Join) :
    joinDefects tables policy earlier (join :: joins) =
      (join.defect? tables policy earlier).toList ++
        joinDefects tables policy (earlier ++ [join]) joins := by
  rw [joinDefects, withEarlier, List.filterMap_cons]
  cases join.defect? tables policy earlier <;> rfl

theorem soundJoins_cons_of_none {joins : List Join}
    (sound : join.defect? tables policy earlier = none) :
    soundJoins tables policy earlier (join :: joins) =
      join :: soundJoins tables policy (earlier ++ [join]) joins := by
  rw [soundJoins, withEarlier, List.filter_cons_of_pos (by simp [sound])]
  rfl

theorem soundJoins_cons_of_some {joins : List Join} {fault : QueryFault}
    (defect : join.defect? tables policy earlier = some fault) :
    soundJoins tables policy earlier (join :: joins) =
      soundJoins tables policy (earlier ++ [join]) joins := by
  rw [soundJoins, withEarlier, List.filter_cons_of_neg (by simp [defect])]
  rfl

namespace AcceptedJoins

/-- There is one fault for each join with a defect, and the others are accepted. -/
theorem ofJoins_eq_defects (tracks : TracksPairs tables earlier pairs) (joins : List Join) :
    (ofJoins tables policy earlier.length pairs joins).faults =
        joinDefects tables policy earlier joins ∧
      List.Forall₂ (Join.AcceptedAs tables) (soundJoins tables policy earlier joins)
        (ofJoins tables policy earlier.length pairs joins).joins := by
  induction joins generalizing earlier pairs with
  | nil => exact ⟨rfl, .nil⟩
  | cons join joins induct =>
    have length : earlier.length + 1 = (earlier ++ [join]).length := by simp
    cases taken : join.accept tables (earlier.length + 1) with
    | error fault =>
      have defect : join.defect? tables policy earlier = some fault :=
        Join.defect?_of_accept_eq_error taken
      have unusable : join.isUsable tables = false := Join.isUsable_of_accept_eq_error taken
      -- a join that is refused still counts for the numbers of the later ones, but has no pair
      obtain ⟨faults, kept⟩ := induct (tracks.skip unusable)
      rw [ofJoins, taken, length, joinDefects_cons, defect, soundJoins_cons_of_some defect]
      exact ⟨congrArg (fault :: ·) faults, kept⟩
    | ok accepted =>
      have found := Join.accept_eq_ok_iff.mp taken
      have defect := tracks.defect?_eq policy found
      -- the pair is seen from here on, whether or not this join repeats an earlier one
      obtain ⟨faults, kept⟩ := induct (tracks.take found)
      rw [ofJoins_cons taken, joinDefects_cons, defect, length]
      by_cases repeated : policy = .reject ∧ accepted.pair ∈ pairs
      · rw [if_pos repeated] at defect
        rw [soundJoins_cons_of_some defect]
        simp only [if_pos repeated]
        exact ⟨congrArg (_ :: ·) faults, kept⟩
      · rw [if_neg repeated] at defect
        rw [soundJoins_cons_of_none defect]
        simp only [if_neg repeated]
        exact ⟨faults, .cons found kept⟩

end AcceptedJoins

end QueryComposer
