import QueryComposer.Proofs.Condition.Edited

set_option autoImplicit false

/-!
Edits of a group at the end of a path. Where the path leads to a group, the edit decides whether
there is a change, and the change is to that group and to nothing beside the path. Where it does
not, the failure names the first index that is no group's, whatever the edit would have done.
-/

namespace QueryComposer

namespace ConditionGroup

variable {group changed inner made : ConditionGroup} {path : List Nat} {index : Nat}

/-! ### Members that are groups -/

theorem groupMemberAt_eq_ok_iff :
    group.groupMemberAt index = .ok inner ↔ group.members[index]? = some inner.toCondition := by
  constructor
  · exact groupMemberAt_eq_ok
  · intro here
    unfold groupMemberAt memberAt
    rw [here]
    rfl

theorem kind_of_groupMemberAt {error : Error} (failed : group.groupMemberAt index = .error error) :
    error.kind = .unknownCondition := by
  unfold groupMemberAt memberAt at failed
  cases here : group.members[index]? with
  | none =>
    rw [here] at failed
    cases failed
    rfl
  | some member =>
    rw [here] at failed
    cases member with
    | leaf comparison =>
      cases failed
      rfl
    | group logic members => contradiction

/-! ### Paths -/

theorem groupAt?_cons_of_ok (found : group.groupMemberAt index = .ok inner) (path : List Nat) :
    group.groupAt? (index :: path) = inner.groupAt? path := by
  rw [groupAt?, groupMemberAt_eq_ok_iff.mp found]
  rfl

theorem groupAt?_cons_of_error {error : Error} (failed : group.groupMemberAt index = .error error)
    (path : List Nat) : group.groupAt? (index :: path) = none := by
  rw [groupAt?]
  split
  · rename_i logic members here
    have found : group.groupMemberAt index = .ok ⟨logic, members⟩ :=
      groupMemberAt_eq_ok_iff.mpr here
    rw [found] at failed
    contradiction
  · rfl

/-! ### Another group at the end of a path -/

/-- The group with another one at the end of a path, if the path leads to a group. -/
def placeAt (group : ConditionGroup) (path : List Nat) (made : ConditionGroup) : ConditionGroup :=
  match path with
  | [] => made
  | index :: path =>
    match group.groupMemberAt index with
    | .error _ => group
    | .ok inner => group.replaceAt index (placeAt inner path made).toCondition

theorem placeAt_cons_of_ok (found : group.groupMemberAt index = .ok inner) (path : List Nat)
    (made : ConditionGroup) :
    group.placeAt (index :: path) made =
      group.replaceAt index (inner.placeAt path made).toCondition := by
  rw [placeAt, found]

theorem updateAt_cons_of_ok (found : group.groupMemberAt index = .ok inner) (path : List Nat)
    (edit : ConditionGroup → Except Error ConditionGroup) :
    group.updateAt (index :: path) edit =
      (inner.updateAt path edit).map (fun made => group.replaceAt index made.toCondition) := by
  rw [updateAt, found]
  dsimp only
  cases inner.updateAt path edit with
  | error error => rfl
  | ok made =>
    dsimp only
    rw [updateGroup, found]
    rfl

/-- An edit is made to the group at the end of the path, and what it makes is put there. -/
theorem updateAt_of_groupAt? (reached : group.groupAt? path = some inner)
    (edit : ConditionGroup → Except Error ConditionGroup) :
    group.updateAt path edit = (edit inner).map (group.placeAt path) := by
  induction path generalizing group with
  | nil =>
    cases reached
    rw [updateAt]
    cases edit inner <;> rfl
  | cons index path induct =>
    cases next : group.groupMemberAt index with
    | error error =>
      rw [groupAt?_cons_of_error next] at reached
      contradiction
    | ok child =>
      rw [groupAt?_cons_of_ok next] at reached
      rw [updateAt_cons_of_ok next, induct reached]
      cases edit inner with
      | error error => rfl
      | ok made =>
        simp only [Except.map]
        rw [placeAt_cons_of_ok next]

/-- A path that leads to no group leaves the groups at one of its indexes, and every edit at its end
fails there. -/
theorem updateAt_of_groupAt?_eq_none (missing : group.groupAt? path = none) :
    ∃ before index after outer error, path = before ++ index :: after ∧
      group.groupAt? before = some outer ∧ outer.groupMemberAt index = .error error ∧
      ∀ edit, group.updateAt path edit = .error error := by
  induction path generalizing group with
  | nil => contradiction
  | cons index path induct =>
    cases next : group.groupMemberAt index with
    | error error =>
      refine ⟨[], index, path, group, error, rfl, rfl, next, fun edit => ?_⟩
      rw [updateAt, next]
    | ok inner =>
      rw [groupAt?_cons_of_ok next] at missing
      obtain ⟨before, place, after, outer, error, rfl, reached, failed, stops⟩ := induct missing
      refine ⟨index :: before, place, after, outer, error, rfl, ?_, failed, fun edit => ?_⟩
      · rw [groupAt?_cons_of_ok next]
        exact reached
      · rw [updateAt_cons_of_ok next, stops]
        rfl

/-! ### What changes -/

/-- The two groups are the same but for the member at an index. -/
structure SameBut (index : Nat) (group changed : ConditionGroup) : Prop where
  logic : changed.logic = group.logic
  length : changed.members.length = group.members.length
  others : ∀ other, other ≠ index → changed.members[other]? = group.members[other]?

/-- The group is changed at the end of a path and nowhere else: what the path leads to is another
group, and each group on the way there keeps its connective, the number of its members, and all
members but the next one on the path. -/
structure ChangedAt (group : ConditionGroup) (path : List Nat) (made changed : ConditionGroup) :
    Prop where
  target : ∀ rest, changed.groupAt? (path ++ rest) = made.groupAt? rest
  outside : ∀ before index after, path = before ++ index :: after →
    ∃ outer kept, group.groupAt? before = some outer ∧ changed.groupAt? before = some kept ∧
      SameBut index outer kept

theorem groupMemberAt_replaceAt (found : group.groupMemberAt index = .ok inner) :
    (group.replaceAt index made.toCondition).groupMemberAt index = .ok made := by
  have present := groupMemberAt_eq_ok_iff.mp found
  obtain ⟨bound, -⟩ := List.getElem?_eq_some_iff.mp present
  rw [groupMemberAt_eq_ok_iff, replaceAt, List.getElem?_set_self bound]

theorem sameBut_replaceAt (group : ConditionGroup) (index : Nat) (member : Condition) :
    SameBut index group (group.replaceAt index member) :=
  ⟨rfl, List.length_set, fun _ apart => List.getElem?_set_ne apart.symm⟩

theorem SameBut.unique {other : ConditionGroup} (first : SameBut index group changed)
    (second : SameBut index group other)
    (same : changed.members[index]? = other.members[index]?) : changed = other := by
  have members : changed.members = other.members := by
    apply List.ext_getElem?
    intro place
    by_cases here : place = index
    · rw [here, same]
    · rw [first.others place here, second.others place here]
  have logic := first.logic.trans second.logic.symm
  cases changed
  cases other
  cases logic
  cases members
  rfl

/-- A change at the end of a longer path is one of the member that the path goes on with. -/
theorem changedAt_cons_iff {child : ConditionGroup} (next : group.groupMemberAt index = .ok child) :
    group.ChangedAt (index :: path) made changed ↔
      SameBut index group changed ∧
        ∃ member, changed.groupMemberAt index = .ok member ∧ child.ChangedAt path made member := by
  constructor
  · rintro ⟨target, outside⟩
    -- the empty start of the path is about the group itself, every longer one about the member
    obtain ⟨_, _, there, here, same⟩ := outside [] index path rfl
    cases there
    cases here
    refine ⟨same, ?_⟩
    cases found : changed.groupMemberAt index with
    | error error =>
      have reached := target []
      rw [List.append_nil, groupAt?_cons_of_error found] at reached
      contradiction
    | ok member =>
      refine ⟨member, rfl, fun rest => ?_, fun before place after split => ?_⟩
      · rw [← target, List.cons_append, groupAt?_cons_of_ok found]
      · have deeper := outside (index :: before) place after (by rw [split]; rfl)
        rw [groupAt?_cons_of_ok next, groupAt?_cons_of_ok found] at deeper
        exact deeper
  · rintro ⟨same, member, found, target, outside⟩
    refine ⟨fun rest => ?_, fun before place after split => ?_⟩
    · rw [List.cons_append, groupAt?_cons_of_ok found, target]
    · cases before with
      | nil =>
        cases split
        exact ⟨group, changed, rfl, rfl, same⟩
      | cons first before =>
        cases split
        rw [groupAt?_cons_of_ok next, groupAt?_cons_of_ok found]
        exact outside before place after rfl

theorem changedAt_nil_iff : group.ChangedAt [] made changed ↔ changed = made := by
  constructor
  · intro change
    exact Option.some.inj (change.target [])
  · rintro rfl
    exact ⟨fun rest => rfl, fun before index after split => by simp at split⟩

/-- There is one group that is changed so at the end of a path, and it is the one with the other
group there. -/
theorem changedAt_iff (reached : group.groupAt? path = some inner) :
    group.ChangedAt path made changed ↔ changed = group.placeAt path made := by
  induction path generalizing group changed with
  | nil => exact changedAt_nil_iff
  | cons index path induct =>
    cases next : group.groupMemberAt index with
    | error error =>
      rw [groupAt?_cons_of_error next] at reached
      contradiction
    | ok child =>
      rw [groupAt?_cons_of_ok next] at reached
      have placed : (group.replaceAt index (child.placeAt path made).toCondition).groupMemberAt
          index = .ok (child.placeAt path made) := groupMemberAt_replaceAt next
      have kept := sameBut_replaceAt group index (child.placeAt path made).toCondition
      rw [changedAt_cons_iff next, placeAt_cons_of_ok next]
      constructor
      · -- the member is determined by the rest of the path, all others by the group
        rintro ⟨same, member, found, change⟩
        cases (induct reached).mp change
        refine same.unique kept ?_
        rw [groupMemberAt_eq_ok_iff.mp found, groupMemberAt_eq_ok_iff.mp placed]
      · rintro rfl
        exact ⟨kept, child.placeAt path made, placed, (induct reached).mpr rfl⟩

/-! ### Edits -/

variable {edit : ConditionGroup → Except Error ConditionGroup}

theorem updateAt_eq_ok_iff :
    group.updateAt path edit = .ok changed ↔
      ∃ inner made, group.groupAt? path = some inner ∧ edit inner = .ok made ∧
        group.ChangedAt path made changed := by
  constructor
  · intro done
    cases reached : group.groupAt? path with
    | none =>
      obtain ⟨_, _, _, _, _, _, _, _, stops⟩ := updateAt_of_groupAt?_eq_none reached
      rw [stops] at done
      contradiction
    | some inner =>
      rw [updateAt_of_groupAt? reached] at done
      obtain ⟨made, given, placed⟩ := Except.map_eq_ok done
      exact ⟨inner, made, rfl, given, (changedAt_iff reached).mpr placed.symm⟩
  · rintro ⟨inner, made, reached, given, change⟩
    rw [updateAt_of_groupAt? reached, given, (changedAt_iff reached).mp change]
    rfl

theorem exists_updateAt_eq_ok_iff :
    (∃ changed, group.updateAt path edit = .ok changed) ↔
      ∃ inner made, group.groupAt? path = some inner ∧ edit inner = .ok made := by
  constructor
  · rintro ⟨changed, done⟩
    obtain ⟨inner, made, reached, given, _⟩ := updateAt_eq_ok_iff.mp done
    exact ⟨inner, made, reached, given⟩
  · rintro ⟨inner, made, reached, given⟩
    exact ⟨group.placeAt path made,
      updateAt_eq_ok_iff.mpr ⟨inner, made, reached, given, (changedAt_iff reached).mpr rfl⟩⟩

theorem updateAt_eq_error_iff (reached : group.groupAt? path = some inner) {error : Error} :
    group.updateAt path edit = .error error ↔ edit inner = .error error := by
  rw [updateAt_of_groupAt? reached]
  cases edit inner with
  | error cause => exact Iff.rfl
  | ok made => exact iff_of_false nofun nofun

/-- An edit at the end of a path succeeds exactly when the path leads to a group and the edit
succeeds there, and then that group is what the edit made of it and nothing else has changed. When
the path leads to a group the only failure is the edit's own. When it does not, every edit fails
with the same failure, that of the first index on the path that is no group's. -/
theorem updateAt_edits_target (group : ConditionGroup) (path : List Nat) :
    (∀ edit changed, group.updateAt path edit = .ok changed ↔
      ∃ inner made, group.groupAt? path = some inner ∧ edit inner = .ok made ∧
        group.ChangedAt path made changed) ∧
    (∀ edit, (∃ changed, group.updateAt path edit = .ok changed) ↔
      ∃ inner made, group.groupAt? path = some inner ∧ edit inner = .ok made) ∧
    (∀ inner, group.groupAt? path = some inner → ∀ edit error,
      group.updateAt path edit = .error error ↔ edit inner = .error error) ∧
    (group.groupAt? path = none →
      ∃ before index after outer error, path = before ++ index :: after ∧
        group.groupAt? before = some outer ∧ outer.groupMemberAt index = .error error ∧
        error.kind = .unknownCondition ∧ ∀ edit, group.updateAt path edit = .error error) := by
  refine ⟨fun edit changed => updateAt_eq_ok_iff, fun edit => exists_updateAt_eq_ok_iff,
    fun inner reached edit error => updateAt_eq_error_iff reached, fun missing => ?_⟩
  obtain ⟨before, index, after, outer, error, split, there, failed, stops⟩ :=
    updateAt_of_groupAt?_eq_none missing
  exact ⟨before, index, after, outer, error, split, there, failed, kind_of_groupMemberAt failed,
    stops⟩

/-- A comparison beside a group that holds a group. -/
def twoLevels : ConditionGroup :=
  { members := [.leaf {}, .group .or [.group .and [], .leaf {}]] }

/-- An edit of the inner group, one that fails there, and one that finds no group. -/
theorem twoLevels_edited :
    (twoLevels.updateAt [1, 0] (fun group => .ok group.addLeaf) =
        .ok { members := [.leaf {}, .group .or [.group .and [.leaf {}], .leaf {}]] } ∧
      twoLevels.ChangedAt [1, 0] { members := [.leaf {}] }
        { members := [.leaf {}, .group .or [.group .and [.leaf {}], .leaf {}]] }) ∧
    twoLevels.updateAt [1, 0] (fun group => group.removeAt 3) =
      .error (.conditionOutOfRange 3 0) ∧
    ∀ edit, twoLevels.updateAt [1, 1, 2] edit = .error (.conditionNotGroup 1) := by
  obtain ⟨succeeds, -, fails, -⟩ := updateAt_edits_target twoLevels [1, 0]
  obtain ⟨-, -, -, stops⟩ := updateAt_edits_target twoLevels [1, 1, 2]
  have done : twoLevels.updateAt [1, 0] (fun group => .ok group.addLeaf) =
      .ok { members := [.leaf {}, .group .or [.group .and [.leaf {}], .leaf {}]] } := rfl
  obtain ⟨inner, made, reached, given, change⟩ := (succeeds _ _).mp done
  cases reached
  cases given
  refine ⟨⟨done, change⟩, (fails {} rfl _ _).mpr rfl, ?_⟩
  obtain ⟨_, _, _, _, error, _, _, _, _, same⟩ := stops rfl
  intro edit
  rw [same edit, ← same Except.ok]
  rfl

end ConditionGroup

end QueryComposer
