import QueryComposer.Proofs.Change.Basic

set_option autoImplicit false

/-!
Conditions that come from others by edits: of a comparison, of the members of a group, and of a
group at the end of a path. An edit brings no comparison in that is not new, changed by a patch or
among those that were there, so that what holds of a new comparison and is kept by patches holds of
every comparison of an edited condition.
-/

namespace QueryComposer

/-! ### Comparisons of members -/

namespace Condition

theorem leavesOf_eq_flatMap (members : List Condition) :
    leavesOf members = members.flatMap leaves := by
  induction members with
  | nil => rfl
  | cons member members induct => rw [leavesOf, induct, List.flatMap_cons]

end Condition

namespace ConditionGroup

variable {group changed inner : ConditionGroup} {comparison : Comparison}

theorem mem_leaves_iff :
    comparison ∈ group.leaves ↔ ∃ member ∈ group.members, comparison ∈ member.leaves := by
  rw [leaves, Condition.leavesOf_eq_flatMap, List.mem_flatMap]

theorem memberAt_eq_ok {index : Nat} {member : Condition}
    (found : group.memberAt index = .ok member) : group.members[index]? = some member := by
  unfold memberAt at found
  split at found
  · rename_i here
    cases found
    exact here
  · contradiction

theorem groupMemberAt_eq_ok {index : Nat} (found : group.groupMemberAt index = .ok inner) :
    group.members[index]? = some (.group inner.logic inner.members) := by
  unfold groupMemberAt at found
  split at found
  · rename_i here
    cases found
    exact memberAt_eq_ok here
  · contradiction
  · contradiction

theorem leafMemberAt_eq_ok {index : Nat} (found : group.leafMemberAt index = .ok comparison) :
    group.members[index]? = some (.leaf comparison) := by
  unfold leafMemberAt at found
  split at found
  · rename_i here
    cases found
    exact memberAt_eq_ok here
  · contradiction
  · contradiction

/-! ### What each edit brings in -/

theorem mem_leaves_add {member : Condition} (listed : comparison ∈ (group.add member).leaves) :
    comparison ∈ member.leaves ∨ comparison ∈ group.leaves := by
  obtain ⟨other, present, held⟩ := mem_leaves_iff.mp listed
  rcases List.mem_append.mp present with before | last
  · exact Or.inr (mem_leaves_iff.mpr ⟨other, before, held⟩)
  · cases List.mem_singleton.mp last
    exact Or.inl held

theorem mem_leaves_replaceAt {index : Nat} {member : Condition}
    (listed : comparison ∈ (group.replaceAt index member).leaves) :
    comparison ∈ member.leaves ∨ comparison ∈ group.leaves := by
  obtain ⟨other, present, held⟩ := mem_leaves_iff.mp listed
  rcases List.mem_or_eq_of_mem_set present with kept | rfl
  · exact Or.inr (mem_leaves_iff.mpr ⟨other, kept, held⟩)
  · exact Or.inl held

theorem mem_leaves_removeAt {index : Nat} (removed : group.removeAt index = .ok changed)
    (listed : comparison ∈ changed.leaves) : comparison ∈ group.leaves := by
  obtain ⟨_, _, rfl⟩ := Except.map_eq_ok removed
  obtain ⟨other, present, held⟩ := mem_leaves_iff.mp listed
  exact mem_leaves_iff.mpr ⟨other, List.mem_of_mem_eraseIdx present, held⟩

theorem mem_leaves_updateLeaf {index : Nat} {patch : ComparisonPatch}
    (updated : group.updateLeaf index patch = .ok changed) (listed : comparison ∈ changed.leaves) :
    (∃ before ∈ group.leaves, before.apply patch = .ok comparison) ∨
      comparison ∈ group.leaves := by
  unfold updateLeaf at updated
  split at updated
  · contradiction
  · rename_i before found
    obtain ⟨after, patched, rfl⟩ := Except.map_eq_ok updated
    refine (mem_leaves_replaceAt listed).imp_left (fun new => ?_)
    cases List.mem_singleton.mp new
    have held := List.mem_of_getElem? (leafMemberAt_eq_ok found)
    exact ⟨before, mem_leaves_iff.mpr ⟨_, held, List.mem_cons_self⟩, patched⟩

theorem mem_leaves_updateGroup {index : Nat} {replacement : ConditionGroup}
    (updated : group.updateGroup index replacement = .ok changed)
    (listed : comparison ∈ changed.leaves) :
    comparison ∈ replacement.leaves ∨ comparison ∈ group.leaves := by
  obtain ⟨_, _, rfl⟩ := Except.map_eq_ok updated
  exact mem_leaves_replaceAt listed

/-- The group at the end of a path has no comparisons besides those of the whole. -/
theorem mem_leaves_groupAt? {path : List Nat} (found : group.groupAt? path = some inner)
    (listed : comparison ∈ inner.leaves) : comparison ∈ group.leaves := by
  induction path generalizing group with
  | nil =>
    cases found
    exact listed
  | cons index path induct =>
    rw [groupAt?] at found
    split at found
    · rename_i logic members here
      exact mem_leaves_iff.mpr ⟨_, List.mem_of_getElem? here, induct found⟩
    · contradiction

/-- An edit at the end of a path is made to the group there. -/
theorem updateAt_split {path : List Nat} {edit : ConditionGroup → Except Error ConditionGroup}
    (updated : group.updateAt path edit = .ok changed) :
    ∃ inner made, group.groupAt? path = some inner ∧ edit inner = .ok made ∧
      ∀ comparison ∈ changed.leaves, comparison ∈ made.leaves ∨ comparison ∈ group.leaves := by
  induction path generalizing group changed with
  | nil => exact ⟨group, changed, rfl, updated, fun comparison listed => Or.inl listed⟩
  | cons index path induct =>
    rw [updateAt] at updated
    split at updated
    · contradiction
    · rename_i next found
      split at updated
      · contradiction
      · rename_i nextChanged nested
        have here := groupMemberAt_eq_ok found
        obtain ⟨inner, made, reached, edited, known⟩ := induct nested
        refine ⟨inner, made, by rw [groupAt?, here]; exact reached, edited, ?_⟩
        intro comparison listed
        rcases mem_leaves_updateGroup updated listed with new | kept
        · refine (known comparison new).imp_right (fun old => ?_)
          exact mem_leaves_iff.mpr ⟨_, List.mem_of_getElem? here, old⟩
        · exact Or.inr kept

/-! ### Any number of edits -/

/-- The second group comes from the first by edits, one after the other. A group that takes the
place of another is made by edits from an empty one, and what is done at the end of a path are edits
of the group there. -/
inductive Edited : ConditionGroup → ConditionGroup → Prop
  | unchanged (group : ConditionGroup) : Edited group group
  | addLeaf {start group : ConditionGroup} (edited : Edited start group) :
    Edited start group.addLeaf
  | addGroup {start group : ConditionGroup} (edited : Edited start group) :
    Edited start group.addGroup
  | removeAt {start group changed : ConditionGroup} (edited : Edited start group) (index : Nat)
    (done : group.removeAt index = .ok changed) : Edited start changed
  | withLogic {start group : ConditionGroup} (edited : Edited start group) (logic : Logic) :
    Edited start (group.withLogic logic)
  | updateLeaf {start group changed : ConditionGroup} (edited : Edited start group) (index : Nat)
    (patch : ComparisonPatch) (done : group.updateLeaf index patch = .ok changed) :
    Edited start changed
  | updateGroup {start group changed replacement : ConditionGroup} (edited : Edited start group)
    (index : Nat) (made : Edited {} replacement)
    (done : group.updateGroup index replacement = .ok changed) : Edited start changed
  | updateAt {start group changed inner made : ConditionGroup} (edited : Edited start group)
    (path : List Nat) (edit : ConditionGroup → Except Error ConditionGroup)
    (reached : group.groupAt? path = some inner) (gives : edit inner = .ok made)
    (nested : Edited inner made) (done : group.updateAt path edit = .ok changed) :
    Edited start changed

/-- What holds of a new comparison and is kept by patches is kept by edits. -/
theorem Edited.forall_leaves {property : Comparison → Prop} (new : property {})
    (patched : ∀ before patch after, property before → before.apply patch = .ok after →
      property after)
    {start group : ConditionGroup} (edited : Edited start group)
    (held : ∀ comparison ∈ start.leaves, property comparison) :
    ∀ comparison ∈ group.leaves, property comparison := by
  -- a replacement and the edits at the end of a path are runs of their own, so that each of them
  -- has a hypothesis: the one starts from no comparisons, the other from some of the group's
  induction edited with
  | unchanged => exact held
  | addLeaf _ induct =>
    intro comparison listed
    rcases mem_leaves_add listed with added | kept
    · cases List.mem_singleton.mp added
      exact new
    · exact induct held comparison kept
  | addGroup _ induct =>
    intro comparison listed
    rcases mem_leaves_add listed with added | kept
    · contradiction
    · exact induct held comparison kept
  | removeAt _ index done induct =>
    intro comparison listed
    exact induct held comparison (mem_leaves_removeAt done listed)
  | withLogic _ logic induct => exact induct held
  | updateLeaf _ index patch done induct =>
    intro comparison listed
    rcases mem_leaves_updateLeaf done listed with ⟨before, present, changed⟩ | kept
    · exact patched before patch comparison (induct held before present) changed
    · exact induct held comparison kept
  | updateGroup _ index _ done induct replaced =>
    intro comparison listed
    rcases mem_leaves_updateGroup done listed with put | kept
    · exact replaced (fun _ none => by contradiction) comparison put
    · exact induct held comparison kept
  | updateAt _ path edit reached gives _ done induct nested =>
    intro comparison listed
    obtain ⟨inner, made, found, done, known⟩ := updateAt_split done
    cases reached.symm.trans found
    cases gives.symm.trans done
    rcases known comparison listed with put | kept
    · exact nested (fun other there => induct held other (mem_leaves_groupAt? reached there))
        comparison put
    · exact induct held comparison kept

end ConditionGroup

end QueryComposer
