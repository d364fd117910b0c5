import Mathlib.Data.List.Nodup
import QueryComposer.Entries
import QueryComposer.Settings.Layer

set_option autoImplicit false

/-!
Values in whose objects the names are all different. What is read from a text becomes such a value
when only the last of members with the same name is kept, and nothing happens to one that is.
-/

namespace QueryComposer

namespace Entries

variable {α : Type} {entries : Entries α} {name : String} {value : α}

theorem mem_of_get? (found : entries.get? name = some value) : (name, value) ∈ entries := by
  obtain ⟨before, after, rfl, _⟩ := List.lookup_eq_some_iff.mp found
  exact List.mem_append_right _ List.mem_cons_self

theorem get?_eq_none_iff : entries.get? name = none ↔ name ∉ entries.map Prod.fst := by
  rw [get?, List.lookup_eq_none_iff, List.mem_map]
  simp only [bne_iff_ne, not_exists, not_and]
  exact ⟨fun others entry listed same => others entry listed same.symm,
    fun absent entry listed same => absent entry listed same.symm⟩

theorem get?_of_mem (distinct : (entries.map Prod.fst).Nodup) (listed : (name, value) ∈ entries) :
    entries.get? name = some value := by
  cases found : entries.get? name with
  | none => exact absurd (List.mem_map_of_mem listed) (get?_eq_none_iff.mp found)
  | some other =>
    cases List.inj_on_of_nodup_map distinct (mem_of_get? found) listed rfl
    rfl

end Entries

namespace Json

mutual

/-- In every object of the value the names are all different. -/
def DistinctNames : Json → Prop
  | .array items => ItemsDistinctNames items
  | .object members => (members.map Prod.fst).Nodup ∧ MembersDistinctNames members
  | _ => True

/-- The same for all items of an array. -/
def ItemsDistinctNames : List Json → Prop
  | [] => True
  | item :: items => DistinctNames item ∧ ItemsDistinctNames items

/-- The same for the values of all members of an object. -/
def MembersDistinctNames : List (String × Json) → Prop
  | [] => True
  | (_, value) :: members => DistinctNames value ∧ MembersDistinctNames members

end

theorem itemsDistinctNames_iff (items : List Json) :
    ItemsDistinctNames items ↔ ∀ item ∈ items, item.DistinctNames := by
  induction items with
  | nil => simp [ItemsDistinctNames]
  | cons item items inner => simp [ItemsDistinctNames, inner]

theorem membersDistinctNames_iff (members : List (String × Json)) :
    MembersDistinctNames members ↔ ∀ member ∈ members, member.2.DistinctNames := by
  induction members with
  | nil => simp [MembersDistinctNames]
  | cons member members inner => simp [MembersDistinctNames, inner]

@[simp] theorem distinctNames_array_iff (items : List Json) :
    DistinctNames (.array items) ↔ ∀ item ∈ items, item.DistinctNames := by
  rw [DistinctNames, itemsDistinctNames_iff]

@[simp] theorem distinctNames_object_iff (members : List (String × Json)) :
    DistinctNames (.object members) ↔
      (members.map Prod.fst).Nodup ∧ ∀ member ∈ members, member.2.DistinctNames := by
  rw [DistinctNames, membersDistinctNames_iff]

theorem distinctNames_ofBinary64 (number : Number.Binary64) :
    (ofBinary64 number).DistinctNames := by
  unfold ofBinary64
  split <;> trivial

/-! ### The last of members with the same name -/

theorem mem_names_settledMembers {members : List (String × Json)} {name : String} :
    name ∈ (settledMembers members).map Prod.fst ↔ name ∈ members.map Prod.fst := by
  induction members with
  | nil => rfl
  | cons member members inner =>
    obtain ⟨first, value⟩ := member
    rw [settledMembers, List.map_cons, List.mem_cons]
    split
    · rename_i later
      obtain ⟨other, listed, same⟩ := List.any_eq_true.mp later
      rw [inner]
      refine ⟨Or.inr, ?_⟩
      rintro (rfl | listed)
      · exact of_decide_eq_true same ▸ List.mem_map_of_mem listed
      · exact listed
    · rw [List.map_cons, List.mem_cons, inner]

theorem nodup_names_settledMembers (members : List (String × Json)) :
    ((settledMembers members).map Prod.fst).Nodup := by
  induction members with
  | nil => exact List.nodup_nil
  | cons member members inner =>
    obtain ⟨first, value⟩ := member
    rw [settledMembers]
    split
    · exact inner
    · rename_i new
      rw [List.map_cons, List.nodup_cons, mem_names_settledMembers]
      refine ⟨?_, inner⟩
      intro listed
      obtain ⟨other, present, same⟩ := List.mem_map.mp listed
      exact new (List.any_eq_true.mpr ⟨other, present, decide_eq_true same⟩)

mutual

theorem distinctNames_settled (value : Json) : value.settled.DistinctNames := by
  cases value with
  | array items => exact itemsDistinctNames_settledItems items
  | object members =>
    exact ⟨nodup_names_settledMembers members, membersDistinctNames_settledMembers members⟩
  | _ => trivial

theorem itemsDistinctNames_settledItems (items : List Json) :
    ItemsDistinctNames (settledItems items) := by
  cases items with
  | nil => trivial
  | cons item items =>
    exact ⟨distinctNames_settled item, itemsDistinctNames_settledItems items⟩

theorem membersDistinctNames_settledMembers (members : List (String × Json)) :
    MembersDistinctNames (settledMembers members) := by
  match members with
  | [] => trivial
  | (name, value) :: members =>
    rw [settledMembers]
    split
    · exact membersDistinctNames_settledMembers members
    · exact ⟨distinctNames_settled value, membersDistinctNames_settledMembers members⟩

end

mutual

theorem settled_eq_self (value : Json) (distinct : value.DistinctNames) :
    value.settled = value := by
  cases value with
  | array items => rw [settled, settledItems_eq_self items distinct]
  | object members => rw [settled, settledMembers_eq_self members distinct.1 distinct.2]
  | _ => rfl

theorem settledItems_eq_self (items : List Json) (distinct : ItemsDistinctNames items) :
    settledItems items = items := by
  cases items with
  | nil => rfl
  | cons item items =>
    rw [settledItems, settled_eq_self item distinct.1, settledItems_eq_self items distinct.2]

theorem settledMembers_eq_self (members : List (String × Json))
    (distinct : (members.map Prod.fst).Nodup) (within : MembersDistinctNames members) :
    settledMembers members = members := by
  match members, distinct, within with
  | [], _, _ => rfl
  | (name, value) :: members, distinct, within =>
    rw [List.map_cons, List.nodup_cons] at distinct
    have new : ¬members.any (fun member => member.1 = name) = true := by
      intro later
      obtain ⟨other, listed, same⟩ := List.any_eq_true.mp later
      have repeated : other.1 ∈ members.map Prod.fst := List.mem_map_of_mem listed
      rw [of_decide_eq_true same] at repeated
      exact distinct.1 repeated
    rw [settledMembers, if_neg new, settled_eq_self value within.1,
      settledMembers_eq_self members distinct.2 within.2]

end

end Json

end QueryComposer
