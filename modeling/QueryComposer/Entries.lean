set_option autoImplicit false

/-!
Values under names, at most one under each, in the order in which the names came up.
-/

namespace QueryComposer

/-- Values under names. -/
abbrev Entries (α : Type) := List (String × α)

namespace Entries

/-- The value under a name. -/
def get? {α : Type} (entries : Entries α) (name : String) : Option α :=
  List.lookup name entries

/-- The entries with a value under a name, in the place of an earlier one or at the end. -/
def set {α : Type} (name : String) (value : α) : Entries α → Entries α
  | [] => [(name, value)]
  | (other, old) :: entries =>
    if other = name then (name, value) :: entries else (other, old) :: set name value entries

/-- The entries without the one under a name. -/
def erase {α : Type} (name : String) (entries : Entries α) : Entries α :=
  entries.filter (fun entry => entry.1 ≠ name)

/-- The entries of a list in which later values replace earlier ones under the same name. -/
def ofList {α : Type} (items : List (String × α)) : Entries α :=
  items.foldl (fun entries item => entries.set item.1 item.2) []

section Lookup

variable {α : Type}

theorem get?_cons (name other : String) (value : α) (entries : Entries α) :
    get? ((name, value) :: entries) other =
      if other = name then some value else entries.get? other := by
  unfold get?
  rw [List.lookup_cons]
  by_cases same : other = name
  · simp [same]
  · simp [same, beq_false_of_ne same]

theorem get?_set (name other : String) (value : α) (entries : Entries α) :
    (entries.set name value).get? other =
      if other = name then some value else entries.get? other := by
  induction entries with
  | nil => rw [set, get?_cons]
  | cons entry entries inner =>
    obtain ⟨first, old⟩ := entry
    rw [set, get?_cons]
    split
    · rename_i here
      subst here
      rw [get?_cons]
      split <;> rfl
    · rename_i elsewhere
      rw [get?_cons, inner]
      by_cases same : other = first
      · subst same
        rw [if_pos rfl, if_neg elsewhere, if_pos rfl]
      · rw [if_neg same, if_neg same]

/-- Under each name there is the last value of the list. -/
theorem get?_ofList (items : List (String × α)) (name : String) :
    (ofList items).get? name = List.lookup name items.reverse := by
  -- by induction on the list, for whatever the items before it left
  have further : ∀ entries : Entries α,
      (items.foldl (fun entries item => entries.set item.1 item.2) entries).get? name =
        (List.lookup name items.reverse).or (entries.get? name) := by
    induction items with
    | nil => exact fun entries => rfl
    | cons item items inner =>
      intro entries
      have alone : (if name = item.1 then some item.2 else entries.get? name) =
          (get? [item] name).or (entries.get? name) := by
        rw [get?_cons]
        split <;> rfl
      rw [List.foldl_cons, inner, get?_set, alone, List.reverse_cons, List.lookup_append,
        Option.or_assoc]
      rfl
  rw [ofList, further []]
  exact Option.or_none

theorem get?_ofList_of_mem {items : List (String × α)} {name : String} {value : α}
    (distinct : (items.map Prod.fst).Nodup) (listed : (name, value) ∈ items) :
    (ofList items).get? name = some value := by
  obtain ⟨before, after, rfl⟩ := List.append_of_mem listed
  rw [get?_ofList, List.lookup_eq_some_iff]
  refine ⟨after.reverse, before.reverse, by simp, ?_⟩
  intro other later
  rw [List.map_append, List.map_cons, List.nodup_append] at distinct
  have absent := (List.nodup_cons.mp distinct.2.1).1
  rw [bne_iff_ne]
  intro same
  have repeated : other.1 ∈ after.map Prod.fst :=
    List.mem_map_of_mem (List.mem_reverse.mp later)
  exact absent (same ▸ repeated)

theorem set_ne_nil (name : String) (value : α) (entries : Entries α) :
    entries.set name value ≠ [] := by
  cases entries with
  | nil => exact List.cons_ne_nil _ _
  | cons entry entries =>
    rw [set]
    split <;> exact List.cons_ne_nil _ _

theorem ofList_eq_nil_iff {items : List (String × α)} : ofList items = [] ↔ items = [] := by
  constructor
  · intro nothing
    -- a last item would have left an entry
    rcases List.eq_nil_or_concat items with rfl | ⟨before, last, rfl⟩
    · rfl
    · rw [List.concat_eq_append, ofList, List.foldl_append] at nothing
      exact absurd nothing (set_ne_nil _ _ _)
  · rintro rfl
    rfl

end Lookup

end Entries

end QueryComposer
