set_option autoImplicit false

/-!
Finding, taking and editing the first item of a list that meets a test.
-/

namespace QueryComposer

/-- The first item that meets the test, and the list without it. -/
def takeFirst? {α : Type} (meets : α → Bool) : List α → Option (α × List α)
  | [] => none
  | item :: items =>
    if meets item then some (item, items)
    else (takeFirst? meets items).map (fun (taken, rest) => (taken, item :: rest))

/-- Edit the first item that meets the test; without one, or when the edit fails, there is an
error. -/
def editFirst {α β ε : Type} (meets : α → Bool) (missing : ε) (edit : α → Except ε (β × α)) :
    List α → Except ε (β × List α)
  | [] => .error missing
  | item :: items =>
    if meets item then (edit item).map (fun (answer, edited) => (answer, edited :: items))
    else (editFirst meets missing edit items).map (fun (answer, rest) => (answer, item :: rest))

/-- Change the first item that meets the test, if there is one. -/
def modifyFirst {α : Type} (meets : α → Bool) (change : α → α) : List α → List α
  | [] => []
  | item :: items =>
    if meets item then change item :: items else item :: modifyFirst meets change items

/-- The first item that an earlier item equals in its key. -/
def firstRepeated? {α κ : Type} [DecidableEq κ] (key : α → κ) (seen : List κ) : List α → Option α
  | [] => none
  | item :: items =>
    if seen.contains (key item) then some item
    else firstRepeated? key (key item :: seen) items

/-- A list without the items whose key an earlier item has. -/
def distinctBy {α κ : Type} [DecidableEq κ] (key : α → κ) (seen : List κ) : List α → List α
  | [] => []
  | item :: items =>
    if seen.contains (key item) then distinctBy key seen items
    else item :: distinctBy key (key item :: seen) items

theorem takeFirst?_length {α : Type} {meets : α → Bool} {items rest : List α} {taken : α}
    (found : takeFirst? meets items = some (taken, rest)) : items.length = rest.length + 1 := by
  induction items generalizing rest with
  | nil => simp [takeFirst?] at found
  | cons item items inner =>
    simp only [takeFirst?] at found
    split at found
    · simp_all
    · simp only [Option.map_eq_some_iff, Prod.mk.injEq] at found
      obtain ⟨⟨_, tail⟩, inside, rfl, rfl⟩ := found
      simp [inner inside]

theorem takeFirst?_meets {α : Type} {meets : α → Bool} {items rest : List α} {taken : α}
    (found : takeFirst? meets items = some (taken, rest)) : meets taken = true := by
  induction items generalizing rest with
  | nil => simp [takeFirst?] at found
  | cons item items inner =>
    simp only [takeFirst?] at found
    split at found
    · simp_all
    · simp only [Option.map_eq_some_iff, Prod.mk.injEq] at found
      obtain ⟨⟨_, tail⟩, inside, rfl, rfl⟩ := found
      exact inner inside

theorem takeFirst?_split {α : Type} {meets : α → Bool} {items rest : List α} {taken : α}
    (found : takeFirst? meets items = some (taken, rest)) :
    ∃ before after, items = before ++ taken :: after ∧ rest = before ++ after ∧
      ∀ item ∈ before, meets item = false := by
  induction items generalizing rest with
  | nil => simp [takeFirst?] at found
  | cons item items inner =>
    simp only [takeFirst?] at found
    split at found
    · cases found
      exact ⟨[], items, rfl, rfl, by simp⟩
    · rename_i missed
      simp only [Option.map_eq_some_iff, Prod.mk.injEq] at found
      obtain ⟨⟨_, tail⟩, inside, rfl, rfl⟩ := found
      obtain ⟨before, after, rfl, rfl, skipped⟩ := inner inside
      refine ⟨item :: before, after, rfl, rfl, ?_⟩
      intro other member
      rcases List.mem_cons.mp member with rfl | earlier
      · simpa using missed
      · exact skipped other earlier

theorem isSome_takeFirst? {α : Type} (meets : α → Bool) (items : List α) :
    (takeFirst? meets items).isSome = items.any meets := by
  induction items with
  | nil => rfl
  | cons item items inner =>
    simp only [takeFirst?, List.any_cons]
    split <;> simp_all

theorem takeFirst?_eq_none_iff {α : Type} {meets : α → Bool} {items : List α} :
    takeFirst? meets items = none ↔ ∀ item ∈ items, meets item = false := by
  induction items with
  | nil => simp [takeFirst?]
  | cons item items inner =>
    simp only [takeFirst?]
    split <;> simp_all

theorem editFirst_split {α β ε : Type} {meets : α → Bool} {missing : ε}
    {edit : α → Except ε (β × α)} {items changed : List α} {answer : β}
    (found : editFirst meets missing edit items = .ok (answer, changed)) :
    ∃ before item edited after, items = before ++ item :: after ∧
      changed = before ++ edited :: after ∧ (∀ other ∈ before, meets other = false) ∧
      meets item = true ∧ edit item = .ok (answer, edited) := by
  induction items generalizing changed with
  | nil => contradiction
  | cons first items inner =>
    simp only [editFirst] at found
    split at found
    · rename_i met
      cases done : edit first with
      | error cause =>
        rw [done] at found
        contradiction
      | ok result =>
        rw [done] at found
        cases found
        exact ⟨[], first, result.2, items, rfl, rfl, by simp, met, done⟩
    · rename_i missed
      cases done : editFirst meets missing edit items with
      | error cause =>
        rw [done] at found
        contradiction
      | ok result =>
        rw [done] at found
        cases found
        obtain ⟨before, item, edited, after, rfl, split, skipped, met, made⟩ := inner done
        refine ⟨first :: before, item, edited, after, rfl, congrArg (first :: ·) split, ?_, met,
          made⟩
        intro other member
        rcases List.mem_cons.mp member with rfl | earlier
        · simpa using missed
        · exact skipped other earlier

theorem editFirst_skip {α β ε : Type} {meets : α → Bool} {missing : ε}
    {edit : α → Except ε (β × α)} {before : List α} (items : List α)
    (skipped : ∀ other ∈ before, meets other = false) :
    editFirst meets missing edit (before ++ items) =
      (editFirst meets missing edit items).map
        (fun (answer, changed) => (answer, before ++ changed)) := by
  induction before with
  | nil => cases done : editFirst meets missing edit items <;> simp [done, Except.map]
  | cons first before inner =>
    have missed := skipped first List.mem_cons_self
    rw [List.cons_append, editFirst, if_neg (by simp [missed]),
      inner (fun other member => skipped other (List.mem_cons_of_mem first member))]
    cases editFirst meets missing edit items <;> rfl

/-! ### Changes of the first item -/

section ModifyFirst

variable {α : Type} {meets : α → Bool} {item : α} {items : List α}

theorem modifyFirst_cons_of_pos (change : α → α) (met : meets item = true) :
    modifyFirst meets change (item :: items) = change item :: items :=
  if_pos met

theorem modifyFirst_cons_of_neg (change : α → α) (missed : ¬ meets item = true) :
    modifyFirst meets change (item :: items) = item :: modifyFirst meets change items :=
  if_neg missed

/-- A change only meets the first item there is. -/
theorem modifyFirst_of_find? (change : α → α) (found : items.find? meets = some item) :
    modifyFirst meets change items = modifyFirst meets (fun _ => change item) items := by
  induction items with
  | nil => rfl
  | cons first items inner =>
    by_cases met : meets first
    · rw [List.find?_cons_of_pos met] at found
      cases found
      rw [modifyFirst_cons_of_pos _ met, modifyFirst_cons_of_pos _ met]
    · rw [List.find?_cons_of_neg met] at found
      rw [modifyFirst_cons_of_neg _ met, modifyFirst_cons_of_neg _ met, inner found]

theorem modifyFirst_modifyFirst {change : α → α}
    (kept : ∀ item, meets item = true → meets (change item) = true) (other : α → α)
    (items : List α) :
    modifyFirst meets other (modifyFirst meets change items) =
      modifyFirst meets (fun item => other (change item)) items := by
  induction items with
  | nil => rfl
  | cons first items inner =>
    by_cases met : meets first
    · rw [modifyFirst_cons_of_pos _ met, modifyFirst_cons_of_pos _ met,
        modifyFirst_cons_of_pos _ (kept first met)]
    · rw [modifyFirst_cons_of_neg _ met, modifyFirst_cons_of_neg _ met,
        modifyFirst_cons_of_neg _ met, inner]

/-- To put back the item that was there is to change nothing. -/
theorem modifyFirst_eq_self (found : items.find? meets = some item) :
    modifyFirst meets (fun _ => item) items = items := by
  induction items with
  | nil => rfl
  | cons first items inner =>
    by_cases met : meets first
    · rw [List.find?_cons_of_pos met] at found
      cases found
      rw [modifyFirst_cons_of_pos _ met]
    · rw [List.find?_cons_of_neg met] at found
      rw [modifyFirst_cons_of_neg _ met, inner found]

/-- A change that leaves the first item one that is found, is a change of what is found. -/
theorem find?_modifyFirst {change : α → α}
    (kept : ∀ item, meets item = true → meets (change item) = true) (items : List α) :
    (modifyFirst meets change items).find? meets = (items.find? meets).map change := by
  induction items with
  | nil => rfl
  | cons first items inner =>
    by_cases met : meets first
    · rw [modifyFirst_cons_of_pos _ met, List.find?_cons_of_pos (kept first met),
        List.find?_cons_of_pos met]
      rfl
    · rw [modifyFirst_cons_of_neg _ met, List.find?_cons_of_neg met, List.find?_cons_of_neg met,
        inner]

/-- A search for other items than the changed one finds what it found. -/
theorem find?_modifyFirst_of_other {change : α → α} {other : α → Bool}
    (missed : ∀ item, meets item = true → other item = false ∧ other (change item) = false)
    (items : List α) : (modifyFirst meets change items).find? other = items.find? other := by
  induction items with
  | nil => rfl
  | cons first items inner =>
    by_cases met : meets first
    · obtain ⟨before, after⟩ := missed first met
      rw [modifyFirst_cons_of_pos _ met, List.find?_cons_of_neg (by simp [after]),
        List.find?_cons_of_neg (by simp [before])]
    · rw [modifyFirst_cons_of_neg _ met, List.find?_cons, List.find?_cons, inner]

theorem editFirst_of_find?_eq_none {β ε : Type} (missing : ε) (edit : α → Except ε (β × α))
    (found : items.find? meets = none) : editFirst meets missing edit items = .error missing := by
  induction items with
  | nil => rfl
  | cons first items inner =>
    have missed : ¬ meets first = true := List.find?_eq_none.mp found first List.mem_cons_self
    rw [List.find?_cons_of_neg missed] at found
    rw [editFirst, if_neg missed, inner found]
    rfl

/-- To edit the first item is to find it, to edit it and to put the result in its place. -/
theorem editFirst_of_find?_eq_some {β ε : Type} (missing : ε) (edit : α → Except ε (β × α))
    (found : items.find? meets = some item) :
    editFirst meets missing edit items =
      (edit item).map (fun (answer, edited) =>
        (answer, modifyFirst meets (fun _ => edited) items)) := by
  induction items with
  | nil => contradiction
  | cons first items inner =>
    by_cases met : meets first
    · rw [List.find?_cons_of_pos met] at found
      cases found
      rw [editFirst, if_pos met]
      cases edit item with
      | error cause => rfl
      | ok result =>
        obtain ⟨answer, edited⟩ := result
        change Except.ok (answer, edited :: items) =
          .ok (answer, modifyFirst meets (fun _ => edited) (item :: items))
        rw [modifyFirst_cons_of_pos _ met]
    · rw [List.find?_cons_of_neg met] at found
      rw [editFirst, if_neg met, inner found]
      cases edit item with
      | error cause => rfl
      | ok result =>
        obtain ⟨answer, edited⟩ := result
        change Except.ok (answer, first :: modifyFirst meets (fun _ => edited) items) =
          .ok (answer, modifyFirst meets (fun _ => edited) (first :: items))
        rw [modifyFirst_cons_of_neg _ met]

end ModifyFirst

/-! ### Items with different keys -/

section DistinctBy

variable {α κ : Type} [DecidableEq κ]

theorem distinctBy_fresh (key : α → κ) (seen : List κ) (items : List α) {item : α}
    (member : item ∈ distinctBy key seen items) : key item ∉ seen := by
  induction items generalizing seen with
  | nil => contradiction
  | cons first items inner =>
    rw [distinctBy] at member
    split at member
    · exact inner seen member
    · rename_i new
      rcases List.mem_cons.mp member with rfl | later
      · simpa using new
      · exact fun known => inner _ later (List.mem_cons_of_mem _ known)

theorem nodup_distinctBy (key : α → κ) (seen : List κ) (items : List α) :
    ((distinctBy key seen items).map key).Nodup := by
  induction items generalizing seen with
  | nil => exact List.nodup_nil
  | cons first items inner =>
    rw [distinctBy]
    split
    · exact inner seen
    · rw [List.map_cons, List.nodup_cons]
      refine ⟨?_, inner _⟩
      intro repeated
      obtain ⟨item, later, same⟩ := List.mem_map.mp repeated
      exact distinctBy_fresh key _ items later (same ▸ List.mem_cons_self)

theorem mem_distinctBy_id [DecidableEq α] {seen items : List α} {item : α} :
    item ∈ distinctBy id seen items ↔ item ∈ items ∧ item ∉ seen := by
  induction items generalizing seen with
  | nil => simp [distinctBy]
  | cons first items inner =>
    rw [distinctBy]
    by_cases known : first ∈ seen
    · rw [if_pos (by simpa using known), inner]
      constructor
      · exact And.imp_left (List.mem_cons_of_mem first)
      · rintro ⟨listed, new⟩
        rcases List.mem_cons.mp listed with rfl | later
        · exact absurd known new
        · exact ⟨later, new⟩
    · rw [if_neg (by simpa using known), List.mem_cons, inner, List.mem_cons]
      simp only [id_eq, List.mem_cons]
      by_cases same : item = first
      · simp [same, known]
      · simp [same]

/-- The keys that are left are those of the items, each once. -/
theorem map_distinctBy (key : α → κ) (seen : List κ) (items : List α) :
    (distinctBy key seen items).map key = distinctBy id seen (items.map key) := by
  induction items generalizing seen with
  | nil => rfl
  | cons first items inner =>
    rw [List.map_cons, distinctBy, distinctBy]
    simp only [id_eq]
    split
    · exact inner seen
    · rw [List.map_cons, inner]

theorem distinctBy_eq_self {key : α → κ} {seen : List κ} {items : List α}
    (distinct : (items.map key).Nodup) (new : ∀ item ∈ items, key item ∉ seen) :
    distinctBy key seen items = items := by
  induction items generalizing seen with
  | nil => rfl
  | cons first items inner =>
    rw [List.map_cons, List.nodup_cons] at distinct
    have unseen := new first List.mem_cons_self
    rw [distinctBy, if_neg (by simpa using unseen), inner distinct.2]
    intro item later known
    rcases List.mem_cons.mp known with same | before
    · exact distinct.1 (same ▸ List.mem_map_of_mem later)
    · exact new item (List.mem_cons_of_mem first later) before

/-- Of the keys seen before only those matter that the items have. -/
theorem distinctBy_congr {key : α → κ} {seen other : List κ} {items : List α}
    (same : ∀ item ∈ items, key item ∈ seen ↔ key item ∈ other) :
    distinctBy key seen items = distinctBy key other items := by
  induction items generalizing seen other with
  | nil => rfl
  | cons first items inner =>
    have here := same first List.mem_cons_self
    have later := fun item member => same item (List.mem_cons_of_mem first member)
    rw [distinctBy, distinctBy, inner later]
    by_cases known : key first ∈ other
    · rw [if_pos (by simpa using here.mpr known), if_pos (by simpa using known)]
    · rw [if_neg (by simpa using mt here.mp known), if_neg (by simpa using known)]
      congr 1
      apply inner
      intro item member
      rw [List.mem_cons, List.mem_cons, later item member]

/-- Items that share no key with the others may be looked at alone. -/
theorem filter_distinctBy {key : α → κ} {test : α → Bool} {items : List α}
    (apart : ∀ first ∈ items, ∀ second ∈ items, test first = true → test second = false →
      key first ≠ key second) (seen : List κ) :
    (distinctBy key seen items).filter test = distinctBy key seen (items.filter test) := by
  induction items generalizing seen with
  | nil => rfl
  | cons first items inner =>
    have further := inner (fun one member other listed =>
      apart one (List.mem_cons_of_mem first member) other (List.mem_cons_of_mem first listed))
    by_cases tested : test first = true
    · rw [List.filter_cons_of_pos tested, distinctBy, distinctBy]
      split
      · exact further seen
      · rw [List.filter_cons_of_pos tested, further]
    · rw [List.filter_cons_of_neg tested, distinctBy]
      split
      · exact further seen
      · rw [List.filter_cons_of_neg tested, further]
        -- no item that is left has the key of the first one
        apply distinctBy_congr
        intro item member
        obtain ⟨listed, kept⟩ := List.mem_filter.mp member
        have other := apart item (List.mem_cons_of_mem first listed) first List.mem_cons_self kept
          (Bool.eq_false_iff.mpr tested)
        rw [List.mem_cons, or_iff_right other]

end DistinctBy

end QueryComposer
