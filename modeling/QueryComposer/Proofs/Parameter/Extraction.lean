import Mathlib.Data.List.Forall2
import QueryComposer.FirstMatch
import QueryComposer.Parameter.Descriptor

set_option autoImplicit false

/-!
The parameters of a text are those of the first placeholders of each name. What was decided about
earlier parameters by hand is all that an extraction keeps of them.
-/

namespace QueryComposer.Parameter

/-! ### Extracted parameters -/

/-- Nothing was decided about the parameter. -/
structure Undecided (parameter : Parameter) : Prop where
  required : parameter.required = true
  defaultValue : parameter.defaultValue = none
  typeLocked : parameter.typeLocked = false

theorem ofPlaceholders_eq (masked : List Char) (seen : List String)
    (placeholders : List Placeholder) :
    ofPlaceholders masked seen placeholders =
      (distinctBy Placeholder.name seen placeholders).map (ofPlaceholder masked) := by
  induction placeholders generalizing seen with
  | nil => rfl
  | cons placeholder placeholders inner =>
    rw [ofPlaceholders, distinctBy]
    split
    · exact inner seen
    · rw [List.map_cons, inner]

theorem extract_eq (sql : String) :
    extract sql = (distinctBy Placeholder.name [] (Placeholder.scan sql)).map
      (ofPlaceholder (Lexical.maskChars sql.toList)) :=
  ofPlaceholders_eq _ _ _

theorem names_extract (sql : String) :
    (extract sql).map Parameter.name =
      distinctBy id [] ((Placeholder.scan sql).map Placeholder.name) := by
  rw [extract_eq, List.map_map]
  exact map_distinctBy Placeholder.name [] (Placeholder.scan sql)

theorem names_extract_nodup (sql : String) : ((extract sql).map Parameter.name).Nodup := by
  have nodup := nodup_distinctBy id [] ((Placeholder.scan sql).map Placeholder.name)
  rwa [List.map_id, ← names_extract] at nodup

theorem undecided_of_mem_extract {sql : String} {fresh : Parameter}
    (member : fresh ∈ extract sql) : fresh.Undecided := by
  rw [extract_eq] at member
  obtain ⟨placeholder, _, rfl⟩ := List.mem_map.mp member
  exact ⟨rfl, rfl, rfl⟩

/-! ### Parameters by their names -/

theorem find?_of_mem {parameters : List Parameter}
    (distinct : (parameters.map Parameter.name).Nodup) {parameter : Parameter}
    (member : parameter ∈ parameters) : find? parameters parameter.name = some parameter := by
  unfold find?
  induction parameters with
  | nil => contradiction
  | cons first parameters inner =>
    rw [List.map_cons, List.nodup_cons] at distinct
    rcases List.mem_cons.mp member with rfl | later
    · rw [List.find?_cons_of_pos (by simp)]
    · have other : first.name ≠ parameter.name := by
        intro same
        exact distinct.1 (same ▸ List.mem_map_of_mem later)
      rw [List.find?_cons_of_neg (by simpa using other)]
      exact inner distinct.2 later

theorem find?_eq_none_iff {parameters : List Parameter} {name : String} :
    find? parameters name = none ↔ name ∉ parameters.map Parameter.name := by
  simp [find?, List.find?_eq_none]

/-! ### What an extraction keeps -/

/-- The parameter is the one of the text, with a type chosen by hand or that of the text. -/
structure Follows (fresh parameter : Parameter) : Prop where
  name : parameter.name = fresh.name
  kind : parameter.kind = fresh.kind
  type : parameter.typeLocked = false → parameter.type = fresh.type

theorem follows_self (fresh : Parameter) : fresh.Follows fresh :=
  ⟨rfl, rfl, fun _ => rfl⟩

theorem follows_inherit (fresh earlier : Parameter) : fresh.Follows (inherit earlier fresh) := by
  unfold inherit
  split
  · refine ⟨rfl, rfl, ?_⟩
    intro unlocked
    contradiction
  · exact ⟨rfl, rfl, fun _ => rfl⟩

/-- A parameter that follows the text is what an extraction makes of itself. -/
theorem Follows.inherit_eq {fresh parameter : Parameter} (follows : fresh.Follows parameter)
    (undecided : fresh.typeLocked = false) : inherit parameter fresh = parameter := by
  obtain ⟨name, type, required, defaultValue, kind, locked⟩ := parameter
  obtain ⟨freshName, freshType, freshRequired, freshDefault, freshKind, freshLocked⟩ := fresh
  obtain ⟨sameName, sameKind, sameType⟩ := follows
  obtain rfl : freshLocked = false := undecided
  cases locked with
  | true => simp_all [inherit, withType]
  | false => simp_all [inherit]

/-- The parameters are those of the text, in its order, with what was decided about them. -/
def AllFollow (sql : String) (parameters : List Parameter) : Prop :=
  List.Forall₂ Follows (extract sql) parameters

theorem allFollow_reextract (sql : String) (previous : List Parameter) :
    AllFollow sql (reextract sql previous) := by
  unfold AllFollow reextract
  rw [List.forall₂_map_right_iff, List.forall₂_same]
  intro fresh _
  split
  · exact follows_self fresh
  · exact follows_inherit fresh _

theorem AllFollow.names {sql : String} {parameters : List Parameter}
    (follow : AllFollow sql parameters) :
    parameters.map Parameter.name = (extract sql).map Parameter.name := by
  have same : List.Forall₂ (fun fresh parameter => fresh.name = parameter.name)
      (extract sql) parameters :=
    follow.imp (fun _ _ follows => follows.name.symm)
  rwa [eq_comm, ← List.forall₂_eq_eq_eq, List.forall₂_map_left_iff, List.forall₂_map_right_iff]

/-- What was decided earlier does not change which parameters a text has. -/
theorem names_reextract (sql : String) (previous : List Parameter) :
    (reextract sql previous).map Parameter.name = (extract sql).map Parameter.name :=
  (allFollow_reextract sql previous).names

/-- Parameters that follow the text are those that an extraction leaves as they are. -/
theorem reextract_eq_iff (sql : String) (parameters : List Parameter) :
    reextract sql parameters = parameters ↔ AllFollow sql parameters := by
  constructor
  · intro same
    rw [← same]
    exact allFollow_reextract sql parameters
  · intro follow
    have distinct : (parameters.map Parameter.name).Nodup := by
      rw [follow.names]
      exact names_extract_nodup sql
    rw [reextract, ← List.forall₂_eq_eq_eq, List.forall₂_map_left_iff, List.forall₂_iff_zip]
    refine ⟨follow.length_eq, ?_⟩
    intro fresh parameter paired
    have follows := List.forall₂_zip follow paired
    rw [← follows.name, find?_of_mem distinct (List.of_mem_zip paired).2]
    exact follows.inherit_eq (undecided_of_mem_extract (List.of_mem_zip paired).1).typeLocked

end QueryComposer.Parameter
