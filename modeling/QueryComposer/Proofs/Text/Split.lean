import Mathlib.Data.List.TakeWhile
import QueryComposer.Text.Basic

set_option autoImplicit false

/-!
Texts cut at a separator: pieces without the separator, put together with it, are the pieces. A run
of characters at the start of a text ends where the text goes on with another one.
-/

namespace QueryComposer.Text

theorem takeWhile_append_of_stops {keep : Char → Bool} {rest : List Char}
    (stops : ∀ c, rest.head? = some c → keep c = false) (chars : List Char) :
    (chars ++ rest).takeWhile keep = chars.takeWhile keep ∧
      (chars ++ rest).dropWhile keep = chars.dropWhile keep ++ rest := by
  induction chars with
  | nil =>
    cases rest with
    | nil => exact ⟨rfl, rfl⟩
    | cons c rest => simp [stops c rfl]
  | cons c chars induct =>
    by_cases kept : keep c
    · simp [kept, induct]
    · simp [kept]

/-- A run of characters of one kind ends where another character follows. -/
theorem takeWhile_run {keep : Char → Bool} {run rest : List Char}
    (all : ∀ c ∈ run, keep c = true) (stops : ∀ c, rest.head? = some c → keep c = false) :
    (run ++ rest).takeWhile keep = run ∧ (run ++ rest).dropWhile keep = rest := by
  obtain ⟨taken, dropped⟩ := takeWhile_append_of_stops stops run
  rw [List.takeWhile_eq_self_iff.mpr all] at taken
  rw [List.dropWhile_eq_nil_iff.mpr all, List.nil_append] at dropped
  exact ⟨taken, dropped⟩

theorem splitChars_of_not_mem {separator : Char} {chars : List Char}
    (absent : separator ∉ chars) : splitChars separator chars = [chars] := by
  induction chars with
  | nil => rfl
  | cons c rest inner =>
    rw [List.mem_cons, not_or] at absent
    rw [splitChars, if_neg (Ne.symm absent.1), inner absent.2]

theorem splitChars_append {separator : Char} {piece : List Char} (absent : separator ∉ piece)
    (rest : List Char) :
    splitChars separator (piece ++ separator :: rest) = piece :: splitChars separator rest := by
  induction piece with
  | nil => exact if_pos rfl
  | cons c piece induct =>
    rw [List.mem_cons, not_or] at absent
    rw [List.cons_append, splitChars, if_neg (Ne.symm absent.1), induct absent.2]

/-! ### Blanks around a text -/

theorem trimChars_of_visible {chars : List Char} (visible : ∀ c ∈ chars, isBlank c = false) :
    trimChars chars = chars := by
  have kept {shown : List Char} (visible : ∀ c ∈ shown, isBlank c = false) :
      shown.dropWhile isBlank = shown := by
    cases shown with
    | nil => rfl
    | cons c rest => exact List.dropWhile_cons_of_neg (by simp [visible c List.mem_cons_self])
  have backwards : ∀ c ∈ chars.reverse, isBlank c = false :=
    fun c member => visible c (List.mem_reverse.mp member)
  rw [trimChars, kept visible, kept backwards, List.reverse_reverse]

theorem trimChars_eq_nil_iff {chars : List Char} :
    trimChars chars = [] ↔ ∀ c ∈ chars, isBlank c = true := by
  rw [trimChars, List.reverse_eq_nil_iff, List.dropWhile_eq_nil_iff]
  simp only [List.mem_reverse]
  constructor
  · intro blank
    rw [← List.dropWhile_eq_nil_iff]
    cases rest : chars.dropWhile isBlank with
    | nil => rfl
    | cons c others =>
      have visible := List.head_dropWhile_not isBlank (show chars.dropWhile isBlank ≠ [] by
        simp [rest])
      rw [rest] at blank
      simp only [rest, List.head_cons] at visible
      rw [blank c List.mem_cons_self] at visible
      contradiction
  · intro blank c member
    exact blank c ((List.dropWhile_suffix isBlank).mem member)

/-- Every piece is blank when there is nothing but separators and white space. -/
theorem splitChars_blank_iff {separator : Char} {chars : List Char} :
    (∀ piece ∈ splitChars separator chars, trimChars piece = []) ↔
      ∀ c ∈ chars, c = separator ∨ isBlank c = true := by
  induction chars with
  | nil => simp [splitChars, trimChars]
  | cons c rest induct =>
    rw [List.forall_mem_cons, ← induct, splitChars]
    by_cases same : c = separator
    · simp [same, trimChars]
    · rw [if_neg same]
      cases splitChars separator rest with
      | nil => simp [trimChars_eq_nil_iff, same]
      | cons piece pieces => simp [trimChars_eq_nil_iff, same, and_assoc]

end QueryComposer.Text
