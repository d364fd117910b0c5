import Mathlib.Data.Nat.Basic
import QueryComposer.Calendar.Date

set_option autoImplicit false

/-!
Digits of numbers: those that a number is written with have its value, also with zeros in front.
-/

namespace QueryComposer.Number

open QueryComposer.Text

theorem isAsciiDigit_of_isDigit {c : Char} (digit : c.isDigit = true) : isAsciiDigit c = true :=
  digit

theorem isBlank_asciiDigit {c : Char} (digit : isAsciiDigit c = true) : isBlank c = false := by
  simp only [isAsciiDigit, Bool.and_eq_true, decide_eq_true_eq] at digit
  have low : 48 ≤ c.toNat := digit.1
  have high : c.toNat ≤ 57 := digit.2
  simp only [isBlank, blankRanges, inRanges]
  simp
  omega

/-- A run of digits. -/
def AreDigits (chars : List Char) : Prop :=
  ∀ c ∈ chars, isAsciiDigit c = true

theorem AreDigits.append {first second : List Char} (one : AreDigits first)
    (other : AreDigits second) : AreDigits (first ++ second) :=
  fun c member => (List.mem_append.mp member).elim (one c) (other c)

theorem AreDigits.zeros (count : Nat) : AreDigits (List.replicate count '0') := by
  intro c member
  rw [(List.mem_replicate.mp member).2]
  rfl

theorem areDigits_toDigits (value : Nat) : AreDigits (toDigits value) :=
  fun _ member => isAsciiDigit_of_isDigit
    (Nat.isDigit_of_mem_toDigits (by decide) (by decide) member)

theorem ofDigits_toDigits (value : Nat) : ofDigits (toDigits value) = value :=
  Nat.ofDigitChars_toDigits (by decide) (by decide)

theorem toDigits_ne_nil (value : Nat) : toDigits value ≠ [] :=
  Nat.toDigits_ne_nil

theorem toList_repr (value : Nat) : (Nat.repr value).toList = toDigits value := by
  rw [Nat.repr_eq_ofList_toDigits, String.toList_ofList]
  rfl

theorem ofDigits_zeros_append (count : Nat) (digits : List Char) :
    ofDigits (List.replicate count '0' ++ digits) = ofDigits digits := by
  induction count with
  | zero => rfl
  | succ count induct => exact induct

/-- The first digit of a number other than zero is not zero. -/
theorem head?_toDigits {value : Nat} (positive : 0 < value) :
    ∃ c rest, toDigits value = c :: rest ∧ c ≠ '0' := by
  induction value using Nat.strongRecOn with
  | ind value induct =>
    unfold toDigits
    by_cases small : value < 10
    · rw [Nat.toDigits_of_lt_base small]
      exact ⟨_, [], rfl, fun zero => by
        rw [Nat.digitChar_eq_zero] at zero
        omega⟩
    · obtain ⟨c, rest, same, nonzero⟩ := induct (value / 10) (by omega) (by omega)
      rw [Nat.toDigits_of_base_le (by decide) (by omega)]
      unfold toDigits at same
      rw [same]
      exact ⟨c, _, rfl, nonzero⟩

theorem length_toDigits_le {width value : Nat} (positive : 0 < width)
    (bound : value < Nat.pow 10 width) : (toDigits value).length ≤ width :=
  (Nat.length_toDigits_le_iff (by decide) positive).mpr bound

end QueryComposer.Number

namespace QueryComposer.Calendar

open QueryComposer.Number

/-! ### Numbers with zeros in front -/

theorem toList_padded (width value : Nat) :
    (padded width value).toList =
      List.replicate (width - (toDigits value).length) '0' ++ toDigits value :=
  String.toList_ofList

theorem areDigits_padded (width value : Nat) : AreDigits (padded width value).toList := by
  rw [toList_padded]
  exact (AreDigits.zeros _).append (areDigits_toDigits value)

theorem ofDigits_padded (width value : Nat) : ofDigits (padded width value).toList = value := by
  rw [toList_padded, ofDigits_zeros_append, ofDigits_toDigits]

theorem padded_ne_nil (width value : Nat) : (padded width value).toList ≠ [] := by
  rw [toList_padded]
  exact List.append_ne_nil_of_right_ne_nil _ (toDigits_ne_nil value)

/-- A number that fits the width is written in exactly that many digits. -/
theorem length_padded {width value : Nat} (positive : 0 < width)
    (bound : value < Nat.pow 10 width) : (padded width value).toList.length = width := by
  have short := length_toDigits_le positive bound
  rw [toList_padded, List.length_append, List.length_replicate]
  omega

end QueryComposer.Calendar
