import Mathlib.Data.List.TakeWhile
import QueryComposer.Proofs.Literal.Numerals
import QueryComposer.Proofs.Text.Split

set_option autoImplicit false

/-!
Numbers as literals: what is written for a number is digits, with or without a point and further
digits, and reads as a number; a number in its usual form has no white space around it.
-/

namespace QueryComposer

open QueryComposer.Number QueryComposer.Text

namespace Text

theorem mem_of_inRanges {ranges : List (Nat × Nat)} {point : Nat}
    (inside : inRanges ranges point = true) :
    ∃ range ∈ ranges, range.1 ≤ point ∧ point ≤ range.2 := by
  induction ranges with
  | nil => contradiction
  | cons range ranges inner =>
    rw [inRanges] at inside
    by_cases below : point < range.1
    · rw [if_pos below] at inside
      contradiction
    · rw [if_neg below, Bool.or_eq_true, decide_eq_true_eq] at inside
      rcases inside with here | later
      · exact ⟨range, List.mem_cons_self, Nat.le_of_not_lt below, here⟩
      · obtain ⟨other, member, bounds⟩ := inner later
        exact ⟨other, List.mem_cons_of_mem range member, bounds⟩

/-- No digit of any script is white space. -/
theorem isBlank_decimalDigit {c : Char} (digit : isDecimalDigit c = true) : isBlank c = false := by
  have apart : ∀ range ∈ blankRanges, ∀ offset < range.2 + 1 - range.1,
      inRanges decimalDigitRanges (range.1 + offset) = false := by decide
  apply Bool.eq_false_iff.mpr
  intro blank
  obtain ⟨range, member, low, high⟩ := mem_of_inRanges blank
  have other := apart range member (c.toNat - range.1) (by omega)
  rw [Nat.add_sub_cancel' low] at other
  unfold isDecimalDigit at digit
  rw [other] at digit
  contradiction

end Text

namespace Literal

/-! ### Numbers -/

/-- A number in its usual form, or characters of numbers that read as one. -/
def isNumeral (chars : List Char) : Bool :=
  isUsualNumber chars || (chars.all isNumberChar && (readBinary64? chars).isSome)

theorem isNumberChar_of_isAsciiDigit {c : Char} (digit : isAsciiDigit c = true) :
    isNumberChar c = true := by
  simp [isNumberChar, digit]

/-- Digits, with or without a point and further digits behind them. -/
def IsPositional (chars : List Char) : Prop :=
  ∃ whole, whole ≠ [] ∧ AreDigits whole ∧
    (chars = whole ∨ ∃ fraction, AreDigits fraction ∧ chars = whole ++ '.' :: fraction)

theorem isPositional_positional {digits : List Char} (all : AreDigits digits)
    (nonempty : digits ≠ []) (places : Int) : IsPositional (positional digits places) := by
  unfold positional
  split
  · refine ⟨['0'], by simp, ?_, Or.inr ⟨_, (AreDigits.zeros _).append all, rfl⟩⟩
    intro c member
    cases List.mem_singleton.mp member
    rfl
  · rename_i positive
    split
    · exact ⟨_, List.append_ne_nil_of_left_ne_nil nonempty _, all.append (AreDigits.zeros _),
        Or.inl rfl⟩
    · rename_i longer
      refine ⟨digits.take places.natAbs, ?_, ?_, Or.inr ⟨digits.drop places.natAbs, ?_, rfl⟩⟩
      · rw [Ne, List.take_eq_nil_iff]
        rintro (none | empty)
        · omega
        · exact nonempty empty
      · intro c member
        exact all c (List.mem_of_mem_take member)
      · intro c member
        exact all c (List.mem_of_mem_drop member)

theorem takeWhile_areDigits {digits : List Char} (all : AreDigits digits) :
    digits.takeWhile isAsciiDigit = digits ∧ digits.dropWhile isAsciiDigit = [] :=
  ⟨List.takeWhile_eq_self_iff.mpr all, List.dropWhile_eq_nil_iff.mpr all⟩

theorem IsPositional.readMagnitude? {chars : List Char} (plain : IsPositional chars)
    (negative : Bool) : (readMagnitude? negative chars).isSome = true := by
  obtain ⟨whole, nonempty, all, rfl | ⟨fraction, digits, rfl⟩⟩ := plain
  · obtain ⟨taken, dropped⟩ := takeWhile_areDigits all
    unfold Number.readMagnitude?
    rw [taken, dropped]
    simp [nonempty]
  · have stops : ∀ c, ('.' :: fraction).head? = some c → isAsciiDigit c = false := by
      intro c first
      cases first
      rfl
    obtain ⟨taken, dropped⟩ := takeWhile_run all stops
    unfold Number.readMagnitude?
    rw [taken, dropped]
    obtain ⟨further, nothing⟩ := takeWhile_areDigits digits
    simp [nonempty, further, nothing]

theorem IsPositional.all_isNumberChar {chars : List Char} (plain : IsPositional chars) :
    chars.all isNumberChar = true ∧ chars.head?.any isAsciiDigit = true := by
  obtain ⟨whole, nonempty, all, form⟩ := plain
  have front : whole.all isNumberChar = true :=
    List.all_eq_true.mpr (fun c member => isNumberChar_of_isAsciiDigit (all c member))
  have first (rest : List Char) : (whole ++ rest).head?.any isAsciiDigit = true := by
    cases whole with
    | nil => contradiction
    | cons c whole => exact all c List.mem_cons_self
  rcases form with rfl | ⟨fraction, digits, rfl⟩
  · have whole := first []
    rw [List.append_nil] at whole
    exact ⟨front, whole⟩
  · have back : fraction.all isNumberChar = true :=
      List.all_eq_true.mpr (fun c member => isNumberChar_of_isAsciiDigit (digits c member))
    refine ⟨?_, first _⟩
    rw [List.all_append, front, List.all_cons, back]
    rfl

theorem IsPositional.isNumeral {chars : List Char} (plain : IsPositional chars)
    (negative : Bool) : isNumeral ((signText negative).toList ++ chars) = true := by
  obtain ⟨numeric, first⟩ := plain.all_isNumberChar
  have reads := plain.readMagnitude? negative
  have shape : ((signText negative).toList ++ chars).all isNumberChar = true ∧
      (readBinary64? ((signText negative).toList ++ chars)).isSome = true := by
    cases negative with
    | true =>
      have signed : (signText true).toList ++ chars = '-' :: chars := rfl
      rw [signed, readBinary64?_minus, Option.isSome_or, reads, Bool.or_true, List.all_cons,
        numeric]
      exact ⟨rfl, rfl⟩
    | false =>
      have unsigned : (signText false).toList ++ chars = chars := rfl
      have other {sign : Char} (mark : isAsciiDigit sign = false) : chars.head? ≠ some sign := by
        intro same
        rw [same, Option.any_some, mark] at first
        contradiction
      rw [unsigned, readBinary64?_unsigned (other rfl) (other rfl), Option.isSome_or, reads,
        Bool.or_true]
      exact ⟨numeric, rfl⟩
  unfold Literal.isNumeral
  rw [shape.1, shape.2, Bool.and_true, Bool.or_true]

theorem isPositional_toDigits (value : Nat) : IsPositional (toDigits value) :=
  ⟨_, toDigits_ne_nil value, areDigits_toDigits value, Or.inl rfl⟩

theorem isNumeral_int (number : Int) : isNumeral (toString number).toList = true := by
  rw [Int.toString_eq_repr]
  cases number with
  | ofNat value =>
    rw [Int.repr, toList_repr]
    exact (isPositional_toDigits value).isNumeral false
  | negSucc value =>
    rw [Int.repr, String.toList_append, toList_repr]
    exact (isPositional_toDigits _).isNumeral true

theorem isNumeral_display (number : Binary64) (finite : number.isFinite = true) :
    isNumeral number.display.toList = true := by
  cases number with
  | nan => cases finite
  | infinite negative => cases finite
  | finite negative mantissa exponent canonical =>
    rw [Binary64.display]
    split
    · rw [String.toList_append]
      exact (isPositional_toDigits 0).isNumeral negative
    · rw [String.toList_append, String.toList_ofList]
      exact (isPositional_positional (areDigits_toDigits _) (toDigits_ne_nil _) _).isNumeral
        negative

/-! ### The usual form -/

theorem isUsualNumber_all {test : Char → Bool} {chars : List Char}
    (digits : ∀ c, isDecimalDigit c = true → test c = true)
    (ascii : ∀ c, isAsciiDigit c = true → test c = true) (point : test '.' = true)
    (minus : test '-' = true) (usual : isUsualNumber chars = true) : chars.all test = true := by
  unfold isUsualNumber at usual
  split at usual
  · rw [List.all_cons, minus, (isUsualMagnitude_all digits ascii point usual).2]
    rfl
  · exact (isUsualMagnitude_all digits ascii point usual).2

theorem trimChars_usual {chars : List Char} (usual : isUsualNumber chars = true) :
    trimChars chars = chars := by
  apply trimChars_of_visible
  have visible : chars.all (fun c => !isBlank c) = true := by
    refine isUsualNumber_all ?_ ?_ rfl rfl usual
    · intro c digit
      rw [isBlank_decimalDigit digit]
      rfl
    · intro c digit
      rw [isBlank_asciiDigit digit]
      rfl
  intro c member
  simpa using List.all_eq_true.mp visible c member

end Literal

end QueryComposer
