import Mathlib.Data.List.TakeWhile
import QueryComposer.Json.Reader
import QueryComposer.Json.Writer
import QueryComposer.Proofs.Number.Digits
import QueryComposer.Proofs.Text.Split

set_option autoImplicit false

/-!
The scanner on what the writer wrote. A quoted string is scanned to the string, and an integer of 64
bits to the integer; a number that is scanned to the end of its text is scanned in the same way in
front of what may follow a value.
-/

namespace QueryComposer.Json

open QueryComposer.Text QueryComposer.Number

/-! ### Strings -/

theorem hexQuad?_control {code : Nat} (control : code < 0x20) :
    hexQuad? '0' '0' (hexDigitOf (code / 16)) (hexDigitOf (code % 16)) = some code := by
  revert code
  decide

theorem scanAfter_escapeControl {c : Char} (control : c.toNat < 0x20) (rest : List Char) :
    scanAfter none (escapeControl c ++ rest) = (scanAfter none rest).map (consRead c) := by
  have notHigh : isHighHalf c.toNat = false := by
    simp only [isHighHalf, Bool.and_eq_false_iff, decide_eq_false_iff_not]
    omega
  have notLow : isLowHalf c.toNat = false := by
    simp only [isLowHalf, Bool.and_eq_false_iff, decide_eq_false_iff_not]
    omega
  simp only [escapeControl, List.cons_append, List.nil_append, scanAfter,
    hexQuad?_control control, notHigh, notLow, Char.ofNat_toNat, Bool.false_eq_true, if_false]
  rfl

/-- An escaped character is read as the character. -/
theorem scanAfter_escapeChar (c : Char) (rest : List Char) :
    scanAfter none (escapeChar c ++ rest) = (scanAfter none rest).map (consRead c) := by
  unfold escapeChar
  split
  case h_8 notQuote notEscape _ _ _ _ _ =>
    split
    · next control => exact scanAfter_escapeControl control rest
    · next visible =>
      have plain : ¬(c.toNat < 0x20 || c = '\\') = true := by
        simp only [Bool.or_eq_true, decide_eq_true_eq, not_or]
        exact ⟨visible, notEscape⟩
      rw [List.cons_append, List.nil_append, scanAfter]
      · rw [if_neg plain]
        rfl
      · exact notQuote
      · intro a b d e tail same
        exact absurd same notEscape
      · intro letter tail same
        exact absurd same notEscape
  all_goals simp [scanAfter, escapeValue?, consAfter]

theorem scanAfter_quoted (chars rest : List Char) :
    scanAfter none (chars.foldr (fun c tail => escapeChar c ++ tail) ('"' :: rest)) =
      some (some chars, rest) := by
  induction chars with
  | nil => simp [scanAfter]
  | cons c chars induct =>
    rw [List.foldr_cons, scanAfter_escapeChar, induct]
    rfl

theorem scanToken_quoteOnto (text : String) (rest : List Char) :
    scanToken (quoteOnto text rest) = some (.string (some text), rest) := by
  have quoted : scanToken (quoteOnto text rest) =
      (scanString (text.toList.foldr (fun c tail => escapeChar c ++ tail) ('"' :: rest))).map
        (fun scanned => (Token.string (scanned.1.map String.ofList), scanned.2)) := rfl
  rw [quoted, scanString, scanAfter_quoted]
  simp

/-! ### Numbers in front of further text -/

/-- What may follow a value: nothing, or a mark that belongs to no number. -/
def EndsValue (rest : List Char) : Prop :=
  ∀ c, rest.head? = some c → c = ',' ∨ c = ']' ∨ c = '\x7d'

theorem EndsValue.nil : EndsValue [] := by
  intro c found
  contradiction

theorem EndsValue.stops {rest : List Char} (ends : EndsValue rest) (test : Char → Bool)
    (fails : [',', ']', '\x7d'].all (fun c => !test c) = true) (c : Char)
    (first : rest.head? = some c) : test c = false := by
  simp only [List.all_cons, List.all_nil, Bool.and_true, Bool.and_eq_true,
    Bool.not_eq_true'] at fails
  rcases ends c first with rfl | rfl | rfl
  · exact fails.1
  · exact fails.2.1
  · exact fails.2.2

variable {rest chars after : List Char}

theorem digits_append (ends : EndsValue rest) (chars : List Char) :
    (chars ++ rest).takeWhile isAsciiDigit = chars.takeWhile isAsciiDigit ∧
      (chars ++ rest).dropWhile isAsciiDigit = chars.dropWhile isAsciiDigit ++ rest :=
  takeWhile_append_of_stops (ends.stops isAsciiDigit (by decide)) chars

theorem scanWhole_append (ends : EndsValue rest) {whole : List Char}
    (found : scanWhole chars = some (whole, after)) :
    scanWhole (chars ++ rest) = some (whole, after ++ rest) := by
  cases chars with
  | nil => cases found
  | cons c chars =>
    obtain ⟨taken, dropped⟩ := digits_append ends chars
    simp only [scanWhole, List.cons_append, taken, dropped] at found ⊢
    split at found
    · next zero =>
      cases found
      rw [if_pos zero]
    · next other =>
      rw [if_neg other]
      split at found
      · next digit =>
        cases found
        rw [if_pos digit]
      · cases found

/-- Without a point there is no fraction. -/
theorem scanFraction_of_head? (noPoint : chars.head? ≠ some '.') :
    scanFraction chars = some ([], chars) := by
  unfold scanFraction
  split
  · exact absurd rfl noPoint
  · rfl

theorem scanFraction_append (ends : EndsValue rest) {fraction : List Char}
    (found : scanFraction chars = some (fraction, after)) :
    scanFraction (chars ++ rest) = some (fraction, after ++ rest) := by
  by_cases point : chars.head? = some '.'
  · obtain ⟨tail, rfl⟩ := List.head?_eq_some_iff.mp point
    obtain ⟨taken, dropped⟩ := digits_append ends tail
    simp only [scanFraction, List.cons_append, taken, dropped] at found ⊢
    split at found
    · cases found
    · next digits =>
      cases found
      rw [if_neg digits]
  · rw [scanFraction_of_head? point] at found
    cases found
    apply scanFraction_of_head?
    cases chars with
    | nil =>
      intro same
      rcases ends '.' same with mark | mark | mark <;> cases mark
    | cons c chars => exact point

/-- The digits of an exponent behind its sign. -/
def scanPower (negative : Bool) (chars : List Char) : Option (Option Int × List Char) :=
  let digits := chars.takeWhile isAsciiDigit
  if digits.isEmpty then none
  else
    let power : Int := ofDigits digits
    some (some (if negative then -power else power), chars.dropWhile isAsciiDigit)

theorem scanPower_append (ends : EndsValue rest) {negative : Bool} {power? : Option Int}
    (found : scanPower negative chars = some (power?, after)) :
    scanPower negative (chars ++ rest) = some (power?, after ++ rest) := by
  obtain ⟨taken, dropped⟩ := digits_append ends chars
  simp only [scanPower, taken, dropped] at found ⊢
  split at found
  · cases found
  · next digits =>
    cases found
    rw [if_neg digits]

theorem scanExponent_plus {mark : Char} (letter : (mark = 'e' || mark = 'E') = true)
    (tail : List Char) : scanExponent (mark :: '+' :: tail) = scanPower false tail :=
  if_pos letter

theorem scanExponent_minus {mark : Char} (letter : (mark = 'e' || mark = 'E') = true)
    (tail : List Char) : scanExponent (mark :: '-' :: tail) = scanPower true tail :=
  if_pos letter

theorem scanExponent_unsigned {mark : Char} (letter : (mark = 'e' || mark = 'E') = true)
    {tail : List Char} (plus : tail.head? ≠ some '+') (minus : tail.head? ≠ some '-') :
    scanExponent (mark :: tail) = scanPower false tail := by
  rw [scanExponent, if_pos letter]
  · rfl
  · rintro tail rfl
    exact plus rfl
  · rintro tail rfl
    exact minus rfl

theorem scanExponent_append (ends : EndsValue rest) {power? : Option Int}
    (found : scanExponent chars = some (power?, after)) :
    scanExponent (chars ++ rest) = some (power?, after ++ rest) := by
  cases chars with
  | nil =>
    cases found
    cases rest with
    | nil => rfl
    | cons c rest =>
      have other : (decide (c = 'e') || decide (c = 'E')) = false :=
        ends.stops (fun c => c = 'e' || c = 'E') (by decide) c rfl
      simp only [List.nil_append, scanExponent, other, Bool.false_eq_true, if_false]
  | cons mark tail =>
    by_cases letter : (mark = 'e' || mark = 'E') = true
    · by_cases plus : tail.head? = some '+'
      · obtain ⟨digits, rfl⟩ := List.head?_eq_some_iff.mp plus
        rw [scanExponent_plus letter] at found
        exact (scanExponent_plus letter _).trans (scanPower_append ends found)
      by_cases minus : tail.head? = some '-'
      · obtain ⟨digits, rfl⟩ := List.head?_eq_some_iff.mp minus
        rw [scanExponent_minus letter] at found
        exact (scanExponent_minus letter _).trans (scanPower_append ends found)
      · rw [scanExponent_unsigned letter plus minus] at found
        cases tail with
        | nil => cases found
        | cons c tail =>
          have further : scanExponent (mark :: (c :: tail ++ rest)) =
              scanPower false (c :: tail ++ rest) := scanExponent_unsigned letter plus minus
          exact further.trans (scanPower_append ends found)
    · simp only [scanExponent, List.cons_append, letter, Bool.false_eq_true, if_false] at found ⊢
      cases found
      rfl

theorem scanMagnitude_append (ends : EndsValue rest) {negative : Bool}
    {value? : Option JsonNumber} (found : scanMagnitude negative chars = some (value?, after)) :
    scanMagnitude negative (chars ++ rest) = some (value?, after ++ rest) := by
  unfold scanMagnitude at found ⊢
  split at found
  · cases found
  · next whole afterWhole wholeFound =>
    rw [scanWhole_append ends wholeFound]
    split at found
    · cases found
    · next fraction afterFraction fractionFound =>
      simp only
      rw [scanFraction_append ends fractionFound]
      split at found
      · cases found
      · next power? further powerFound =>
        simp only
        rw [scanExponent_append ends powerFound]
        cases found
        rfl

/-- What begins with a digit is scanned as a number without sign. -/
theorem scanToken_digit {c : Char} (digit : isAsciiDigit c = true) (chars : List Char) :
    scanToken (c :: chars) = (scanMagnitude false (c :: chars)).map (fun (value?, after) =>
      (.number value?, after)) := by
  unfold scanToken
  split
  case h_12 => rfl
  all_goals
    next same =>
      cases same
      exact absurd digit (by decide)

theorem head?_of_scanMagnitude {negative : Bool} {value? : Option JsonNumber}
    (found : scanMagnitude negative chars = some (value?, after)) :
    ∃ c tail, chars = c :: tail ∧ isAsciiDigit c = true := by
  cases chars with
  | nil => cases found
  | cons c tail =>
    refine ⟨c, tail, rfl, ?_⟩
    simp only [scanMagnitude, scanWhole] at found
    split at found
    · cases found
    · next wholeFound =>
      split at wholeFound
      · next zero =>
        rw [zero]
        rfl
      · split at wholeFound
        · assumption
        · cases wholeFound

/-- A number is scanned in the same way in front of what may follow it. -/
theorem scanToken_append (ends : EndsValue rest) {value? : Option JsonNumber}
    (found : scanToken chars = some (.number value?, after)) :
    scanToken (chars ++ rest) = some (.number value?, after ++ rest) := by
  have scanned {negative : Bool} {chars : List Char}
      (found : (scanMagnitude negative chars).map (fun (value?, after) =>
        (Token.number value?, after)) = some (.number value?, after)) :
      scanMagnitude negative chars = some (value?, after) := by
    obtain ⟨⟨value, tail⟩, found, same⟩ := Option.map_eq_some_iff.mp found
    cases same
    exact found
  unfold scanToken at found
  split at found
  case h_10 => simp at found
  case h_11 tail =>
    have further : scanToken ('-' :: tail ++ rest) = (scanMagnitude true (tail ++ rest)).map
      (fun (value?, after) => (.number value?, after)) := rfl
    rw [further, scanMagnitude_append ends (scanned found)]
    rfl
  case h_12 =>
    obtain ⟨c, tail, rfl, digit⟩ := head?_of_scanMagnitude (scanned found)
    have further := scanToken_digit digit (tail ++ rest)
    rw [← List.cons_append, scanMagnitude_append ends (scanned found)] at further
    exact further
  all_goals cases found

/-! ### Integers -/

theorem scanMagnitude_toDigits (negative : Bool) (value : Nat) :
    scanMagnitude negative (toDigits value) =
      some (integerValue? negative (toDigits value), []) := by
  have whole : scanWhole (toDigits value) = some (toDigits value, []) := by
    rcases Nat.eq_zero_or_pos value with rfl | positive
    · rfl
    · obtain ⟨c, rest, same, nonzero⟩ := head?_toDigits positive
      have digits := areDigits_toDigits value
      rw [same] at digits ⊢
      have digit := digits c List.mem_cons_self
      have others : ∀ d ∈ rest, isAsciiDigit d = true :=
        fun d member => digits d (List.mem_cons_of_mem c member)
      rw [scanWhole, if_neg nonzero, if_pos digit,
        List.takeWhile_eq_self_iff.mpr others, List.dropWhile_eq_nil_iff.mpr others]
  simp only [scanMagnitude, whole]
  rfl

theorem scanToken_toDigits (value : Nat) :
    scanToken (toDigits value) =
      some (.number (integerValue? false (toDigits value)), []) := by
  obtain ⟨c, rest, same⟩ := List.exists_cons_of_ne_nil (toDigits_ne_nil value)
  have digit : isAsciiDigit c = true :=
    areDigits_toDigits value c (same ▸ List.mem_cons_self)
  have scanned := scanToken_digit digit rest
  rw [← same, scanMagnitude_toDigits] at scanned
  exact scanned

end QueryComposer.Json

namespace QueryComposer.JsonNumber

open QueryComposer.Json QueryComposer.Number

/-- The number is read from its text as it was written. -/
def ReadsBack (number : JsonNumber) : Prop :=
  scanToken (numberText number).toList = some (.number (some number), [])

instance (number : JsonNumber) : Decidable number.ReadsBack :=
  inferInstanceAs (Decidable (_ = _))

theorem readsBack_natural {value : Nat} (bound : value < UInt64.size) :
    ReadsBack (.integer value) := by
  have text : (numberText (.integer value)).toList = toDigits value := toList_repr value
  rw [ReadsBack, text, scanToken_toDigits, integerValue?, ofDigits_toDigits,
    if_pos (by simpa using bound)]

theorem readsBack_int64 (value : Int64) : ReadsBack (.integer value.toInt) := by
  have lowest : Int64.minValue.toInt ≤ value.toInt := value.minValue_le_toInt
  have highest : value.toInt ≤ Int64.maxValue.toInt := value.toInt_le
  generalize value.toInt = number at lowest highest
  cases number with
  | ofNat magnitude =>
    apply readsBack_natural
    have bound : Int64.maxValue.toInt < (UInt64.size : Int) := by decide
    have small : (magnitude : Int) < UInt64.size := Int.lt_of_le_of_lt highest bound
    exact Int.ofNat_lt.mp small
  | negSucc less =>
    have text : (numberText (.integer (Int.negSucc less))).toList = '-' :: toDigits (less + 1) := by
      rw [numberText, Int.toString_eq_repr, Int.repr, String.toList_append, toList_repr]
      rfl
    have within : less + 1 ≤ Int64.minValue.toInt.natAbs := by
      have floor : Int64.minValue.toInt = -(Int64.minValue.toInt.natAbs : Int) := by decide
      rw [floor, Int.negSucc_eq] at lowest
      omega
    have scanned : scanToken ('-' :: toDigits (less + 1)) =
        (scanMagnitude true (toDigits (less + 1))).map (fun (value?, after) =>
          (Token.number value?, after)) := rfl
    have unsigned : ¬(!true && decide (less + 1 < UInt64.size)) = true := by simp
    have signed : (true && decide (0 < less + 1) &&
        decide (less + 1 ≤ Int64.minValue.toInt.natAbs)) = true := by
      rw [decide_eq_true (Nat.succ_pos less), decide_eq_true within]
      rfl
    rw [ReadsBack, text, scanned, scanMagnitude_toDigits, integerValue?, ofDigits_toDigits,
      if_neg unsigned, if_pos signed]
    rfl

end QueryComposer.JsonNumber
