import QueryComposer.Text.Basic
import QueryComposer.Number.Binary64
import QueryComposer.Number.Word

set_option autoImplicit false

/-!
Reading numbers from decimal text: digit runs, integers between bounds, and floating-point numbers,
which are rounded once from the exact decimal value.
-/

namespace QueryComposer.Number

open QueryComposer.Text

/-- The value of a run of digits. -/
def ofDigits (digits : List Char) : Nat :=
  digits.foldl (fun value digit => 10 * value + digitValue digit) 0

/-- The digits of a number, most significant first. -/
def toDigits (value : Nat) : List Char :=
  Nat.toDigits 10 value

/-- The value of a text of digits only, and at least one. -/
def readNat? (chars : List Char) : Option Nat :=
  if chars.isEmpty || !chars.all isAsciiDigit then none else some (ofDigits chars)

/-- A whole number in digits with an optional plus sign, no larger than the bound. -/
def readUnsigned? (bound : Nat) (chars : List Char) : Option Nat :=
  let digits := match chars with
    | '+' :: rest => rest
    | _ => chars
  (readNat? digits).filter (· ≤ bound)

/-- An integer in digits with an optional sign, within 64 bits. -/
def readInt64? (chars : List Char) : Option Int :=
  let value? : Option Int := match chars with
    | '+' :: rest => (readNat? rest).map Int.ofNat
    | '-' :: rest => (readNat? rest).map (fun value => -(Int.ofNat value))
    | _ => (readNat? chars).map Int.ofNat
  value?.filter isInt64

/-- The number nearest to `digits · 10 ^ exponent`, rounded once. Magnitudes that no number is near
are settled before the power is taken. -/
def ofDecimal (negative : Bool) (digits : List Char) (exponent : Int) : Binary64 :=
  let significant := digits.dropWhile (· = '0')
  let magnitude : Int := exponent + significant.length
  if significant.isEmpty || magnitude < -330 then .zero negative
  else if 310 < magnitude then .infinite negative
  else if exponent < 0 then .ofRatio negative (ofDigits significant) (Nat.pow 10 exponent.natAbs)
  else .ofRatio negative (ofDigits significant * Nat.pow 10 exponent.natAbs) 1

/-- An exponent: an optional sign and at least one digit, to the end of the text. -/
def readExponent? : List Char → Option Int
  | '+' :: rest => (readNat? rest).map Int.ofNat
  | '-' :: rest => (readNat? rest).map (fun value => -(Int.ofNat value))
  | chars => (readNat? chars).map Int.ofNat

/-- A decimal number without sign: digits around an optional point, at least one of them, and an
optional exponent. -/
def readMagnitude? (negative : Bool) (chars : List Char) : Option Binary64 :=
  let whole := chars.takeWhile isAsciiDigit
  let afterWhole := chars.dropWhile isAsciiDigit
  let (fraction, rest) := match afterWhole with
    | '.' :: tail => (tail.takeWhile isAsciiDigit, tail.dropWhile isAsciiDigit)
    | _ => ([], afterWhole)
  if whole.isEmpty && fraction.isEmpty then none
  else
    let exponent? : Option Int := match rest with
      | [] => some 0
      | mark :: tail => if mark = 'e' || mark = 'E' then readExponent? tail else none
    exponent?.map (fun exponent =>
      ofDecimal negative (whole ++ fraction) (exponent - fraction.length))

/-- The names of the numbers that have no digits, in any case. -/
def readNamed? (negative : Bool) (chars : List Char) : Option Binary64 :=
  let lowered := chars.map Char.toLower
  if lowered = "inf".toList || lowered = "infinity".toList then some (.infinite negative)
  else if lowered = "nan".toList then some .nan
  else none

/-- A floating-point number: an optional sign and a decimal number or a name. -/
def readBinary64? (chars : List Char) : Option Binary64 :=
  let (negative, rest) := match chars with
    | '+' :: tail => (false, tail)
    | '-' :: tail => (true, tail)
    | _ => (false, chars)
  match readNamed? negative rest with
  | some named => some named
  | none => readMagnitude? negative rest

end QueryComposer.Number
