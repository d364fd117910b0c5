import QueryComposer.Number.Decimal

set_option autoImplicit false

/-!
Decimal numbers read in steps that are each rounded. The digits are gathered in a word of 64 bits as
long as they fit into it, further digits before the point only count, and further digits after it
are passed over; the word is then multiplied or divided by a power of ten that is itself rounded.
The result is the nearest number for the short decimals that occur in practice, and a neighbour of
it for some longer ones.
-/

namespace QueryComposer.Number

open QueryComposer.Text

namespace Binary64

/-- The magnitude of a finite number as a ratio. -/
def ratio? : Binary64 → Option (Nat × Nat)
  | .finite _ mantissa exponent _ =>
    if 0 ≤ exponent then some (mantissa * Nat.pow 2 exponent.natAbs, 1)
    else some (mantissa, Nat.pow 2 exponent.natAbs)
  | _ => none

/-- The nearest number to the product of two magnitudes. -/
def times (left right : Binary64) : Binary64 :=
  match left.ratio?, right.ratio? with
  | some (first, second), some (third, fourth) => ofRatio false (first * third) (second * fourth)
  | _, _ => .infinite false

/-- The nearest number to the quotient of two magnitudes; the divisor is not zero. -/
def dividedBy (left right : Binary64) : Binary64 :=
  match left.ratio?, right.ratio? with
  | some (first, second), some (third, fourth) => ofRatio false (first * fourth) (second * third)
  | _, _ => .zero false

/-- The number with a minus sign if one is asked for. -/
def signed (negative : Bool) : Binary64 → Binary64
  | .finite sign mantissa exponent canonical =>
    .finite (sign != negative) mantissa exponent canonical
  | .infinite sign => .infinite (sign != negative)
  | .nan => .nan

/-- The nearest number to a power of ten. -/
def powerOfTen (exponent : Nat) : Binary64 :=
  ofRatio false (Nat.pow 10 exponent) 1

end Binary64

/-- The largest power of ten that is multiplied or divided by at once. -/
def largestPower : Nat := 308

/-- A magnitude times a power of ten, in at most the given number of steps. There is none beyond all
numbers. -/
def scaled? : Nat → Binary64 → Int → Option Binary64
  | 0, value, _ => some value
  | steps + 1, value, exponent =>
    if exponent.natAbs ≤ largestPower then
      let power := Binary64.powerOfTen exponent.natAbs
      if 0 ≤ exponent then (some (value.times power)).filter Binary64.isFinite
      else some (value.dividedBy power)
    else if value = .zero false then some value
    else if 0 ≤ exponent then none
    else
      let next := value.dividedBy (Binary64.powerOfTen largestPower)
      scaled? steps next (exponent + largestPower)

/-- The digits that fit into a word after those that it holds already, and the remaining ones. -/
def gatherDigits (word : Nat) : List Char → Nat × List Char
  | [] => (word, [])
  | digit :: rest =>
    let next := 10 * word + digitValue digit
    if next < UInt64.size then gatherDigits next rest else (word, digit :: rest)

/-- The largest exponent that is taken as it stands. -/
def largestExponent : Nat := 2147483647

/-- The number that digits around a point and an exponent write, read in steps. -/
def ofDecimalSteps? (negative : Bool) (whole fraction : List Char) (exponent : Int) :
    Option Binary64 :=
  let (word, left) := gatherDigits 0 whole
  let (significand, ignored) := gatherDigits word fraction
  let shift : Int := Int.ofNat left.length - Int.ofNat (fraction.length - ignored.length)
  let magnitude? :=
    if exponent.natAbs ≤ largestExponent then
      scaled? 5 (.ofRatio false significand 1) (shift + exponent)
    else if significand ≠ 0 && 0 < exponent then none
    else some (.zero false)
  magnitude?.map (Binary64.signed negative)

end QueryComposer.Number
