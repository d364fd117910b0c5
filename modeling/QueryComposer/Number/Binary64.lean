set_option autoImplicit false

/-!
Binary floating-point numbers of 64 bits, kept as sign, mantissa and exponent, with rounding of
exact ratios to the nearest number and exact comparison. There is no arithmetic beyond this: the
numbers are read, compared and written.
-/

namespace QueryComposer.Number

/-- `mantissa · 2 ^ exponent` in the one form each magnitude has: 53 significant bits, or fewer at
the smallest exponent. -/
def Canonical (mantissa : Nat) (exponent : Int) : Prop :=
  mantissa < Nat.pow 2 53 ∧ -1074 ≤ exponent ∧ exponent ≤ 971 ∧
    (Nat.pow 2 52 ≤ mantissa ∨ exponent = -1074)

instance (mantissa : Nat) (exponent : Int) : Decidable (Canonical mantissa exponent) := by
  unfold Canonical; infer_instance

/-- A floating-point number. Zero has two signs; all numbers that are none are alike. -/
inductive Binary64
  | nan
  | infinite (negative : Bool)
  | finite (negative : Bool) (mantissa : Nat) (exponent : Int)
      (canonical : Canonical mantissa exponent)
deriving DecidableEq, Repr

namespace Binary64

/-- Zero of either sign. -/
def zero (negative : Bool) : Binary64 :=
  .finite negative 0 (-1074) (by decide)

instance : Inhabited Binary64 := ⟨zero false⟩

/-- The number with the given parts, or infinity when the parts are beyond the largest number. -/
def ofParts (negative : Bool) (mantissa : Nat) (exponent : Int) : Binary64 :=
  if canonical : Canonical mantissa exponent then .finite negative mantissa exponent canonical
  else .infinite negative

/-- The nearest integer to a ratio; a tie goes to the even neighbour. -/
def nearest (numerator denominator : Nat) : Nat :=
  let quotient := numerator / denominator
  let doubled := 2 * (numerator % denominator)
  if doubled < denominator then quotient
  else if denominator < doubled then quotient + 1
  else if quotient % 2 = 0 then quotient else quotient + 1

/-- The nearest number of units `2 ^ exponent` in a ratio. -/
def nearestAt (numerator denominator : Nat) (exponent : Int) : Nat :=
  if exponent < 0 then nearest (numerator * Nat.pow 2 exponent.natAbs) denominator
  else nearest numerator (denominator * Nat.pow 2 exponent.natAbs)

/-- The nearest floating-point number to a ratio with a positive denominator. -/
def ofRatio (negative : Bool) (numerator denominator : Nat) : Binary64 :=
  if numerator = 0 then zero negative
  else
    let estimate : Int := (numerator.log2 : Int) - (denominator.log2 : Int) - 53
    let start : Int := max estimate (-1074)
    let fits (exponent : Int) : Bool := nearestAt numerator denominator exponent ≤ Nat.pow 2 53
    let exponent := if fits start then start else if fits (start + 1) then start + 1 else start + 2
    let mantissa := nearestAt numerator denominator exponent
    if mantissa = Nat.pow 2 53 then ofParts negative (Nat.pow 2 52) (exponent + 1)
    else ofParts negative mantissa exponent

/-- The nearest number to an integer. -/
def ofInt (value : Int) : Binary64 :=
  ofRatio (value < 0) value.natAbs 1

/-- Neither infinite nor undefined. -/
def isFinite : Binary64 → Bool
  | .finite .. => true
  | _ => false

/-- The value in units of the smallest positive number, for finite numbers. -/
def units? : Binary64 → Option Int
  | .finite negative mantissa exponent _ =>
    let magnitude : Int := Int.ofNat (mantissa * Nat.pow 2 (exponent + 1074).toNat)
    some (if negative then -magnitude else magnitude)
  | _ => none

/-- Strictly smaller by value; an undefined number is not smaller than anything, nor anything
than it. -/
def lt : Binary64 → Binary64 → Bool
  | .nan, _ => false
  | _, .nan => false
  | .infinite left, .infinite right => left && !right
  | .infinite left, .finite .. => left
  | .finite .., .infinite right => !right
  | left@(.finite ..), right@(.finite ..) =>
    match left.units?, right.units? with
    | some l, some r => l < r
    | _, _ => false

/-- Smaller or equal by value; both zeros are equal. -/
def le : Binary64 → Binary64 → Bool
  | .nan, _ => false
  | _, .nan => false
  | left, right => !lt right left

/-- The sign of the number, zeros included. -/
def isNegative : Binary64 → Bool
  | .nan => false
  | .infinite negative => negative
  | .finite negative .. => negative

/-- The order by value that puts negative zero before positive zero. On finite numbers it is a
total order. -/
def totalLt (left right : Binary64) : Bool :=
  lt left right || (!lt right left && left.isNegative && !right.isNegative)

/-- Not after the other number in the order of `totalLt`. -/
def totalLe (left right : Binary64) : Bool :=
  !totalLt right left

end Binary64

end QueryComposer.Number
