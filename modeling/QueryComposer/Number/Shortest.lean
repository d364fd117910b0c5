import QueryComposer.Number.Decimal

set_option autoImplicit false

/-!
The fewest decimal digits that read back as a given floating-point number, and the two ways such a
number is written: in full, and in the form of data files with an exponent for extreme magnitudes.
-/

namespace QueryComposer.Number

/-- A positive decimal `digits · 10 ^ exponent`. -/
structure ShortDecimal where
  digits : Nat
  exponent : Int
deriving Repr, DecidableEq

/-- A positive ratio. -/
structure Ratio where
  numerator : Nat
  denominator : Nat
deriving Repr, DecidableEq

namespace Ratio

/-- The ratio times a power of the base. -/
def scale (ratio : Ratio) (base : Nat) (exponent : Int) : Ratio :=
  if exponent < 0 then ⟨ratio.numerator, ratio.denominator * Nat.pow base exponent.natAbs⟩
  else ⟨ratio.numerator * Nat.pow base exponent.natAbs, ratio.denominator⟩

/-- Strictly smaller, by cross multiplication. -/
def lt (left right : Ratio) : Bool :=
  left.numerator * right.denominator < right.numerator * left.denominator

/-- Smaller or equal, by cross multiplication. -/
def le (left right : Ratio) : Bool :=
  left.numerator * right.denominator ≤ right.numerator * left.denominator

/-- The number of places before the decimal point: `10 ^ (places - 1) ≤ ratio < 10 ^ places`. -/
def places (ratio : Ratio) : Int :=
  let estimate : Int :=
    ((ratio.numerator.log2 : Int) - (ratio.denominator.log2 : Int)) * 30103 / 100000
  let below (count : Int) : Bool := ratio.lt (Ratio.scale ⟨1, 1⟩ 10 count)
  (([estimate - 1, estimate, estimate + 1, estimate + 2].find? below)).getD (estimate + 3)

end Ratio

/-- Which of two equally near decimals is taken. -/
inductive TieRule
  | up
  | even
deriving Repr, DecidableEq

/-- Whether a value `remainder / denominator` above its lower neighbour goes to the upper one. -/
def TieRule.roundsUp (rule : TieRule) (floor remainder denominator : Nat) : Bool :=
  if 2 * remainder = denominator then
    match rule with
    | .up => true
    | .even => floor % 2 = 1
  else denominator < 2 * remainder

/-- The real numbers that round to one floating-point number; the ends belong to it when its
mantissa is even. -/
structure RoundingInterval where
  low : Ratio
  value : Ratio
  high : Ratio
  closed : Bool
deriving Repr, DecidableEq

namespace RoundingInterval

/-- The interval of `mantissa · 2 ^ exponent`. Below a power of two the next number is only half a
step away. -/
def of (mantissa : Nat) (exponent : Int) : RoundingInterval :=
  let below := if mantissa = Nat.pow 2 52 && -1074 < exponent then 1 else 2
  let at_ (quarters : Nat) : Ratio := Ratio.scale ⟨quarters, 1⟩ 2 (exponent - 2)
  { low := at_ (4 * mantissa - below)
    value := at_ (4 * mantissa)
    high := at_ (4 * mantissa + 2)
    closed := mantissa % 2 = 0 }

/-- Whether a decimal lies in the interval. -/
def contains (interval : RoundingInterval) (candidate : Ratio) : Bool :=
  if interval.closed then interval.low.le candidate && candidate.le interval.high
  else interval.low.lt candidate && candidate.lt interval.high

/-- The decimal with the given number of digits that lies in the interval and is nearest to its
value, if there is one. Only the two neighbours of the value on that grid can be nearest. -/
def onGrid? (rule : TieRule) (interval : RoundingInterval) (places : Int) (count : Nat) :
    Option ShortDecimal :=
  let exponent := places - count
  let scaled := interval.value.scale 10 (-exponent)
  let floor := scaled.numerator / scaled.denominator
  let remainder := scaled.numerator % scaled.denominator
  let decimal (digits : Nat) : Ratio := Ratio.scale ⟨digits, 1⟩ 10 exponent
  let lowFits := interval.contains (decimal floor) && floor ≠ 0
  let highFits := interval.contains (decimal (floor + 1))
  if lowFits && highFits then
    some ⟨if rule.roundsUp floor remainder scaled.denominator then floor + 1 else floor, exponent⟩
  else if lowFits then some ⟨floor, exponent⟩
  else if highFits then some ⟨floor + 1, exponent⟩
  else none

end RoundingInterval

/-- Remove zeros at the end of the digits. -/
def ShortDecimal.strip (decimal : ShortDecimal) : ShortDecimal :=
  let digits := toDigits decimal.digits
  let kept := (digits.reverse.dropWhile (· = '0')).reverse
  ⟨ofDigits kept, decimal.exponent + (digits.length - kept.length : Nat)⟩

/-- The fewest digits that read back as `mantissa · 2 ^ exponent`; seventeen always do. -/
def shortest (rule : TieRule) (mantissa : Nat) (exponent : Int) : ShortDecimal :=
  let interval := RoundingInterval.of mantissa exponent
  let places := interval.value.places
  let found := ((List.range 17).map (· + 1)).findSome? (interval.onGrid? rule places)
  (found.getD ⟨mantissa, 0⟩).strip

/-! ### Written forms -/

/-- The sign in front of a number. -/
def signText (negative : Bool) : String :=
  if negative then "-" else ""

/-- Digits with a decimal point after the given number of places, zeros filling up on either side.
No point is written when nothing would follow it. -/
def positional (digits : List Char) (places : Int) : List Char :=
  if places ≤ 0 then '0' :: '.' :: (List.replicate places.natAbs '0' ++ digits)
  else if digits.length ≤ places.natAbs then
    digits ++ List.replicate (places.natAbs - digits.length) '0'
  else digits.take places.natAbs ++ '.' :: digits.drop places.natAbs

/-- Digits with an exponent: one place before the point. -/
def scientific (digits : List Char) (places : Int) : List Char :=
  let mantissa := match digits with
    | [] => []
    | [digit] => [digit]
    | digit :: rest => digit :: '.' :: rest
  let power := places - 1
  mantissa ++ 'e' :: (if power < 0 then '-' else '+') :: toDigits power.natAbs

namespace Binary64

/-- The number in full: never an exponent, and no point for whole numbers. Of two equally near
decimals the larger is written. -/
def display : Binary64 → String
  | .nan => "NaN"
  | .infinite negative => signText negative ++ "inf"
  | .finite negative mantissa exponent _ =>
    if mantissa = 0 then signText negative ++ "0"
    else
      let decimal := shortest .up mantissa exponent
      let digits := toDigits decimal.digits
      signText negative ++ String.ofList (positional digits (decimal.exponent + digits.length))

/-- The number as data files hold it: at least one digit after the point, and an exponent outside
`1e-5` to `1e16`. Of two equally near decimals the one with an even last digit is written. There is
no such text for numbers that are not finite. -/
def dataText? : Binary64 → Option String
  | .finite negative mantissa exponent _ =>
    if mantissa = 0 then some (signText negative ++ "0.0")
    else
      let decimal := shortest .even mantissa exponent
      let digits := toDigits decimal.digits
      let places : Int := decimal.exponent + digits.length
      let body :=
        if -5 < places && places ≤ 16 then
          if 0 ≤ decimal.exponent then positional digits places ++ ['.', '0']
          else positional digits places
        else scientific digits places
      some (signText negative ++ String.ofList body)
  | _ => none

end Binary64

end QueryComposer.Number
