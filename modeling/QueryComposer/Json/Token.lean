import QueryComposer.Json.Basic
import QueryComposer.Number.Stepwise

set_option autoImplicit false

/-!
The tokens of a JSON text and the scanner that cuts a text into them. A number or a text that is
well formed and stands for nothing is a token without a value.
-/

namespace QueryComposer.Json

open QueryComposer.Text QueryComposer.Number

/-- A token: punctuation, or a value without parts. -/
inductive Token
  | openArray
  | closeArray
  | openObject
  | closeObject
  | colon
  | comma
  | null
  | bool (value : Bool)
  | number (value? : Option JsonNumber)
  | string (value? : Option String)
deriving DecidableEq, Repr

/-- The four characters that may stand between tokens. -/
def isSpace (c : Char) : Bool :=
  c = ' ' || c = '\n' || c = '\t' || c = '\r'

/-! ### Strings -/

/-- The value of four hexadecimal digits. -/
def hexQuad? (a b c d : Char) : Option Nat :=
  match hexValue? a, hexValue? b, hexValue? c, hexValue? d with
  | some w, some x, some y, some z => some (4096 * w.val + 256 * x.val + 16 * y.val + z.val)
  | _, _, _, _ => none

/-- The character that a one-letter escape stands for. -/
def escapeValue? : Char → Option Char
  | '"' => some '"'
  | '\\' => some '\\'
  | '/' => some '/'
  | 'b' => some '\x08'
  | 'f' => some '\x0c'
  | 'n' => some '\n'
  | 'r' => some '\r'
  | 't' => some '\t'
  | _ => none

/-- The first half of a character written as two halves. -/
def isHighHalf (unit : Nat) : Bool :=
  0xD800 ≤ unit && unit < 0xDC00

/-- The second half of a character written as two halves. -/
def isLowHalf (unit : Nat) : Bool :=
  0xDC00 ≤ unit && unit < 0xE000

/-- The character that two halves make together. -/
def joinHalves (high low : Nat) : Char :=
  Char.ofNat (0x10000 + (high - 0xD800) * 0x400 + (low - 0xDC00))

/-- A character in front of the characters of a string, if these can be read. -/
def consRead (c : Char) (scanned : Option (List Char) × List Char) :
    Option (List Char) × List Char :=
  (scanned.1.map (c :: ·), scanned.2)

/-- The same place in the text with nothing to read before it. -/
def spoil (scanned : Option (List Char) × List Char) : Option (List Char) × List Char :=
  (none, scanned.2)

/-- What is done with a character after a half of another one, which spoils the string. -/
def consAfter (high? : Option Nat) (c : Char) : Option (List Char) × List Char →
    Option (List Char) × List Char :=
  if high?.isSome then spoil else consRead c

/-- The characters of a string up to its closing quote, and what follows the quote, after the first
half of a character or in full. A half of a character that comes without the other half leaves
nothing to read. -/
def scanAfter : Option Nat → List Char → Option (Option (List Char) × List Char)
  | _, [] => none
  | high?, '"' :: rest => some (if high?.isSome then none else some [], rest)
  | high?, '\\' :: 'u' :: a :: b :: c :: d :: rest =>
    match hexQuad? a b c d with
    | none => none
    | some unit =>
      if isHighHalf unit then
        (scanAfter (some unit) rest).map (if high?.isSome then spoil else id)
      else if isLowHalf unit then
        (scanAfter none rest).map (high?.elim spoil (fun high => consRead (joinHalves high unit)))
      else (scanAfter none rest).map (consAfter high? (Char.ofNat unit))
  | high?, '\\' :: letter :: rest =>
    match escapeValue? letter with
    | none => none
    | some c => (scanAfter none rest).map (consAfter high? c)
  | high?, c :: rest =>
    if c.toNat < 0x20 || c = '\\' then none
    else (scanAfter none rest).map (consAfter high? c)

/-- The characters of a string up to its closing quote, and what follows the quote. -/
def scanString (chars : List Char) : Option (Option (List Char) × List Char) :=
  scanAfter none chars

/-! ### Numbers -/

/-- The value of digits without point and exponent. An integer within 64 bits stays exact; one
beyond is rounded, if it is not beyond all numbers. Negative zero is no integer. -/
def integerValue? (negative : Bool) (digits : List Char) : Option JsonNumber :=
  let magnitude := ofDigits digits
  if !negative && magnitude < UInt64.size then some (.integer magnitude)
  else if negative && 0 < magnitude && magnitude ≤ Int64.minValue.toInt.natAbs then
    some (.integer (-(magnitude : Int)))
  else (ofDecimalSteps? negative digits [] 0).map .decimal

/-- The digits after a decimal point, if there is a point, and the rest. -/
def scanFraction : List Char → Option (List Char × List Char)
  | '.' :: rest =>
    let digits := rest.takeWhile isAsciiDigit
    if digits.isEmpty then none else some (digits, rest.dropWhile isAsciiDigit)
  | chars => some ([], chars)

/-- The exponent, if there is one, and the rest. -/
def scanExponent : List Char → Option (Option Int × List Char)
  | [] => some (none, [])
  | mark :: rest =>
    if mark = 'e' || mark = 'E' then
      let (negative, tail) := match rest with
        | '+' :: tail => (false, tail)
        | '-' :: tail => (true, tail)
        | _ => (false, rest)
      let digits := tail.takeWhile isAsciiDigit
      if digits.isEmpty then none
      else
        let power : Int := ofDigits digits
        some (some (if negative then -power else power), tail.dropWhile isAsciiDigit)
    else some (none, mark :: rest)

/-- The digits before the point: a zero alone, or digits that begin with another one. -/
def scanWhole : List Char → Option (List Char × List Char)
  | [] => none
  | c :: rest =>
    if c = '0' then some (['0'], rest)
    else if isAsciiDigit c then some (c :: rest.takeWhile isAsciiDigit, rest.dropWhile isAsciiDigit)
    else none

/-- A number without its sign: no zero in front of further digits, digits after a point, and digits
in an exponent. One beyond all numbers has no value. -/
def scanMagnitude (negative : Bool) (chars : List Char) :
    Option (Option JsonNumber × List Char) :=
  match scanWhole chars with
  | none => none
  | some (whole, afterWhole) =>
    match scanFraction afterWhole with
    | none => none
    | some (fraction, afterFraction) =>
      match scanExponent afterFraction with
      | none => none
      | some (power?, rest) =>
        let value? :=
          if fraction.isEmpty && power?.isNone then integerValue? negative whole
          else (ofDecimalSteps? negative whole fraction (power?.getD 0)).map .decimal
        some (value?, rest)

/-! ### Tokens -/

/-- The token at the start of the text, and what follows it. -/
def scanToken : List Char → Option (Token × List Char)
  | '[' :: rest => some (.openArray, rest)
  | ']' :: rest => some (.closeArray, rest)
  | '\x7b' :: rest => some (.openObject, rest)
  | '\x7d' :: rest => some (.closeObject, rest)
  | ':' :: rest => some (.colon, rest)
  | ',' :: rest => some (.comma, rest)
  | 'n' :: 'u' :: 'l' :: 'l' :: rest => some (.null, rest)
  | 't' :: 'r' :: 'u' :: 'e' :: rest => some (.bool true, rest)
  | 'f' :: 'a' :: 'l' :: 's' :: 'e' :: rest => some (.bool false, rest)
  | '"' :: rest =>
    (scanString rest).map (fun (chars?, after) => (.string (chars?.map String.ofList), after))
  | '-' :: rest => (scanMagnitude true rest).map (fun (value?, after) => (.number value?, after))
  | chars => (scanMagnitude false chars).map (fun (value?, after) => (.number value?, after))

theorem consAfter_snd (high? : Option Nat) (c : Char) (scanned : Option (List Char) × List Char) :
    (consAfter high? c scanned).2 = scanned.2 := by
  unfold consAfter
  split <;> rfl

theorem scanAfter_length (high? : Option Nat) (chars : List Char) :
    ∀ {text? : Option (List Char)} {rest : List Char},
      scanAfter high? chars = some (text?, rest) → rest.length < chars.length := by
  fun_induction scanAfter high? chars with
  | case1 => intro _ _ found; simp at found
  | case2 => intro _ _ found; simp_all
  | case3 => intro _ _ found; simp_all
  | case4 high? a b c d tail unit _ _ inner =>
    intro _ _ found
    obtain ⟨⟨_, _⟩, scanned, same⟩ := Option.map_eq_some_iff.1 found
    have shorter := inner scanned
    split at same <;> simp_all [spoil] <;> omega
  | case5 high? a b c d tail unit _ _ _ inner =>
    intro _ _ found
    obtain ⟨⟨_, _⟩, scanned, same⟩ := Option.map_eq_some_iff.1 found
    have shorter := inner scanned
    cases high? <;> simp_all [spoil, consRead] <;> omega
  | case6 high? a b c d tail unit _ _ _ inner =>
    intro _ _ found
    obtain ⟨⟨_, _⟩, scanned, same⟩ := Option.map_eq_some_iff.1 found
    have shorter := inner scanned
    have kept := congrArg Prod.snd same
    rw [consAfter_snd] at kept
    simp_all; omega
  | case7 => intro _ _ found; simp_all
  | case8 high? letter tail _ c _ inner =>
    intro _ _ found
    obtain ⟨⟨_, _⟩, scanned, same⟩ := Option.map_eq_some_iff.1 found
    have shorter := inner scanned
    have kept := congrArg Prod.snd same
    rw [consAfter_snd] at kept
    simp_all; omega
  | case9 => intro _ _ found; simp_all
  | case10 high? c tail _ _ _ _ inner =>
    intro _ _ found
    obtain ⟨⟨_, _⟩, scanned, same⟩ := Option.map_eq_some_iff.1 found
    have shorter := inner scanned
    have kept := congrArg Prod.snd same
    rw [consAfter_snd] at kept
    simp_all; omega

theorem scanString_length {chars rest : List Char} {text? : Option (List Char)}
    (found : scanString chars = some (text?, rest)) : rest.length < chars.length :=
  scanAfter_length none chars found

theorem dropWhile_length_le (keep : Char → Bool) (chars : List Char) :
    (chars.dropWhile keep).length ≤ chars.length :=
  (List.dropWhile_sublist keep).length_le

theorem scanFraction_length {chars digits rest : List Char}
    (found : scanFraction chars = some (digits, rest)) : rest.length ≤ chars.length := by
  unfold scanFraction at found
  split at found
  · rename_i tail
    have shorter := dropWhile_length_le isAsciiDigit tail
    grind
  · grind

theorem scanExponent_length {chars rest : List Char} {power? : Option Int}
    (found : scanExponent chars = some (power?, rest)) : rest.length ≤ chars.length := by
  unfold scanExponent at found
  split at found
  · grind
  · rename_i mark tail
    split at found
    · have shorter := dropWhile_length_le isAsciiDigit
      grind
    · grind

theorem scanWhole_length {chars digits rest : List Char}
    (found : scanWhole chars = some (digits, rest)) : rest.length < chars.length := by
  unfold scanWhole at found
  have shorter := dropWhile_length_le isAsciiDigit
  grind

theorem scanMagnitude_length {negative : Bool} {chars rest : List Char}
    {value? : Option JsonNumber} (found : scanMagnitude negative chars = some (value?, rest)) :
    rest.length < chars.length := by
  unfold scanMagnitude at found
  have wholeShorter := @scanWhole_length
  have fractionShorter := @scanFraction_length
  have exponentShorter := @scanExponent_length
  grind

theorem scanToken_length {chars rest : List Char} {token : Token}
    (found : scanToken chars = some (token, rest)) : rest.length < chars.length := by
  have magnitudeShorter := @scanMagnitude_length
  have stringShorter := @scanString_length
  unfold scanToken at found
  split at found <;>
    simp only [Option.map_eq_some_iff, Option.some.injEq, Prod.mk.injEq] at found <;> grind

/-- All tokens of a text, with white space between them skipped. -/
def tokens? (chars : List Char) : Option (List Token) :=
  match _remaining : chars.dropWhile isSpace with
  | [] => some []
  | c :: tail =>
    match _scanned : scanToken (c :: tail) with
    | none => none
    | some (token, rest) => (tokens? rest).map (token :: ·)
termination_by chars.length
decreasing_by
  have shorter := scanToken_length _scanned
  have skipped := dropWhile_length_le isSpace chars
  rw [_remaining] at skipped
  omega

end QueryComposer.Json
