import QueryComposer.Json.Decode
import QueryComposer.Text.Basic

set_option autoImplicit false

/-!
Universally unique identifiers: thirty-two hexadecimal digits, written in five groups.
-/

namespace QueryComposer

open QueryComposer.Text

/-- A universally unique identifier. -/
structure Uuid where
  digits : List (Fin 16)
  digits_length : digits.length = 32
deriving DecidableEq, Repr

namespace Uuid

/-- The identifier with the given digits. -/
def ofDigits? (digits : List (Fin 16)) : Option Uuid :=
  if length : digits.length = 32 then some ⟨digits, length⟩ else none

/-- The identifier in which each digit is the given one, or the last one there is. -/
def uniform (digit : Nat) : Uuid :=
  ⟨List.replicate 32 ⟨Nat.min 15 digit, Nat.lt_succ_of_le (Nat.min_le_left 15 digit)⟩, rfl⟩

/-- The digits of a group of characters. -/
def readGroup? (chars : List Char) : Option (List (Fin 16)) :=
  chars.mapM hexValue?

/-- Thirty-two digits in groups of 8, 4, 4, 4 and 12 with hyphens between them. -/
def ofHyphenated? (chars : List Char) : Option Uuid :=
  match splitChars '-' chars with
  | [a, b, c, d, e] =>
    if a.length = 8 && b.length = 4 && c.length = 4 && d.length = 4 && e.length = 12 then
      (readGroup? (a ++ b ++ c ++ d ++ e)).bind ofDigits?
    else none
  | _ => none

/-- Read an identifier: thirty-two digits, or five groups, which may stand in braces or after
`urn:uuid:`. Letters have either case. -/
def parse? (text : String) : Option Uuid :=
  let chars := text.toList
  if chars.length = 32 then (readGroup? chars).bind ofDigits?
  else if chars.length = 38 && chars.head? = some '\x7b' && chars.getLast? = some '\x7d' then
    ofHyphenated? chars.tail.dropLast
  else
    match dropStart? "urn:uuid:".toList chars with
    | some rest => ofHyphenated? rest
    | none => ofHyphenated? chars

/-- The five groups in lower case. -/
def render (id : Uuid) : String :=
  let chars := id.digits.map hexDigit
  String.ofList (chars.take 8 ++ '-' :: (chars.drop 8).take 4 ++ '-' :: (chars.drop 12).take 4 ++
    '-' :: (chars.drop 16).take 4 ++ '-' :: chars.drop 20)

/-- Smaller in the order of the digits. -/
def lt (left right : Uuid) : Bool :=
  left.digits.map Fin.val < right.digits.map Fin.val

/-- An identifier as a data value. -/
def toJson (id : Uuid) : Json :=
  .string id.render

/-- An identifier from a data value. -/
def ofJson? (json : Json) : Option Uuid :=
  json.asString?.bind parse?

end Uuid

end QueryComposer
