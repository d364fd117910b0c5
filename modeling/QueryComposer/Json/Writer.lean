import QueryComposer.Json.Basic
import QueryComposer.Number.Shortest

set_option autoImplicit false

/-!
Writing a value as text, without spaces or with one member to a line. Each writer puts the text of
a value in front of the text that follows it. What is unreadable is written as null.
-/

namespace QueryComposer.Json

open QueryComposer.Text QueryComposer.Number

/-- A control character as four hexadecimal digits. -/
def escapeControl (c : Char) : List Char :=
  ['\\', 'u', '0', '0', hexDigitOf (c.toNat / 16), hexDigitOf (c.toNat % 16)]

/-- One character inside a quoted string. -/
def escapeChar (c : Char) : List Char :=
  match c with
  | '"' => ['\\', '"']
  | '\\' => ['\\', '\\']
  | '\x08' => ['\\', 'b']
  | '\x0c' => ['\\', 'f']
  | '\n' => ['\\', 'n']
  | '\r' => ['\\', 'r']
  | '\t' => ['\\', 't']
  | _ => if c.toNat < 0x20 then escapeControl c else [c]

/-- A quoted string in front of further text. -/
def quoteOnto (text : String) (rest : List Char) : List Char :=
  '"' :: text.toList.foldr (fun c tail => escapeChar c ++ tail) ('"' :: rest)

def numberText : JsonNumber → String
  | .integer value => toString value
  | .decimal value => value.dataText?.getD "null"

/-! ### Without spaces -/

mutual

/-- A value in front of further text. -/
def renderOnto : Json → List Char → List Char
  | .null, rest => "null".toList ++ rest
  | .bool value, rest => (if value then "true" else "false").toList ++ rest
  | .number value, rest => (numberText value).toList ++ rest
  | .string value, rest => quoteOnto value rest
  | .array items, rest => '[' :: itemsOnto true items (']' :: rest)
  | .object members, rest => '\x7b' :: membersOnto true members ('\x7d' :: rest)
  | .unreadable, rest => "null".toList ++ rest

/-- The items of an array, each but the first after a comma. -/
def itemsOnto : Bool → List Json → List Char → List Char
  | _, [], rest => rest
  | first, item :: items, rest =>
    let tail := renderOnto item (itemsOnto false items rest)
    if first then tail else ',' :: tail

/-- The members of an object, each but the first after a comma. -/
def membersOnto : Bool → List (String × Json) → List Char → List Char
  | _, [], rest => rest
  | first, (name, value) :: members, rest =>
    let tail := quoteOnto name (':' :: renderOnto value (membersOnto false members rest))
    if first then tail else ',' :: tail

end

/-- The text of a value without spaces. -/
def render (value : Json) : String :=
  String.ofList (renderOnto value [])

/-! ### One member to a line -/

/-- A new line with two blanks for every level. -/
def lineBreak (level : Nat) : List Char :=
  '\n' :: List.replicate (2 * level) ' '

mutual

/-- A value in front of further text, with its parts indented below the given level. -/
def prettyOnto (level : Nat) : Json → List Char → List Char
  | .array [], rest => '[' :: ']' :: rest
  | .array (item :: items), rest =>
    '[' :: (lineBreak (level + 1) ++ prettyOnto (level + 1) item
      (prettyItemsOnto level items (lineBreak level ++ ']' :: rest)))
  | .object [], rest => '\x7b' :: '\x7d' :: rest
  | .object ((name, value) :: members), rest =>
    '\x7b' :: (lineBreak (level + 1) ++ quoteOnto name (':' :: ' ' :: prettyOnto (level + 1) value
      (prettyMembersOnto level members (lineBreak level ++ '\x7d' :: rest))))
  | value, rest => renderOnto value rest

/-- The further items of an array. -/
def prettyItemsOnto (level : Nat) : List Json → List Char → List Char
  | [], rest => rest
  | item :: items, rest =>
    ',' :: (lineBreak (level + 1) ++ prettyOnto (level + 1) item
      (prettyItemsOnto level items rest))

/-- The further members of an object. -/
def prettyMembersOnto (level : Nat) : List (String × Json) → List Char → List Char
  | [], rest => rest
  | (name, value) :: members, rest =>
    ',' :: (lineBreak (level + 1) ++ quoteOnto name (':' :: ' ' :: prettyOnto (level + 1) value
      (prettyMembersOnto level members rest)))

end

/-- The text of a value with one part to a line. -/
def renderPretty (value : Json) : String :=
  String.ofList (prettyOnto 0 value [])

end QueryComposer.Json
