import QueryComposer.Text.Case
import QueryComposer.UnknownName
import QueryComposer.Number.Decimal
import QueryComposer.Value.Basic

set_option autoImplicit false

/-!
Values as they are written in SQL. Texts stand between quotes, with every quote inside doubled.
A text that names a parameter is written as it is, and whether a text that looks like a number is
written without quotes is a policy.
-/

namespace QueryComposer

open QueryComposer.Text

/-- Which texts are written without quotes: all that read as numbers, only numbers in their usual
form, or none. -/
inductive LiteralPolicy
  | permissive
  | strict
  | alwaysQuote
deriving DecidableEq, Repr, Inhabited

namespace LiteralPolicy

def all : List LiteralPolicy :=
  [.permissive, .strict, .alwaysQuote]

def name : LiteralPolicy → String
  | .permissive => "permissive"
  | .strict => "strict"
  | .alwaysQuote => "always_quote"

/-- Read the name of a policy, in either case. -/
def parse (text : String) : Except UnknownName LiteralPolicy :=
  let name := toLower (trim text)
  if name = "permissive" then .ok .permissive
  else if name = "strict" then .ok .strict
  else if ["always_quote", "always-quote", "quote"].contains name then .ok .alwaysQuote
  else .error ⟨"literal policy", name⟩

end LiteralPolicy

namespace Literal

/-! ### Forms of texts -/

/-- May begin a name. -/
def startsName (c : Char) : Bool :=
  isAsciiLetter c || c = '_'

/-- May stand inside a name. -/
def continuesName (c : Char) : Bool :=
  startsName c || isAsciiDigit c

/-- A name: a letter or underscore, then letters, digits and underscores. -/
def isName : List Char → Bool
  | [] => false
  | c :: rest => startsName c && rest.all continuesName

/-- A colon and a name: the reference to a parameter. -/
def isReferenceChars : List Char → Bool
  | ':' :: name => isName name
  | _ => false

/-- Nothing, or a point and at least one digit. -/
def isFraction : List Char → Bool
  | [] => true
  | '.' :: digits => !digits.isEmpty && digits.all isDecimalDigit
  | _ => false

/-- A whole number without leading zeros, and a fraction or none. -/
def isUsualMagnitude (chars : List Char) : Bool :=
  match chars with
  | '0' :: rest => isFraction rest
  | c :: rest => isAsciiDigit c && isFraction (rest.dropWhile isDecimalDigit)
  | [] => false

/-- A number in its usual form. -/
def isUsualNumber (chars : List Char) : Bool :=
  match chars with
  | '-' :: rest => isUsualMagnitude rest
  | _ => isUsualMagnitude chars

/-- The characters that numbers are made of. -/
def isNumberChar (c : Char) : Bool :=
  isAsciiDigit c || c = '.' || c = 'e' || c = 'E' || c = '+' || c = '-'

/-- Reads as a number, with white space around it. -/
def readsAsNumber (chars : List Char) : Bool :=
  let inner := trimChars chars
  !inner.isEmpty && inner.all isNumberChar && (Number.readBinary64? inner).isSome

/-- The text is written without quotes because of its form as a number. -/
def looksNumericChars (policy : LiteralPolicy) (chars : List Char) : Bool :=
  match policy with
  | .alwaysQuote => false
  | .strict => isUsualNumber chars
  | .permissive => readsAsNumber chars

/-! ### Writing -/

/-- Every quote twice. -/
def doubleQuotes : List Char → List Char
  | [] => []
  | c :: rest => if c = '\'' then '\'' :: '\'' :: doubleQuotes rest else c :: doubleQuotes rest

/-- A text between quotes. -/
def quoteChars (chars : List Char) : List Char :=
  '\'' :: (doubleQuotes chars ++ ['\''])

/-- A text as a literal: a reference as it is, a number without quotes, anything else with them. -/
def textChars (policy : LiteralPolicy) (chars : List Char) : List Char :=
  if isReferenceChars chars then chars
  else if looksNumericChars policy chars then trimChars chars
  else quoteChars chars

/-! ### The same on strings -/

/-- A text between quotes, with every quote inside doubled. -/
def quote (text : String) : String :=
  String.ofList (quoteChars text.toList)

/-- The text is the reference to a parameter. -/
def isReference (text : String) : Bool :=
  isReferenceChars text.toList

/-- The text is written without quotes because of its form as a number. -/
def looksNumeric (policy : LiteralPolicy) (text : String) : Bool :=
  looksNumericChars policy text.toList

def ofText (policy : LiteralPolicy) (text : String) : String :=
  String.ofList (textChars policy text.toList)

mutual

/-- A value as a literal; a list as its items with commas between them. -/
def ofValue (policy : LiteralPolicy) : Value → String
  | .null => "NULL"
  | .bool flag => if flag then "TRUE" else "FALSE"
  | .int number => toString number.toInt
  | .float number => if number.isFinite then number.display else quote number.display
  | .string text => ofText policy text
  | .date day => quote day.render
  | .moment time => quote time.render
  | .list items => join ", " (ofValues policy items)

/-- The items of a list as literals. -/
def ofValues (policy : LiteralPolicy) : List Value → List String
  | [] => []
  | item :: items => ofValue policy item :: ofValues policy items

end

end Literal

end QueryComposer
