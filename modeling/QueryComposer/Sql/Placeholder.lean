import QueryComposer.Sql.Lexical
import QueryComposer.Sql.Literal

set_option autoImplicit false

/-!
The placeholders of an SQL text: a colon and a name, or a question mark. They are found in the
masked text, and replaced in the text itself in one pass from left to right.
-/

namespace QueryComposer

open QueryComposer.Text

/-- How a parameter is written. -/
inductive ParameterKind
  | named
  | positional
deriving DecidableEq, Repr

/-- A placeholder with the places, counted in bytes, where it begins and ends. -/
structure Placeholder where
  start : Nat
  stop : Nat
  name : String
  kind : ParameterKind
deriving DecidableEq, Repr

namespace Placeholder

/-- No name may follow a colon after this character. -/
def blocksName (previous : Option Char) : Bool :=
  previous.any (fun c => c = ':' || c = '_' || isAlphanumeric c)

/-- The name that follows a colon, if one does. -/
def nameAfter? (previous : Option Char) (rest : List Char) : Option (List Char) :=
  if !blocksName previous && rest.head?.any Literal.startsName then
    some (rest.takeWhile Literal.continuesName)
  else none

/-- A question mark before this character is an operator. -/
def blocksQuestion (next : Option Char) : Bool :=
  next.any (fun c => c = '|' || c = '&')

/-- The placeholders of a masked text from a place on, given the character before it and how many
question marks came before. -/
def scanFrom (offset : Nat) (previous : Option Char) (questions : Nat) :
    List Char → List Placeholder
  | [] => []
  | c :: rest =>
    let after := offset + c.utf8Size
    if c = ':' then
      match nameAfter? previous rest with
      | some name =>
        { start := offset, stop := after + name.length, name := String.ofList name,
          kind := .named } :: scanFrom after (some c) questions rest
      | none => scanFrom after (some c) questions rest
    else if c = '?' && !blocksQuestion rest.head? then
      { start := offset, stop := after, name := s!"param{questions + 1}", kind := .positional } ::
        scanFrom after (some c) (questions + 1) rest
    else scanFrom after (some c) questions rest

/-- The placeholders of a masked text. -/
def ofMasked (masked : List Char) : List Placeholder :=
  scanFrom 0 none 0 masked

/-- The placeholders of an SQL text. -/
def scan (sql : String) : List Placeholder :=
  ofMasked (Lexical.maskChars sql.toList)

/-! ### Replacement -/

/-- The characters of the first bytes of a text, and the others. -/
def splitBytes : Nat → List Char → List Char × List Char
  | _, [] => ([], [])
  | count, c :: rest =>
    if count = 0 then ([], c :: rest)
    else
      let (before, after) := splitBytes (count - c.utf8Size) rest
      (c :: before, after)

/-- The text with other texts in the place of its placeholders, from a place on. -/
def replaceFrom (offset : Nat) : List (Placeholder × String) → List Char → List Char
  | [], chars => chars
  | (placeholder, text) :: others, chars =>
    let (before, tail) := splitBytes (placeholder.start - offset) chars
    let (_, after) := splitBytes (placeholder.stop - placeholder.start) tail
    before ++ text.toList ++ replaceFrom placeholder.stop others after

/-- The text with other texts in the place of its placeholders. -/
def replace (replacements : List (Placeholder × String)) (sql : String) : String :=
  String.ofList (replaceFrom 0 replacements sql.toList)

end Placeholder

end QueryComposer
