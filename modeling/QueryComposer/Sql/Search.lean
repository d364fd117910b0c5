import QueryComposer.Sql.Placeholder

set_option autoImplicit false

/-!
The search for placeholders in two passes over a masked text. One pass looks for a colon and a name,
goes on behind the name wherever it finds them, and drops those that the character before the colon
forbids; the other one looks for question marks among the bytes. What both find is put in order.
-/

namespace QueryComposer.Placeholder

open QueryComposer.Text

/-- The colons with names behind them from a place on, given how many characters of the last name
are still to be passed over. A name is as long as it can be. -/
def colonsFrom (offset : Nat) : Nat → List Char → List Placeholder
  | _, [] => []
  | passing + 1, c :: rest => colonsFrom (offset + c.utf8Size) passing rest
  | 0, c :: rest =>
    let after := offset + c.utf8Size
    if c = ':' && rest.head?.any Literal.startsName then
      let name := rest.takeWhile Literal.continuesName
      { start := offset, stop := after + name.length, name := String.ofList name,
        kind := .named } :: colonsFrom after name.length rest
    else colonsFrom after 0 rest

/-- The character before a placeholder of a masked text. -/
def previousIn (masked : List Char) (placeholder : Placeholder) : Option Char :=
  (splitBytes placeholder.start masked).1.getLast?

/-- The placeholders with names. -/
def colons (masked : List Char) : List Placeholder :=
  (colonsFrom 0 0 masked).filter (fun placeholder => !blocksName (previousIn masked placeholder))

/-- A question mark before this byte is an operator: before `|` and `&`. -/
def blocksQuestionByte (next : Option UInt8) : Bool :=
  next.any (fun byte => byte = 0x7C || byte = 0x26)

/-- The question marks among bytes, given the place of the first byte and how many came before. -/
def questionsFrom (index questions : Nat) : List UInt8 → List Placeholder
  | [] => []
  | byte :: rest =>
    if byte = 0x3F && !blocksQuestionByte rest.head? then
      { start := index, stop := index + 1, name := s!"param{questions + 1}",
        kind := .positional } :: questionsFrom (index + 1) (questions + 1) rest
    else questionsFrom (index + 1) questions rest

/-- What both passes find in a masked text, in the order of places. -/
def searchMasked (masked : List Char) : List Placeholder :=
  (colons masked ++ questionsFrom 0 0 (utf8 masked)).mergeSort
    (fun first second => first.start ≤ second.start)

/-- The placeholders of an SQL text, found in two passes. -/
def search (sql : String) : List Placeholder :=
  searchMasked (Lexical.maskChars sql.toList)

end QueryComposer.Placeholder
