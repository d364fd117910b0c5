import QueryComposer.Pattern.Basic
import QueryComposer.Sql.Placeholder
import QueryComposer.Text.Case

set_option autoImplicit false

/-!
The type of a parameter as its surroundings suggest it: from fifty characters on either side of its
placeholder, which itself is replaced by a fixed word, and from the words of its name when they say
nothing.
-/

namespace QueryComposer

open QueryComposer.Text

namespace ParameterContext

open QueryComposer.Pattern

/-! ### The surroundings -/

/-- How many characters count on each side. -/
def reach : Nat := 50

/-- The word that stands for the placeholder. -/
def slotWord : String := "qc_param_slot"

/-- The surroundings of a placeholder in lower case. -/
def window (masked : List Char) (placeholder : Placeholder) : List Char :=
  let (before, tail) := Placeholder.splitBytes placeholder.start masked
  let (_, after) := Placeholder.splitBytes (placeholder.stop - placeholder.start) tail
  lowerChars (before.drop (before.length - reach) ++ slotWord.toList ++ after.take reach)

/-! ### Pieces of patterns -/

/-- The placeholder. -/
def slot : Pattern := literal slotWord

/-- White space or none. -/
def spaces : Pattern := star (.char .blank)

/-- White space. -/
def someSpaces : Pattern := plus (.char .blank)

/-- The start of a longer name that ends in an underscore, or nothing. -/
def longerName : Pattern := optional (.seq (plus (.char .word)) (literal "_"))

/-- A name that is one of the words or ends in one after an underscore. -/
def nameEnding (words : List String) : Pattern :=
  sequence [boundary, longerName, oneOf words]

/-- One of the operators, and the placeholder. -/
def comparedBy (operators : List String) : Pattern :=
  sequence [spaces, oneOf operators, spaces, slot]

/-- The placeholder as a bound of a range. -/
def asBound : Pattern :=
  sequence [someSpaces, optional (.seq (literal "not") someSpaces), literal "between", someSpaces,
    optional (sequence
      [plus (.char (.complement .blank)), someSpaces, literal "and", someSpaces]),
    slot]

/-- Anything without parentheses. -/
def insideParentheses : Pattern :=
  star (.char (.complement (.ofText "()")))

/-- The placeholder with a cast to one of the types. -/
def castTo (types : List String) : Pattern :=
  sequence [slot, spaces, literal "::", spaces, oneOf types, boundary]

/-! ### What the surroundings suggest -/

/-- The last words of names of days and times. -/
def dateWords : List String :=
  ["date", "time", "timestamp", "datetime", "day", "month", "year", "at", "on"]

/-- The last words of names of numbers. -/
def numberWords : List String :=
  [ "id", "count", "amount", "price", "total", "qty", "quantity", "age", "num", "number", "size",
    "score", "rank" ]

/-- The last words of names of truth values. -/
def booleanWords : List String :=
  ["active", "enabled", "disabled", "deleted", "verified", "visible", "archived", "flag"]

/-- The operators for equal and unequal values. -/
def equalities : List String := ["=", "!=", "<>"]

/-- The operators for ordered values. -/
def orderings : List String := ["<=", ">=", "<", ">"]

/-- The surroundings of a day or a time. -/
def datePattern : Pattern :=
  choice
    [ .seq (nameEnding dateWords) (comparedBy (equalities ++ orderings)),
      .seq (nameEnding dateWords) asBound,
      sequence [boundary, oneOf ["date", "timestamp", "time"], someSpaces, slot],
      sequence [boundary, oneOf ["to_date", "to_timestamp", "date_trunc", "date"], spaces,
        literal "(", insideParentheses, slot],
      castTo ["date", "timestamptz", "timestamp", "time"] ]

/-- The surroundings of a number. -/
def numberPattern : Pattern :=
  choice
    [ sequence [.alt (.anchored .textStart) (.char (.complement (.single '<'))), oneOf orderings,
        spaces, slot],
      sequence [boundary, oneOf ["limit", "offset", "top"], someSpaces, slot],
      sequence [.char (.ofText "-+*/%"), spaces, slot],
      .seq (nameEnding numberWords) (comparedBy equalities),
      .seq (nameEnding numberWords) asBound,
      castTo ["int", "integer", "bigint", "smallint", "numeric", "decimal", "float", "real",
        "double"] ]

/-- The surroundings of a truth value. -/
def booleanPattern : Pattern :=
  choice
    [ sequence [boundary, literal "is", someSpaces, optional (.seq (literal "not") someSpaces),
        slot],
      sequence [boundary, oneOf ["is", "has", "can", "should", "allow"], literal "_",
        plus (.char .word), comparedBy equalities],
      .seq (nameEnding booleanWords) (comparedBy equalities),
      castTo ["bool", "boolean"] ]

/-- The surroundings of a list. -/
def listPattern : Pattern :=
  choice
    [ sequence [boundary, literal "in", spaces, literal "(", spaces,
        optional (sequence [insideParentheses, literal ",", spaces]), slot],
      sequence [boundary, oneOf ["any", "all"], spaces, literal "(", spaces, slot],
      sequence [slot, spaces, literal "::", spaces, plus (.char .word), literal "[]"] ]

/-- The type that the surroundings suggest; the first pattern that matches decides. -/
def suggests? (context : List Char) : Option ValueType :=
  if datePattern.matchesIn context then some .date
  else if numberPattern.matchesIn context then some .number
  else if booleanPattern.matchesIn context then some .boolean
  else if listPattern.matchesIn context then some .array
  else none

end ParameterContext

namespace ParameterName

/-! ### What the name suggests -/

/-- An upper-case letter. -/
def isUpper (c : Char) : Bool :=
  'A' ≤ c && c ≤ 'Z'

/-- A word ends after this character when an upper-case letter follows. -/
def endsWord (c : Char) : Bool :=
  ('a' ≤ c && c ≤ 'z') || isAsciiDigit c

/-- The words of a name in lower case, with the present word last first. Words are separated by
underscores, and by a lower-case letter or digit before an upper-case letter. -/
def wordsFrom (word : List Char) (wordMayEnd : Bool) : List Char → List String
  | [] => if word.isEmpty then [] else [String.ofList word.reverse]
  | c :: rest =>
    if c = '_' then
      if word.isEmpty then wordsFrom [] false rest
      else String.ofList word.reverse :: wordsFrom [] false rest
    else if isUpper c && wordMayEnd && !word.isEmpty then
      String.ofList word.reverse :: wordsFrom [c.toLower] (endsWord c) rest
    else wordsFrom (c.toLower :: word) (endsWord c) rest

/-- The words of a name in lower case. -/
def words (name : String) : List String :=
  wordsFrom [] false name.toList

/-- The last words of days and times. -/
def dateEndings : List String :=
  [ "date", "time", "timestamp", "datetime", "at", "day", "month", "year", "since", "until" ]

/-- The last words of numbers. -/
def numberEndings : List String :=
  [ "id", "count", "limit", "offset", "amount", "price", "total", "qty", "quantity", "age", "num",
    "number", "size", "page", "min", "max" ]

/-- The first words of truth values. -/
def booleanStarts : List String :=
  ["is", "has", "can", "should", "include"]

/-- The last words of truth values. -/
def booleanEndings : List String :=
  ["flag", "enabled", "active"]

/-- The last words of lists. -/
def listEndings : List String :=
  ["ids", "list", "values"]

/-- The type that a name suggests; text if it suggests none. -/
def suggestedType (name : String) : ValueType :=
  let all := words name
  let first := all.head?.getD ""
  let last := all.getLast?.getD ""
  if dateEndings.contains last then .date
  else if numberEndings.contains last then .number
  else if booleanStarts.contains first || booleanEndings.contains last then .boolean
  else if listEndings.contains last then .array
  else .string

end ParameterName

namespace Placeholder

/-- The type of a placeholder's parameter, from its surroundings in the masked text or from its
name. -/
def inferredType (masked : List Char) (placeholder : Placeholder) : ValueType :=
  match ParameterContext.suggests? (ParameterContext.window masked placeholder) with
  | some type => type
  | none =>
    if placeholder.kind = .named then ParameterName.suggestedType placeholder.name else .string

end Placeholder

end QueryComposer
