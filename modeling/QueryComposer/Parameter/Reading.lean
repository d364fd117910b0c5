import QueryComposer.Calendar.Reader
import QueryComposer.Number.Decimal
import QueryComposer.Text.Case
import QueryComposer.Value.Basic

set_option autoImplicit false

/-!
Reading values from texts as people enter them, with white space around them.
-/

namespace QueryComposer.Value

open QueryComposer.Text QueryComposer.Number

/-- A day or a moment. A moment with a time zone comes first, then moments without one, then
days. -/
def readDate? (text : String) : Option Value :=
  let chars := trimChars text.toList
  ((Calendar.readZoned? chars).map .moment).or
    (((Calendar.readMoment? chars).map .moment).or ((Calendar.readDay? chars).map .date))

/-- An integer, or else a finite floating-point number. -/
def readNumber? (text : String) : Option Value :=
  let chars := trimChars text.toList
  match readInt64? chars with
  | some number => some (.int (Int64.ofInt number))
  | none => ((readBinary64? chars).filter Binary64.isFinite).map .float

/-- A truth value in one of the usual words, in either case. -/
def readBool? (text : String) : Option Bool :=
  let word := toLower (trim text)
  if ["true", "1", "yes", "on"].contains word then some true
  else if ["false", "0", "no", "off"].contains word then some false
  else none

end QueryComposer.Value
