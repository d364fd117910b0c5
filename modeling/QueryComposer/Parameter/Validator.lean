import QueryComposer.Error.Basic
import QueryComposer.Number.Decimal
import QueryComposer.Pattern.Basic

set_option autoImplicit false

/-!
Checks of parameter values beyond their type: bounds for numbers, a pattern for texts, a longest
length for texts and lists, and any condition under a name.
-/

namespace QueryComposer

open QueryComposer.Text QueryComposer.Number

/-- A check of a value. -/
inductive Validator
  | range (least most : Option Binary64)
  | pattern (expected : Pattern) (message : String)
  | maxLength (limit : UInt64)
  | predicate (name message : String) (holds : Value → Bool)

namespace Validator

/-- The name under which failures of the check are reported. -/
def name : Validator → String
  | .range .. => "RangeValidator"
  | .pattern .. => "PatternValidator"
  | .maxLength _ => "MaxLengthValidator"
  | .predicate name .. => name

/-- The number that a value stands for; a text stands for one if it reads as one. -/
def numberOf? : Value → Option Binary64
  | .int number => some (.ofInt number.toInt)
  | .float number => some number
  | .string text => readBinary64? (trimChars text.toList)
  | _ => none

/-- Why a number is out of bounds. -/
def rangeFailure? (least most : Option Binary64) (number : Binary64) : Option String :=
  let tooSmall := (least.filter (fun bound => number.lt bound)).map (fun bound =>
    s!"Ensure this value is greater than or equal to {bound.display}.")
  let tooLarge := (most.filter (fun bound => bound.lt number)).map (fun bound =>
    s!"Ensure this value is less than or equal to {bound.display}.")
  tooSmall.or tooLarge

/-- The length of a text or a list. -/
def lengthOf? : Value → Option Nat
  | .string text => some text.length
  | .list items => some items.length
  | _ => none

/-- Why the value fails the check, if it does. Values that the check is not about pass it. -/
def failureText? (validator : Validator) (value : Value) : Option String :=
  match validator with
  | .range least most => (numberOf? value).bind (rangeFailure? least most)
  | .pattern expected message =>
    match value with
    | .string text => if expected.matchesIn text.toList then none else some message
    | _ => none
  | .maxLength limit =>
    ((lengthOf? value).filter (fun length => limit.toNat < length)).map (fun length =>
      s!"Ensure this value has at most {limit.toNat} characters (it has {length}).")
  | .predicate _ message holds => if holds value then none else some message

/-- The failure of the value under the check. -/
def failure? (validator : Validator) (value : Value) : Option ValidationError :=
  (validator.failureText? value).map (fun text =>
    .mk text "custom" [("validator", validator.name)] [])

end Validator

end QueryComposer
