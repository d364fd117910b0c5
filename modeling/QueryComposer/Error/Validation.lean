import QueryComposer.Json.Basic
import QueryComposer.Text.Basic

set_option autoImplicit false

/-!
The failures of values that were supplied for parameters: single ones, and reports that gather those
of several parameters under their names.
-/

namespace QueryComposer

open QueryComposer.Text

/-- Why the value of a parameter is refused. A report about several parameters has no message and
no code of its own but failures under the parameters' names. -/
inductive ValidationError
  | mk (message code : String) (details : List (String × String))
      (fields : List (String × List ValidationError))
deriving Repr

namespace ValidationError

instance : Inhabited ValidationError := ⟨.mk "" "" [] []⟩

/-- A single failure. -/
def single (message code : String) : ValidationError :=
  .mk message code [] []

/-- A report about several parameters. -/
def report (fields : List (String × List ValidationError)) : ValidationError :=
  .mk "" "" [] fields

/-- The code of the kind of failure. -/
def code : ValidationError → String
  | .mk _ code _ _ => code

/-- The values that belong to the message. -/
def details : ValidationError → List (String × String)
  | .mk _ _ details _ => details

/-- The failures of parameters. -/
def fields : ValidationError → List (String × List ValidationError)
  | .mk _ _ _ fields => fields

/-- One text per failure, in the order of the parameters' names. -/
def inNameOrder (texts : List (String × List String)) : List String :=
  (texts.mergeSort (fun left right => left.1 ≤ right.1)).flatMap (fun (name, messages) =>
    messages.map (fun message => name ++ ": " ++ message))

mutual

/-- The message, or those of the parameters in the order of their names. -/
def message : ValidationError → String
  | .mk own _ _ fields =>
    if own ≠ "" || fields.isEmpty then own
    else join "; " (inNameOrder (fieldMessages fields))

/-- The messages of each parameter. -/
def fieldMessages : List (String × List ValidationError) → List (String × List String)
  | [] => []
  | (name, failures) :: fields => (name, messages failures) :: fieldMessages fields

/-- The messages of some failures. -/
def messages : List ValidationError → List String
  | [] => []
  | failure :: failures => message failure :: messages failures

end

mutual

/-- The failure as a data value, with those of parameters if there are any. -/
def toJson : ValidationError → Json
  | .mk own code details fields =>
    .object ([("message", .string own), ("code", .string code),
      ("params", .object (details.map (fun (name, text) => (name, .string text))))] ++
      (if fields.isEmpty then [] else [("fields", .object (fieldsToJson fields))]))

/-- The failures of parameters as members. -/
def fieldsToJson : List (String × List ValidationError) → List (String × Json)
  | [] => []
  | (name, failures) :: fields => (name, .array (listToJson failures)) :: fieldsToJson fields

/-- Some failures as data values. -/
def listToJson : List ValidationError → List Json
  | [] => []
  | failure :: failures => toJson failure :: listToJson failures

end

end ValidationError

end QueryComposer
