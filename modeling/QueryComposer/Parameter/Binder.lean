import QueryComposer.Entries
import QueryComposer.Parameter.Descriptor
import QueryComposer.Parameter.Reading
import QueryComposer.Parameter.Validator

set_option autoImplicit false

/-!
Binding values to parameters. A value is checked against its parameter, and only when all values
pass are they turned into the types of their parameters.
-/

namespace QueryComposer

/-- Values under the names of parameters. -/
abbrev ParameterValues := Entries Value

/-- The failures of values, under the names of their parameters. -/
structure ValidationReport where
  errors : Entries ValidationError
deriving Repr

namespace ValidationReport

/-- No value fails. -/
def isValid (report : ValidationReport) : Bool :=
  report.errors.isEmpty

def toError (report : ValidationReport) : ValidationError :=
  .report (report.errors.map (fun (name, error) => (name, [error])))

/-- The report as a data value, with the failures and with their messages. -/
def toJson (report : ValidationReport) : Json :=
  .object [("is_valid", .bool report.isValid),
    ("errors", .object (report.errors.map (fun (name, error) => (name, error.toJson)))),
    ("messages", .object (report.errors.map (fun (name, error) => (name, .string error.message))))]

end ValidationReport

/-- A value under the name of its parameter. -/
structure BoundParameter where
  name : String
  value : Value
deriving Repr

namespace BoundParameter

def toJson (bound : BoundParameter) : Json :=
  .object [("name", .string bound.name), ("value", bound.value.toJson)]

/-- The value that is bound first to a name. -/
def value? (bound : List BoundParameter) (name : String) : Option Value :=
  (bound.find? (fun parameter => parameter.name = name)).map BoundParameter.value

/-- The bound values under their names. -/
def toValues (bound : List BoundParameter) : ParameterValues :=
  Entries.ofList (bound.map (fun parameter => (parameter.name, parameter.value)))

end BoundParameter

namespace Parameter

/-- The value can be one of the type; texts can if they read as one. -/
def fitsType (type : ValueType) (value : Value) : Bool :=
  match type, value with
  | .number, .int _ => true
  | .number, .float number => number.isFinite
  | .number, .string text => (Value.readNumber? text).isSome
  | .number, _ => false
  | .date, .date _ => true
  | .date, .moment _ => true
  | .date, .string text => (Value.readDate? text).isSome
  | .date, _ => false
  | .array, .list _ => true
  | .array, _ => false
  | .string, _ => true
  | .boolean, _ => true

/-- The failure of a value that cannot be one of the type. -/
def typeFailure (type : ValueType) : ValidationError :=
  match type with
  | .number => .single "Enter a number." "invalid_number"
  | .date => .single "Enter a valid date." "invalid_date"
  | _ => .single "Enter a list of values." "invalid_array"

/-- The failure of a required parameter without a value. -/
def missingFailure : ValidationError :=
  .single "This parameter is required." "required"

/-- The value as one of the type, as far as it can be. -/
def coerce (type : ValueType) (value : Value) : Value :=
  match type, value with
  | .number, .string text => (Value.readNumber? text).getD value
  | .date, .string text => (Value.readDate? text).getD value
  | .boolean, .string text => ((Value.readBool? text).map Value.bool).getD value
  | .boolean, .int number => .bool (number ≠ 0)
  | _, _ => value

end Parameter

/-- Further checks of values, under the names of their parameters, in the order in which they are
made. -/
structure Binder where
  validators : List (String × Validator) := []

namespace Binder

/-- The binder with one more check. -/
def add (binder : Binder) (name : String) (validator : Validator) : Binder :=
  { validators := binder.validators ++ [(name, validator)] }

/-- The supplied value, unless it is empty. -/
def supplied? (value : Option Value) : Option Value :=
  value.filter (fun content => !content.isEmpty)

/-- The first failure among the further checks. -/
def customFailure? (binder : Binder) (name : String) (value : Value) : Option ValidationError :=
  binder.validators.findSome? (fun (parameter, validator) =>
    if parameter = name then validator.failure? value else none)

/-- The failure of a value for a parameter, if it fails. -/
def validate (binder : Binder) (parameter : Parameter) (value : Option Value) :
    Option ValidationError :=
  match supplied? value with
  | none => if parameter.required then some Parameter.missingFailure else none
  | some content =>
    if Parameter.fitsType parameter.type content then
      binder.customFailure? parameter.name content
    else some (Parameter.typeFailure parameter.type)

/-- The failures of all parameters. -/
def validateAll (binder : Binder) (parameters : List Parameter) (values : ParameterValues) :
    ValidationReport :=
  ⟨Entries.ofList (parameters.filterMap (fun parameter =>
    (binder.validate parameter (values.get? parameter.name)).map (fun error =>
      (parameter.name, error))))⟩

/-- The value that a parameter gets: the supplied one in its type, or the default, or null. -/
def boundValue (parameter : Parameter) (values : ParameterValues) : Value :=
  match supplied? (values.get? parameter.name) with
  | some content => Parameter.coerce parameter.type content
  | none => parameter.defaultValue.getD .null

/-- The values of all parameters, in their order, if none fails. -/
def bind (binder : Binder) (parameters : List Parameter) (values : ParameterValues) :
    Except Error (List BoundParameter) :=
  let report := binder.validateAll parameters values
  if report.isValid then
    .ok (parameters.map (fun parameter =>
      { name := parameter.name, value := boundValue parameter values }))
  else .error (.validation report.toError)

end Binder

end QueryComposer
