import QueryComposer.Calendar.Reader
import QueryComposer.Json.Decode
import QueryComposer.Value.Basic

set_option autoImplicit false

/-!
Values, types and condition values as data values, and back.
-/

namespace QueryComposer

namespace ValueType

def toJson (type : ValueType) : Json :=
  .string type.name

/-- The type that a data value names, given how the value was delivered. -/
def read? (delivery : Json.Delivery) : Json → Option ValueType :=
  Json.choose? delivery (all.map (fun type => (type.name, type)))

def ofJson? : Json → Option ValueType :=
  read? .direct

end ValueType

namespace Value

/-- The kinds of value under their names in data files. -/
inductive Kind
  | null
  | bool
  | int
  | float
  | string
  | date
  | moment
  | list
deriving DecidableEq, Repr

def kindNames : List (String × Kind) :=
  [ ("Null", .null), ("Bool", .bool), ("Int", .int), ("Float", .float), ("String", .string),
    ("Date", .date), ("DateTime", .moment), ("List", .list) ]

/-- A kind and its content as a data value. -/
def tagged (kind : String) (content : Json) : Json :=
  .object [("type", .string kind), ("value", content)]

mutual

def toJson : Value → Json
  | .null => .object [("type", .string "Null")]
  | .bool flag => tagged "Bool" (.bool flag)
  | .int number => tagged "Int" (.ofInt number.toInt)
  | .float number => tagged "Float" (.ofBinary64 number)
  | .string text => tagged "String" (.string text)
  | .date day => tagged "Date" (.string day.render)
  | .moment time => tagged "DateTime" (.string time.dataText)
  | .list items => tagged "List" (.array (itemsToJson items))

/-- The items of a list as data values. -/
def itemsToJson : List Value → List Json
  | [] => []
  | item :: items => toJson item :: itemsToJson items

end

/-- The value of a kind with the given content; the content of a list is decoded by the given
decoder. -/
def ofContent? (kind : Kind) (content : Json) (decodeList : Option (List Value)) : Option Value :=
  match kind with
  | .null =>
    match content with
    | .null => some .null
    | _ => none
  | .bool => content.asBool?.map .bool
  | .int => content.asInt64?.map .int
  | .float => content.asBinary64?.map .float
  | .string => content.asString?.map .string
  | .date => (content.asString?.bind Calendar.readDataDay?).map .date
  | .moment => (content.asString?.bind Calendar.readDataMoment?).map .moment
  | .list => decodeList.map .list

/-- The value that a data value stands for, given how the data value was delivered. -/
def read? (delivery : Json.Delivery) (json : Json) : Option Value :=
  match tagged : json.asTagged? delivery "type" "value" kindNames with
  | none => none
  | some (kind, none) => if kind = .null then some .null else none
  | some (kind, some content) =>
    ofContent? kind content.value
      (if kind = .list then
        content.value.asListWithin? (fun item smaller =>
          have := Json.sizeOf_asTagged? tagged
          have := smaller
          read? content.delivery item)
      else none)
termination_by sizeOf json
decreasing_by omega

def ofJson? (json : Json) : Option Value :=
  read? .direct json

end Value

namespace Arity

def name : Arity → String
  | .none => "none"
  | .single => "single"
  | .list => "list"
  | .range => "range"

end Arity

namespace ConditionValue

/-- The names of the shapes. -/
def shapeNames : List (String × Arity) :=
  [("none", .none), ("scalar", .single), ("list", .list), ("range", .range)]

/-- A shape and its content as a data value. -/
def tagged (shape : String) (content : Json) : Json :=
  .object [("kind", .string shape), ("value", content)]

def toJson : ConditionValue → Json
  | .none => .object [("kind", .string "none")]
  | .scalar value => tagged "scalar" value.toJson
  | .list values => tagged "list" (.array (values.map Value.toJson))
  | .range low high => tagged "range" (.array [low.toJson, high.toJson])

/-- The bounds of a range: an array of two values. -/
def rangeOf? : List Value → Option ConditionValue
  | [low, high] => some (.range low high)
  | _ => Option.none

/-- The condition value of a shape with the given content. -/
def ofContent? : Arity → Option Json.Content → Option ConditionValue
  | .none, content => if Json.isAbsent content then some .none else Option.none
  | _, Option.none => Option.none
  | .single, some content => (Value.read? content.delivery content.value).map .scalar
  | .list, some content => (content.value.asList? (Value.read? content.delivery)).map .list
  | .range, some content =>
    (content.value.asList? (Value.read? content.delivery)).bind rangeOf?

/-- The condition value that a data value stands for, given how the data value was delivered. -/
def read? (delivery : Json.Delivery) (json : Json) : Option ConditionValue :=
  (json.asTagged? delivery "kind" "value" shapeNames).bind (fun (shape, content) =>
    ofContent? shape content)

def ofJson? (json : Json) : Option ConditionValue :=
  read? .direct json

end ConditionValue

end QueryComposer
