import QueryComposer.Calendar.Date
import QueryComposer.Number.Shortest

set_option autoImplicit false

/-!
Literal values, the types that columns and parameters have, and the shapes in which a condition
holds its values.
-/

namespace QueryComposer

open QueryComposer.Number QueryComposer.Text

/-! ### Types -/

/-- The type of a column or a parameter. -/
inductive ValueType
  | string
  | number
  | boolean
  | date
  | array
deriving DecidableEq, Repr, Inhabited

/-! ### Values -/

/-- A literal value. A moment is a day with a time. -/
inductive Value
  | null
  | bool (flag : Bool)
  | int (number : Int64)
  | float (number : Binary64)
  | string (text : String)
  | date (day : Calendar.Date)
  | moment (time : Calendar.DateTime)
  | list (items : List Value)
deriving Repr

namespace Value

instance : Inhabited Value := ⟨.null⟩

def isNull : Value → Bool
  | .null => true
  | _ => false

/-- Nothing was filled in: null, a blank text or an empty list. -/
def isEmpty : Value → Bool
  | .null => true
  | .string text => isBlankText text
  | .list items => items.isEmpty
  | _ => false

/-- The type of a column that holds the value. -/
def type : Value → ValueType
  | .null => .string
  | .string _ => .string
  | .bool _ => .boolean
  | .int _ => .number
  | .float _ => .number
  | .date _ => .date
  | .moment _ => .date
  | .list _ => .array

mutual

/-- The value as plain text. -/
def display : Value → String
  | .null => "NULL"
  | .bool flag => if flag then "true" else "false"
  | .int number => toString number.toInt
  | .float number => number.display
  | .string text => text
  | .date day => day.render
  | .moment time => time.render
  | .list items => "[" ++ join ", " (displayItems items) ++ "]"

/-- The plain texts of the items of a list. -/
def displayItems : List Value → List String
  | [] => []
  | item :: items => display item :: displayItems items

end

/-- The value when there is one, and null otherwise. -/
def ofOption {α : Type} (wrap : α → Value) : Option α → Value
  | none => .null
  | some content => wrap content

/-- A list of values. -/
def ofList {α : Type} (wrap : α → Value) (items : List α) : Value :=
  .list (items.map wrap)

end Value

namespace ValueType

/-- All types in display order. -/
def all : List ValueType :=
  [.string, .number, .boolean, .date, .array]

def name : ValueType → String
  | .string => "string"
  | .number => "number"
  | .boolean => "boolean"
  | .date => "date"
  | .array => "array"

/-- The value of a field of this type that was not filled in. -/
def emptyValue : ValueType → Value
  | .string => .string ""
  | .number => .int 0
  | .boolean => .bool false
  | .date => .null
  | .array => .list []

end ValueType

/-! ### Shapes of condition values -/

/-- How many values an operator takes: none, one, any number, or a lower and an upper bound. -/
inductive Arity
  | none
  | single
  | list
  | range
deriving DecidableEq, Repr

/-- The value that a condition holds, in one of the shapes. -/
inductive ConditionValue
  | none
  | scalar (value : Value)
  | list (values : List Value)
  | range (low high : Value)
deriving Repr

namespace ConditionValue

instance : Inhabited ConditionValue := ⟨.scalar (.string "")⟩

/-- The shape that an arity asks for, with nothing filled in. -/
def emptyFor (type : ValueType) : Arity → ConditionValue
  | .none => .none
  | .single => .scalar type.emptyValue
  | .list => .list []
  | .range => .range type.emptyValue type.emptyValue

/-- The arity that a shape belongs to. -/
def arity : ConditionValue → Arity
  | .none => .none
  | .scalar _ => .single
  | .list _ => .list
  | .range _ _ => .range

/-- The shape is the one the arity asks for. -/
def fits (value : ConditionValue) (arity : Arity) : Bool :=
  value.arity = arity

end ConditionValue

end QueryComposer
