import QueryComposer.Text.Case
import QueryComposer.UnknownName
import QueryComposer.Value.Basic

set_option autoImplicit false

/-!
The comparison operators: how each is written and labelled, which types it applies to and how many
values it takes.
-/

namespace QueryComposer

open QueryComposer.Text

/-- A comparison operator. -/
inductive Operator
  | equal
  | notEqual
  | greater
  | greaterEqual
  | less
  | lessEqual
  | like
  | notLike
  | among
  | notAmong
  | between
  | notBetween
  | isNull
  | isNotNull
deriving DecidableEq, Repr

namespace Operator

/-- All operators in display order. -/
def all : List Operator :=
  [ .equal, .notEqual, .greater, .greaterEqual, .less, .lessEqual, .like, .notLike, .among,
    .notAmong, .between, .notBetween, .isNull, .isNotNull ]

/-- The operator as it is written in SQL. -/
def symbol : Operator → String
  | .equal => "="
  | .notEqual => "!="
  | .greater => ">"
  | .greaterEqual => ">="
  | .less => "<"
  | .lessEqual => "<="
  | .like => "LIKE"
  | .notLike => "NOT LIKE"
  | .among => "IN"
  | .notAmong => "NOT IN"
  | .between => "BETWEEN"
  | .notBetween => "NOT BETWEEN"
  | .isNull => "IS NULL"
  | .isNotNull => "IS NOT NULL"

/-- The operator as it is offered for choice. -/
def label : Operator → String
  | .equal => "equals"
  | .notEqual => "does not equal"
  | .greater => "greater than"
  | .greaterEqual => "greater than or equal to"
  | .less => "less than"
  | .lessEqual => "less than or equal to"
  | .like => "contains"
  | .notLike => "does not contain"
  | .among => "is one of"
  | .notAmong => "is not one of"
  | .between => "is between"
  | .notBetween => "is not between"
  | .isNull => "is empty"
  | .isNotNull => "is not empty"

/-- How many values the operator takes. -/
def arity : Operator → Arity
  | .among => .list
  | .notAmong => .list
  | .between => .range
  | .notBetween => .range
  | .isNull => .none
  | .isNotNull => .none
  | _ => .single

/-- The types that the operator is limited to, if it is limited. -/
def onlyTypes? : Operator → Option (List ValueType)
  | .greater | .greaterEqual | .less | .lessEqual | .between | .notBetween => some [.number, .date]
  | .among | .notAmong => some [.string, .number]
  | .like | .notLike => some [.string]
  | .equal | .notEqual | .isNull | .isNotNull => none

/-- The operator may compare a column of the type. -/
def appliesTo (operator : Operator) (type : ValueType) : Bool :=
  match operator.onlyTypes? with
  | none => true
  | some types => types.contains type

/-- The operators for a column of the type; all of them while the type is not known. -/
def available (type? : Option ValueType) : List Operator :=
  match type? with
  | none => all
  | some type => all.filter (fun operator => operator.appliesTo type)

/-- The first operator for a column of the type. -/
def defaultFor (type : ValueType) : Operator :=
  (available (some type)).headD .equal

/-- Read an operator: its symbol, in either case and with any white space between its words. -/
def parse (text : String) : Except UnknownName Operator :=
  let normalized := toUpper (join " " (words text))
  if normalized = "<>" then .ok .notEqual
  else
    match all.find? (fun operator => operator.symbol = normalized) with
    | some operator => .ok operator
    | none => .error ⟨"operator", text⟩

end Operator

end QueryComposer
