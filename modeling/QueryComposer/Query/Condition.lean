import QueryComposer.Operator
import QueryComposer.Query.Table

set_option autoImplicit false

/-!
Conditions: comparisons of a column, combined by groups that hold when all or when one of their
members hold.
-/

namespace QueryComposer

open QueryComposer.Text

/-- How the members of a group are combined. -/
inductive Logic
  | and
  | or
deriving DecidableEq, Repr, Inhabited

namespace Logic

/-- The connective in SQL. -/
def keyword : Logic → String
  | .and => "AND"
  | .or => "OR"

end Logic

/-- A comparison of a column; the column is not qualified while no table is set. -/
structure Comparison where
  tableId : Option TableId := none
  column : String := ""
  operator : Operator := .equal
  type : ValueType := .string
  value : ConditionValue := .scalar (.string "")
deriving Repr

namespace Comparison

/-- A comparison with a single value, whose type the column takes. -/
def compare (column : String) (operator : Operator) (value : Value) : Comparison :=
  { column, operator, type := value.type, value := .scalar value }

/-- A comparison without a value. -/
def nullary (column : String) (operator : Operator) (type : ValueType) : Comparison :=
  { column, operator, type, value := .none }

/-- The column is chosen. -/
def isBound (comparison : Comparison) : Bool :=
  !isBlankText comparison.column

/-- The column is one of the table. -/
def references (comparison : Comparison) (table : TableId) : Bool :=
  comparison.tableId = some table

end Comparison

/-- A condition. -/
inductive Condition
  | leaf (comparison : Comparison)
  | group (logic : Logic) (members : List Condition)
deriving Repr

/-- A group of conditions. The condition of a query is one. -/
structure ConditionGroup where
  logic : Logic := .and
  members : List Condition := []
deriving Repr

namespace Condition

mutual

/-- The comparisons of a condition from left to right. -/
def leaves : Condition → List Comparison
  | .leaf comparison => [comparison]
  | .group _ members => leavesOf members

/-- The comparisons of conditions from left to right. -/
def leavesOf : List Condition → List Comparison
  | [] => []
  | member :: members => leaves member ++ leavesOf members

end

mutual

/-- The members of a group with only the comparisons that are to be kept, or nothing when none has
to go. Groups stay, even when nothing is left in them. -/
def retainOf? (keep : Comparison → Bool) : List Condition → Option (List Condition)
  | [] => none
  | member :: members => retainBefore? keep members (retainOf? keep members) member

/-- The same for a member in front of others, given what is left of those. -/
def retainBefore? (keep : Comparison → Bool) (members : List Condition)
    (fewer : Option (List Condition)) : Condition → Option (List Condition)
  | .leaf comparison =>
    if keep comparison then fewer.map (.leaf comparison :: ·) else some (fewer.getD members)
  | .group logic inner =>
    match retainOf? keep inner, fewer with
    | none, none => none
    | left, rest => some (.group logic (left.getD inner) :: rest.getD members)

end

end Condition

namespace ConditionGroup

def toCondition (group : ConditionGroup) : Condition :=
  .group group.logic group.members

/-- The group with one more member at the end. -/
def add (group : ConditionGroup) (member : Condition) : ConditionGroup :=
  { group with members := group.members ++ [member] }

/-- The group with a comparison whose column is not chosen yet. -/
def addLeaf (group : ConditionGroup) : ConditionGroup :=
  group.add (.leaf {})

/-- The group with an empty group. -/
def addGroup (group : ConditionGroup) : ConditionGroup :=
  group.add (.group .and [])

/-- The group with another connective. -/
def withLogic (group : ConditionGroup) (logic : Logic) : ConditionGroup :=
  { group with logic }

/-- The comparisons of the group from left to right. -/
def leaves (group : ConditionGroup) : List Comparison :=
  Condition.leavesOf group.members

/-- The group with only the comparisons that are to be kept. -/
def retainLeaves (group : ConditionGroup) (keep : Comparison → Bool) : ConditionGroup :=
  { group with members := (Condition.retainOf? keep group.members).getD group.members }

/-- There is no comparison in the group at any depth. -/
def isEffectivelyEmpty (group : ConditionGroup) : Bool :=
  group.leaves.isEmpty

/-- The group at the end of a path of member indexes. -/
def groupAt? (group : ConditionGroup) : List Nat → Option ConditionGroup
  | [] => some group
  | index :: path =>
    match group.members[index]? with
    | some (.group logic members) => groupAt? ⟨logic, members⟩ path
    | _ => none

end ConditionGroup

end QueryComposer
