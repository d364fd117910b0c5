import QueryComposer.Error.Basic
import QueryComposer.Query.Condition

set_option autoImplicit false

/-!
Changes to conditions: of a single comparison, of the members of a group, and of a group at the end
of a path. Each gives the changed condition or the reason why there is none.
-/

namespace QueryComposer

/-! ### Comparisons -/

/-- A change of one part of a comparison: its column, its operator or its value. -/
inductive ComparisonPatch
  | column (tableId : Option TableId) (column : String) (type : ValueType)
  | operator (operator : Operator)
  | value (value : ConditionValue)
deriving Repr

namespace Comparison

/-- Choose the column. Another column takes the default operator of its type and an empty value. -/
def withColumn (comparison : Comparison) (tableId : Option TableId) (column : String)
    (type : ValueType) : Comparison :=
  if tableId = comparison.tableId && column = comparison.column && type = comparison.type then
    comparison
  else
    let operator := Operator.defaultFor type
    { tableId, column, type, operator, value := .emptyFor type operator.arity }

/-- Choose the operator, which must apply to the chosen column. A value of another shape gives way
to an empty one. -/
def withOperator (comparison : Comparison) (operator : Operator) : Except Error Comparison :=
  if comparison.isBound && !operator.appliesTo comparison.type then
    .error (.operatorNotApplicable operator comparison.type comparison.column)
  else if operator.arity = comparison.operator.arity && comparison.value.fits operator.arity then
    .ok { comparison with operator }
  else .ok { comparison with operator, value := .emptyFor comparison.type operator.arity }

/-- Choose the value, in the shape that the operator takes. -/
def withValue (comparison : Comparison) (value : ConditionValue) : Except Error Comparison :=
  if value.fits comparison.operator.arity then .ok { comparison with value }
  else .error (.wrongShape comparison.operator)

/-- Make a change. -/
def apply (comparison : Comparison) : ComparisonPatch → Except Error Comparison
  | .column tableId column type => .ok (comparison.withColumn tableId column type)
  | .operator operator => comparison.withOperator operator
  | .value value => comparison.withValue value

end Comparison

/-! ### Groups -/

namespace ConditionGroup

def memberAt (group : ConditionGroup) (index : Nat) : Except Error Condition :=
  match group.members[index]? with
  | some member => .ok member
  | none => .error (.conditionOutOfRange index group.members.length)

def groupMemberAt (group : ConditionGroup) (index : Nat) : Except Error ConditionGroup :=
  match group.memberAt index with
  | .ok (.group logic members) => .ok ⟨logic, members⟩
  | .ok (.leaf _) => .error (.conditionNotGroup index)
  | .error error => .error error

def leafMemberAt (group : ConditionGroup) (index : Nat) : Except Error Comparison :=
  match group.memberAt index with
  | .ok (.leaf comparison) => .ok comparison
  | .ok (.group _ _) => .error (.conditionNotLeaf index)
  | .error error => .error error

/-- Another member at an index. -/
def replaceAt (group : ConditionGroup) (index : Nat) (member : Condition) : ConditionGroup :=
  { group with members := group.members.set index member }

/-- The group without the member at an index. -/
def removeAt (group : ConditionGroup) (index : Nat) : Except Error ConditionGroup :=
  (group.memberAt index).map (fun _ =>
    { group with members := group.members.eraseIdx index })

/-- Change the comparison at an index. -/
def updateLeaf (group : ConditionGroup) (index : Nat) (patch : ComparisonPatch) :
    Except Error ConditionGroup :=
  match group.leafMemberAt index with
  | .error error => .error error
  | .ok comparison =>
    (comparison.apply patch).map (fun changed => group.replaceAt index (.leaf changed))

/-- Put a group in the place of the group at an index. -/
def updateGroup (group : ConditionGroup) (index : Nat) (replacement : ConditionGroup) :
    Except Error ConditionGroup :=
  (group.groupMemberAt index).map (fun _ => group.replaceAt index replacement.toCondition)

/-- Change the group at the end of a path of member indexes. -/
def updateAt (group : ConditionGroup) (path : List Nat)
    (edit : ConditionGroup → Except Error ConditionGroup) : Except Error ConditionGroup :=
  match path with
  | [] => edit group
  | index :: rest =>
    match group.groupMemberAt index with
    | .error error => .error error
    | .ok inner =>
      match updateAt inner rest edit with
      | .error error => .error error
      | .ok changed => group.updateGroup index changed

end ConditionGroup

end QueryComposer
