import QueryComposer.Query.Condition
import QueryComposer.Sql.Diagnostic
import QueryComposer.Sql.Literal

set_option autoImplicit false

/-!
The condition of a query in SQL: a comparison becomes an atom or a fault, a group becomes what its
members become with the connective between them. The running definition keeps the work that is left
in a list, so that no depth of nesting is too much for it; the definition by recursion on the
condition stands beside it.
-/

namespace QueryComposer

open QueryComposer.Text

/-! ### Comparisons -/

/-- What stands to the right of an operator. -/
inductive Operands
  | none
  | single (text : String)
  | list (texts : List String)
  | range (low high : String)
deriving DecidableEq, Repr

/-- A comparison in SQL. -/
structure Atom where
  column : String
  operator : Operator
  operands : Operands
deriving DecidableEq, Repr

namespace Atom

/-- The comparison as text. -/
def text (atom : Atom) : String :=
  let start := atom.column ++ " " ++ atom.operator.symbol
  match atom.operands with
  | .none => start
  | .single operand => start ++ " " ++ operand
  | .list operands => start ++ " (" ++ join ", " operands ++ ")"
  | .range low high => start ++ " " ++ low ++ " AND " ++ high

end Atom

/-- The table with an identity; the last one when several have it. -/
def resolveTable? (tables : List Table) (id : TableId) : Option Table :=
  tables.reverse.find? (fun table => table.id = id)

theorem resolveTable?_id {tables : List Table} {id : TableId} {table : Table}
    (found : resolveTable? tables id = some table) : table.id = id := by
  simpa using List.find?_some found

theorem resolveTable?_mem {tables : List Table} {id : TableId} {table : Table}
    (found : resolveTable? tables id = some table) : table ∈ tables := by
  simpa using List.mem_of_find?_eq_some found

namespace Comparison

/-- The pieces of a text between commas that are not blank, as literals. -/
def textItems (policy : LiteralPolicy) (text : String) : List String :=
  (((split ',' text).map trim).filter (fun piece => piece ≠ "")).map (Literal.ofText policy)

/-- The literals that a value adds to a list: none for null, several for a text with commas. -/
def valueItems (policy : LiteralPolicy) : Value → List String
  | .string text => textItems policy text
  | .null => []
  | value => [Literal.ofValue policy value]

/-- The values of a list, in whichever shape they are held. -/
def listValues : ConditionValue → List Value
  | .list values => values
  | .scalar (.list values) => values
  | .scalar value => [value]
  | .none => []
  | .range _ _ => []

def listItems (policy : LiteralPolicy) (value : ConditionValue) : List String :=
  (listValues value).flatMap (valueItems policy)

/-- The two values in a list of two. -/
def pairOf? : List Value → Option (Value × Value)
  | [low, high] => some (low, high)
  | _ => none

/-- The two values of a range, in whichever shape they are held. -/
def rangeValues? : ConditionValue → Option (Value × Value)
  | .range low high => some (low, high)
  | .list values => pairOf? values
  | .scalar (.list values) => pairOf? values
  | .scalar (.string text) => pairOf? ((split ',' text).map (fun piece => .string (trim piece)))
  | _ => none

/-- The bounds of a range as literals, when both are filled in. -/
def rangeBounds? (policy : LiteralPolicy) (value : ConditionValue) : Option (String × String) :=
  match rangeValues? value with
  | none => none
  | some (low, high) =>
    if low.isEmpty || high.isEmpty then none
    else some (Literal.ofValue policy low, Literal.ofValue policy high)

/-- The column with the qualifier of its table. -/
def columnText (tables : List Table) (comparison : Comparison) : Except QueryFault String :=
  match comparison.tableId with
  | none => .ok comparison.column
  | some id =>
    match resolveTable? tables id with
    | none => .error (.conditionOnUnselected comparison.column)
    | some table => .ok (table.qualify comparison.column)

/-- What stands to the right of the operator. -/
def operands (policy : LiteralPolicy) (comparison : Comparison) : Except QueryFault Operands :=
  match comparison.operator.arity with
  | .none => .ok .none
  | .list =>
    let items := listItems policy comparison.value
    if items.isEmpty then .error (.emptyList comparison.operator comparison.column)
    else .ok (.list items)
  | .range =>
    match rangeBounds? policy comparison.value with
    | none => .error (.missingBound comparison.operator comparison.column)
    | some (low, high) => .ok (.range low high)
  | .single =>
    match comparison.value with
    | .scalar value => .ok (.single (Literal.ofValue policy value))
    | _ => .error (.notSingle comparison.operator comparison.column)

/-- The comparison in SQL, or what it lacks. -/
def atom (tables : List Table) (policy : LiteralPolicy) (comparison : Comparison) :
    Except QueryFault Atom :=
  if !comparison.isBound then .error .unboundCondition
  else
    match comparison.columnText tables with
    | .error fault => .error fault
    | .ok column =>
      (comparison.operands policy).map (fun operands =>
        { column, operator := comparison.operator, operands })

end Comparison

/-! ### Groups -/

/-- A piece of a condition in SQL. -/
inductive WhereToken
  | atom (shown : Atom)
  | connective (logic : Logic)
  | openGroup
  | closeGroup
deriving DecidableEq, Repr

namespace WhereToken

/-- The piece as text. -/
def text : WhereToken → String
  | .atom shown => shown.text
  | .connective logic => " " ++ logic.keyword ++ " "
  | .openGroup => "("
  | .closeGroup => ")"

end WhereToken

/-- What a condition becomes, if it becomes anything. -/
abbrev WherePart := Option (List WhereToken)

namespace WherePart

/-- Parts with a connective between neighbours. -/
def connect (logic : Logic) : List (List WhereToken) → List WhereToken
  | [] => []
  | [part] => part
  | part :: parts => part ++ .connective logic :: connect logic parts

/-- What a group becomes: nothing without parts, a part that is alone as it is, and several parts
with the connective between them, in parentheses when the group is a member of another. -/
def combine (logic : Logic) (nested : Bool) (parts : List WherePart) : WherePart :=
  match parts.filterMap id with
  | [] => none
  | [part] => some part
  | several =>
    if nested then some (.openGroup :: (connect logic several ++ [.closeGroup]))
    else some (connect logic several)

def text (tokens : List WhereToken) : String :=
  String.join (tokens.map WhereToken.text)

end WherePart

namespace Condition

/-- What a comparison becomes, with the fault if it becomes nothing. -/
def leafPart (tables : List Table) (policy : LiteralPolicy) (comparison : Comparison) :
    WherePart × List QueryFault :=
  match comparison.atom tables policy with
  | .ok atom => (some [.atom atom], [])
  | .error fault => (none, [fault])

mutual

/-- What a condition becomes, with the faults from left to right. -/
def part (tables : List Table) (policy : LiteralPolicy) :
    Condition → WherePart × List QueryFault
  | .leaf comparison => leafPart tables policy comparison
  | .group logic members =>
    let inner := parts tables policy members
    (WherePart.combine logic true inner.1, inner.2)

/-- What conditions become, with the faults from left to right. -/
def parts (tables : List Table) (policy : LiteralPolicy) :
    List Condition → List WherePart × List QueryFault
  | [] => ([], [])
  | member :: members =>
    let first := part tables policy member
    let rest := parts tables policy members
    (first.1 :: rest.1, first.2 ++ rest.2)

end

mutual

/-- How many steps a condition takes. -/
def size : Condition → Nat
  | .leaf _ => 1
  | .group _ members => sizeOfMembers members + 2

/-- How many steps some conditions take. -/
def sizeOfMembers : List Condition → Nat
  | [] => 0
  | member :: members => size member + sizeOfMembers members

end

end Condition

/-! ### One task after the other -/

/-- A task: to turn a condition into its part, or to combine the last parts. -/
inductive WhereTask
  | visit (condition : Condition)
  | combine (logic : Logic) (count : Nat) (nested : Bool)
deriving Repr

namespace WhereTask

/-- How many steps the task takes. -/
def size : WhereTask → Nat
  | .visit condition => condition.size
  | .combine .. => 1

/-- How many steps some tasks take. -/
def sizeOfAll : List WhereTask → Nat
  | [] => 0
  | task :: tasks => task.size + sizeOfAll tasks

/-- The tasks for the members of a group, in front of others. -/
def forMembers (logic : Logic) (members : List Condition) (nested : Bool)
    (tasks : List WhereTask) : List WhereTask :=
  members.map .visit ++ .combine logic members.length nested :: tasks

theorem sizeOfAll_visits (members : List Condition) (tasks : List WhereTask) :
    sizeOfAll (members.map .visit ++ tasks) =
      Condition.sizeOfMembers members + sizeOfAll tasks := by
  induction members with
  | nil => simp [Condition.sizeOfMembers]
  | cons member members inner =>
    simp only [sizeOfAll, List.map_cons, List.cons_append, size, Condition.sizeOfMembers] at inner ⊢
    omega

theorem sizeOfAll_forMembers (logic : Logic) (members : List Condition) (nested : Bool)
    (tasks : List WhereTask) :
    sizeOfAll (forMembers logic members nested tasks) =
      Condition.sizeOfMembers members + sizeOfAll tasks + 1 := by
  unfold forMembers
  rw [sizeOfAll_visits]
  simp only [sizeOfAll, size]
  omega

end WhereTask

/-- Work through the tasks. The parts that are done stand last first, and so do the faults. -/
def runWhereTasks (tables : List Table) (policy : LiteralPolicy) (tasks : List WhereTask)
    (done : List WherePart) (faults : List QueryFault) : List WherePart × List QueryFault :=
  match tasks with
  | [] => (done, faults)
  | .visit (.leaf comparison) :: rest =>
    let leaf := Condition.leafPart tables policy comparison
    runWhereTasks tables policy rest (leaf.1 :: done) (leaf.2 ++ faults)
  | .visit (.group logic members) :: rest =>
    runWhereTasks tables policy (WhereTask.forMembers logic members true rest) done faults
  | .combine logic count nested :: rest =>
    let combined := WherePart.combine logic nested (done.take count).reverse
    runWhereTasks tables policy rest (combined :: done.drop count) faults
termination_by WhereTask.sizeOfAll tasks
decreasing_by
  · simp [WhereTask.sizeOfAll, WhereTask.size, Condition.size]
  · rw [WhereTask.sizeOfAll_forMembers]
    simp only [WhereTask.sizeOfAll, WhereTask.size, Condition.size]
    omega
  · simp [WhereTask.sizeOfAll, WhereTask.size]

namespace ConditionGroup

/-- What the condition of a query becomes, with the faults from left to right. -/
def wherePart (tables : List Table) (policy : LiteralPolicy) (group : ConditionGroup) :
    WherePart × List QueryFault :=
  let finished := runWhereTasks tables policy
    (WhereTask.forMembers group.logic group.members false []) [] []
  (finished.1.head?.join, finished.2.reverse)

end ConditionGroup

end QueryComposer
