import QueryComposer.Operator
import QueryComposer.Query.Table

set_option autoImplicit false

/-!
What a query that is not complete lacks, and what is suspicious about one that is.
-/

namespace QueryComposer

/-- A list of columns after the conditions of a query. -/
inductive ColumnClause
  | groupBy
  | orderBy
deriving DecidableEq, Repr

namespace ColumnClause

/-- The words that begin the clause. -/
def keyword : ColumnClause → String
  | .groupBy => "GROUP BY"
  | .orderBy => "ORDER BY"

end ColumnClause

/-- A reason why a query cannot be executed. Joins are counted from one. -/
inductive QueryFault
  | noTables
  | incompleteJoin (number : Nat)
  | selfJoin (number : Nat)
  | joinOfUnselected (number : Nat)
  | repeatedJoin (number : Nat) (left right : String)
  | unboundCondition
  | conditionOnUnselected (column : String)
  | emptyList (operator : Operator) (column : String)
  | missingBound (operator : Operator) (column : String)
  | notSingle (operator : Operator) (column : String)
  | columnOfUnselected (clause : ColumnClause) (column : String)
deriving DecidableEq, Repr

/-- The text about a join whose two tables an earlier join has. -/
def repeatedJoinText (number : Nat) (left right : String) : String :=
  s!"join {number} repeats the table pair {left} / {right}"

namespace QueryFault

/-- What is wrong, for a reader. -/
def message : QueryFault → String
  | .noTables => "no tables selected"
  | .incompleteJoin number =>
    s!"join {number} is incomplete: choose both tables and both columns"
  | .selfJoin number => s!"join {number} joins a table to itself"
  | .joinOfUnselected number => s!"join {number} references a table that is not selected"
  | .repeatedJoin number left right => repeatedJoinText number left right
  | .unboundCondition => "a condition has no column selected"
  | .conditionOnUnselected column =>
    s!"condition on '{column}' references a table that is not selected"
  | .emptyList operator column => s!"{operator.symbol} list for '{column}' is empty"
  | .missingBound operator column =>
    s!"{operator.symbol} on '{column}' needs a lower and an upper bound"
  | .notSingle operator column => s!"{operator.symbol} on '{column}' expects a single value"
  | .columnOfUnselected clause column =>
    s!"{clause.keyword} column '{column}' references a table that is not selected"

end QueryFault

/-- A property of a query that can be executed but may not be meant. -/
inductive QueryWarning
  | ungroupedColumn (column : String)
  | repeatedJoin (number : Nat) (left right : String)
  | cartesianProduct (table : String)
deriving DecidableEq, Repr

namespace QueryWarning

/-- What is suspicious, for a reader. -/
def message : QueryWarning → String
  | .ungroupedColumn column =>
    s!"column '{column}' is selected alongside aggregates but is not grouped"
  | .repeatedJoin number left right => repeatedJoinText number left right
  | .cartesianProduct table =>
    s!"table '{table}' is not joined to the rest of the query; this produces a Cartesian product"

end QueryWarning

end QueryComposer
