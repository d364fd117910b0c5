import QueryComposer.FirstMatch
import QueryComposer.Query.Join
import QueryComposer.Sql.Where

set_option autoImplicit false

/-!
The order in which the tables of a query are introduced. Joins that are complete are accepted; an
accepted join waits until one of its tables is in scope and then introduces the other, or adds its
predicate to the clause that introduced the later of its two tables. What no join connects is
introduced by a cross join.
-/

namespace QueryComposer

/-- What happens to a join between two tables that an earlier join connects. -/
inductive DuplicateJoinPolicy
  | allow
  | warn
  | reject
deriving DecidableEq, Repr, Inhabited

namespace DuplicateJoinPolicy

def all : List DuplicateJoinPolicy :=
  [.allow, .warn, .reject]

def name : DuplicateJoinPolicy → String
  | .allow => "allow"
  | .warn => "warn"
  | .reject => "reject"

end DuplicateJoinPolicy

/-! ### Accepted joins -/

/-- A join with everything chosen, between two different tables of the query. -/
structure AcceptedJoin where
  kind : JoinKind
  left : Table
  leftColumn : String
  right : Table
  rightColumn : String
  distinct : left.id ≠ right.id
deriving DecidableEq, Repr

namespace AcceptedJoin

/-- The equality that the join asks for. -/
def predicate (join : AcceptedJoin) : String :=
  join.left.qualify join.leftColumn ++ " = " ++ join.right.qualify join.rightColumn

end AcceptedJoin

/-- Two tables in the order of their identities. -/
def orderedPair (left right : TableId) : TableId × TableId :=
  if left.lt right then (left, right) else (right, left)

/-- A join whose tables and columns are known, or what it lacks. -/
def Join.accept (tables : List Table) (number : Nat) (join : Join) :
    Except QueryFault AcceptedJoin :=
  match join.leftTable, join.leftColumn, join.rightTable, join.rightColumn with
  | some leftId, some leftColumn, some rightId, some rightColumn =>
    if same : leftId = rightId then .error (.selfJoin number)
    else
      match foundLeft : resolveTable? tables leftId, foundRight : resolveTable? tables rightId with
      | some left, some right =>
        .ok
          { kind := join.kind, left, leftColumn, right, rightColumn,
            distinct := by
              rw [resolveTable?_id foundLeft, resolveTable?_id foundRight]; exact same }
      | _, _ => .error (.joinOfUnselected number)
  | _, _, _, _ => .error (.incompleteJoin number)

/-- The accepted joins of a query, with what is said about the others. -/
structure AcceptedJoins where
  joins : List AcceptedJoin := []
  faults : List QueryFault := []
  warnings : List QueryWarning := []
deriving Repr

namespace AcceptedJoins

/-- Accept joins one after the other, given how many came before and which pairs of tables they
connect. -/
def ofJoins (tables : List Table) (policy : DuplicateJoinPolicy) (number : Nat)
    (pairs : List (TableId × TableId)) : List Join → AcceptedJoins
  | [] => {}
  | join :: joins =>
    match join.accept tables (number + 1) with
    | .error fault =>
      let rest := ofJoins tables policy (number + 1) pairs joins
      { rest with faults := fault :: rest.faults }
    | .ok accepted =>
      let pair := orderedPair accepted.left.id accepted.right.id
      let rest := ofJoins tables policy (number + 1) (pair :: pairs) joins
      let left := accepted.left.name
      let right := accepted.right.name
      if !pairs.contains pair || policy = .allow then
        { rest with joins := accepted :: rest.joins }
      else if policy = .warn then
        { rest with
          joins := accepted :: rest.joins
          warnings := .repeatedJoin (number + 1) left right :: rest.warnings }
      else
        { rest with faults := .repeatedJoin (number + 1) left right :: rest.faults }

end AcceptedJoins

/-! ### Clauses -/

/-- A clause that introduces a table: by the predicates of joins, the first of which brought the
table in, or without any. -/
inductive JoinClause
  | on (kind : JoinKind) (table : Table) (predicates : List AcceptedJoin)
  | cross (table : Table)
deriving DecidableEq, Repr

namespace JoinClause

/-- The table that the clause introduces. -/
def table : JoinClause → Table
  | .on _ table _ => table
  | .cross table => table

/-- The joins whose predicates stand in the clause. -/
def predicates : JoinClause → List AcceptedJoin
  | .on _ _ predicates => predicates
  | .cross _ => []

/-- The clause with one more predicate; there is no place for one in a cross join. -/
def addPredicate (join : AcceptedJoin) : JoinClause → JoinClause
  | .on kind table predicates => .on kind table (predicates ++ [join])
  | .cross table => .cross table

def text : JoinClause → String
  | .on kind table predicates =>
    kind.keyword ++ " " ++ table.reference ++ " ON " ++
      Text.join " AND " (predicates.map AcceptedJoin.predicate) ++ " "
  | .cross table => "CROSS JOIN " ++ table.reference

/-- The warning about a table that nothing connects. -/
def warning? : JoinClause → Option QueryWarning
  | .on .. => none
  | .cross table => some (.cartesianProduct table.name)

end JoinClause

/-! ### The plan -/

/-- The clauses so far after the first table, and the joins that wait. -/
structure JoinPlan where
  first : Table
  clauses : List JoinClause := []
  pending : List AcceptedJoin
deriving Repr

namespace JoinPlan

/-- Where a table was introduced: zero for the first table, then the clauses from one on. -/
def place? (plan : JoinPlan) (id : TableId) : Option Nat :=
  if plan.first.id = id then some 0
  else (plan.clauses.findIdx? (fun clause => clause.table.id = id)).map (· + 1)

/-- The table was introduced. -/
def inScope (plan : JoinPlan) (id : TableId) : Bool :=
  (plan.place? id).isSome

/-- One of the join's tables was introduced. -/
def isReady (plan : JoinPlan) (join : AcceptedJoin) : Bool :=
  plan.inScope join.left.id || plan.inScope join.right.id

/-- The plan with a clause at the end. -/
def addClause (plan : JoinPlan) (clause : JoinClause) : JoinPlan :=
  { plan with clauses := plan.clauses ++ [clause] }

def addPredicateAt (plan : JoinPlan) (place : Nat) (join : AcceptedJoin) : JoinPlan :=
  { plan with clauses := plan.clauses.modify (place - 1) (JoinClause.addPredicate join) }

/-- The plan with a join of which at least one table is in scope. -/
def accept (plan : JoinPlan) (join : AcceptedJoin) : JoinPlan :=
  match plan.place? join.left.id, plan.place? join.right.id with
  | some left, some right => plan.addPredicateAt (max left right) join
  | some _, none => plan.addClause (.on join.kind join.right [join])
  | none, _ => plan.addClause (.on join.kind.mirrored join.left [join])

/-- One step: accept the first join that is ready, or introduce the first join's left table without
a join when none is. -/
def step (plan : JoinPlan) : JoinPlan :=
  match takeFirst? plan.isReady plan.pending with
  | some (join, rest) => { plan.accept join with pending := rest }
  | none =>
    match plan.pending with
    | [] => plan
    | join :: _ => plan.addClause (.cross join.left)

/-- An upper bound for the steps that are left. -/
def weight (plan : JoinPlan) : Nat :=
  2 * plan.pending.length + (if plan.pending.any plan.isReady then 0 else 1)

theorem inScope_addClause (plan : JoinPlan) (clause : JoinClause) :
    (plan.addClause clause).inScope clause.table.id = true := by
  unfold inScope place? addClause
  split
  · rfl
  · rw [Option.isSome_map, List.findIdx?_isSome]
    simp

theorem weight_step (plan : JoinPlan) (waiting : plan.pending ≠ []) :
    plan.step.weight < plan.weight := by
  unfold step
  split
  · rename_i join rest taken
    have size := takeFirst?_length taken
    have ready : plan.pending.any plan.isReady = true := by
      rw [← isSome_takeFirst?, taken]
      rfl
    simp only [weight, ready, size]
    split
    · simp only [if_true]
      omega
    · simp only [if_true]
      omega
  · rename_i none_taken
    have unready : plan.pending.any plan.isReady = false := by
      rw [← isSome_takeFirst?, none_taken]
      rfl
    cases rest : plan.pending with
    | nil => exact absurd rest waiting
    | cons join others =>
      have now : (plan.addClause (.cross join.left)).isReady join = true := by
        unfold isReady
        rw [Bool.or_eq_true]
        exact Or.inl (inScope_addClause plan (.cross join.left))
      simp only [weight, unready]
      have kept : (plan.addClause (.cross join.left)).pending = plan.pending := rfl
      rw [kept, rest]
      simp [now]

/-- Step until no join waits. -/
def run (plan : JoinPlan) : JoinPlan :=
  if _waiting : plan.pending = [] then plan else run plan.step
termination_by plan.weight
decreasing_by exact weight_step plan _waiting

/-- The cross joins of the tables that the finished plan does not introduce. -/
def leftOver (plan : JoinPlan) (tables : List Table) : List JoinClause :=
  (tables.filter (fun table => !plan.inScope table.id)).map .cross

/-- The clauses that introduce all tables after the first. -/
def clausesFor (first : Table) (others : List Table) (joins : List AcceptedJoin) :
    List JoinClause :=
  let plan := run { first, pending := joins }
  plan.clauses ++ plan.leftOver others

end JoinPlan

end QueryComposer
