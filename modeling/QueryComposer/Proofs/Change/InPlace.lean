import QueryComposer.Proofs.Change.Writing

set_option autoImplicit false

/-!
A change in place does what the change that gives a new query does; when it fails, the query is the
one it began with. Most changes check everything before they write. The one of both columns of a
join does not, and puts the join back that was there.
-/

namespace QueryComposer

namespace QueryUpdate

variable {α : Type} {query : Query}

/-! ### Tables and columns -/

theorem removeTable_eq (id : TableId) (query : Query) :
    removeTable id query = query.settled (query.removeTable id) := by
  unfold removeTable Query.removeTable
  cases found : takeFirst? (fun table => table.id = id) query.tables with
  | none => exact bind_of_error (require_of_none found) _
  | some taken => exact bind_of_ok (require_of_some found) _

theorem setAlias_eq (id : TableId) (name : Option String) (query : Query) :
    setAlias id name query = query.settledAs (query.setAlias id name) := by
  unfold setAlias Query.setAlias
  cases found : query.table? id with
  | none =>
    rw [Query.editTable_of_missing _ found]
    exact bind_of_error (requireTable_eq_error found) _
  | some table =>
    rw [Query.editTable_of_table? _ found, bind_of_ok (requireTable_eq found),
      writeTable_eq _ found]
    rfl

theorem toggleColumn_eq (id : TableId) (name : String) (query : Query) :
    toggleColumn id name query = query.settled (query.toggleColumn id name) := by
  unfold toggleColumn Query.toggleColumn
  cases found : query.table? id with
  | none =>
    rw [Query.editColumn_of_missing name _ found]
    exact bind_of_error (requireColumn_eq_missing name found) _
  | some table =>
    cases listed : table.column? name with
    | none =>
      rw [Query.editColumn_of_unlisted _ found listed]
      exact bind_of_error (requireColumn_eq_unlisted found listed) _
    | some column =>
      rw [Query.editColumn_of_column? _ found listed, bind_of_ok (requireColumn_eq found listed),
        bind_of_ok (writeColumn_eq _ found listed)]
      rfl

theorem setAggregate_eq (id : TableId) (name : String) (aggregate : Option Aggregate)
    (query : Query) :
    setAggregate id name aggregate query =
      query.settledAs (query.setAggregate id name aggregate) := by
  unfold setAggregate Query.setAggregate
  cases found : query.table? id with
  | none =>
    rw [Query.editColumn_of_missing name _ found]
    exact bind_of_error (requireColumn_eq_missing name found) _
  | some table =>
    cases listed : table.column? name with
    | none =>
      rw [Query.editColumn_of_unlisted _ found listed]
      exact bind_of_error (requireColumn_eq_unlisted found listed) _
    | some column =>
      rw [Query.editColumn_of_column? _ found listed, bind_of_ok (requireColumn_eq found listed)]
      cases aggregate with
      | none =>
        refine (writeColumn_eq _ found listed).trans ?_
        simp only [Option.isSome_none, Bool.or_false]
        rfl
      | some aggregate =>
        -- The column is written twice, and both writes are one.
        refine (writeColumn_bind_writeColumn ?_ _).trans ?_
        · intro column
          rfl
        · rw [writeColumn_eq _ found listed]
          simp only [Option.isSome_some, Bool.or_true]
          rfl

/-! ### Grouping, order and conditions -/

theorem addGroupBy_eq (column : ColumnRef) (query : Query) :
    addGroupBy column query = query.settledAs (query.addGroupBy column) := by
  unfold addGroupBy Query.addGroupBy
  cases found : query.columnRef column.tableId column.name with
  | error cause => exact bind_of_error (read_eq found) _
  | ok known =>
    have asked : read (fun query => .ok (query.groupBy.contains column)) query =
        (.ok (query.groupBy.contains column), query) := rfl
    rw [bind_of_ok (read_eq found), bind_of_ok asked]
    by_cases grouped : query.groupBy.contains column = true
    · rw [if_pos grouped]
      simp only [if_pos grouped]
      rfl
    · rw [if_neg grouped]
      simp only [if_neg grouped]
      rfl

theorem removeGroupBy_eq (index : Nat) (query : Query) :
    removeGroupBy index query = query.settled (query.removeGroupBy index) := by
  unfold removeGroupBy Query.removeGroupBy
  cases found : query.groupBy[index]? with
  | none => exact bind_of_error (require_of_none found) _
  | some column => exact bind_of_ok (require_of_some found) _

theorem addOrderBy_eq (column : ColumnRef) (direction : SortDirection) (query : Query) :
    addOrderBy column direction query = query.settledAs (query.addOrderBy column direction) := by
  unfold addOrderBy Query.addOrderBy
  cases found : query.columnRef column.tableId column.name with
  | error cause => exact bind_of_error (read_eq found) _
  | ok known => exact bind_of_ok (read_eq found) _

theorem removeOrderBy_eq (index : Nat) (query : Query) :
    removeOrderBy index query = query.settled (query.removeOrderBy index) := by
  unfold removeOrderBy Query.removeOrderBy
  cases found : query.orderBy[index]? with
  | none => exact bind_of_error (require_of_none found) _
  | some entry => exact bind_of_ok (require_of_some found) _

theorem updateConditions_eq (edit : ConditionGroup → Except Error ConditionGroup)
    (query : Query) :
    updateConditions edit query = query.settledAs (query.updateConditions edit) := by
  unfold updateConditions Query.updateConditions
  cases made : edit query.conditions with
  | error cause => exact bind_of_error (read_eq made) _
  | ok conditions => exact bind_of_ok (read_eq made) _

/-! ### Joins -/

theorem setJoinTables_eq (id : JoinId) (left right : TableId) (query : Query) :
    setJoinTables id left right query = query.settledAs (query.setJoinTables id left right) := by
  unfold setJoinTables Query.setJoinTables
  by_cases same : left = right
  · rw [if_pos same, if_pos same]
    rfl
  · rw [if_neg same, if_neg same]
    cases leftFound : query.table? left with
    | none =>
      rw [Query.requireTable_of_missing leftFound]
      exact bind_of_error (requireTable_eq_error leftFound) _
    | some leftTable =>
      rw [Query.requireTable_of_table? leftFound]
      refine (bind_of_ok (requireTable_eq leftFound) _).trans ?_
      cases rightFound : query.table? right with
      | none =>
        rw [Query.requireTable_of_missing rightFound]
        exact bind_of_error (requireTable_eq_error rightFound) _
      | some rightTable =>
        rw [Query.requireTable_of_table? rightFound, bind_of_ok (requireTable_eq rightFound)]
        cases found : query.join? id with
        | none =>
          dsimp only
          rw [Query.editJoin_of_missing _ found]
          exact bind_of_error (requireJoin_eq_error found) _
        | some join =>
          dsimp only
          rw [Query.editJoin_of_join? _ found, bind_of_ok (requireJoin_eq found)]
          refine (writeJoin_bind_writeJoin ?_ _).trans ?_
          · intro join
            exact join.id_withTable .left left
          · exact writeJoin_eq _ found

theorem setJoinTable_eq (id : JoinId) (side : JoinSide) (table : TableId) (query : Query) :
    setJoinTable id side table query = query.settledAs (query.setJoinTable id side table) := by
  unfold setJoinTable Query.setJoinTable
  cases tableFound : query.table? table with
  | none =>
    rw [Query.requireTable_of_missing tableFound]
    exact bind_of_error (requireTable_eq_error tableFound) _
  | some chosen =>
    rw [Query.requireTable_of_table? tableFound, bind_of_ok (requireTable_eq tableFound)]
    dsimp only
    cases found : query.join? id with
    | none =>
      rw [Query.editJoin_of_missing _ found]
      exact bind_of_error (requireJoin_eq_error found) _
    | some join =>
      rw [Query.editJoin_of_join? _ found, bind_of_ok (requireJoin_eq found)]
      by_cases same : join.table? side.opposite = some table
      · rw [if_pos same, if_pos same]
        rfl
      · rw [if_neg same, if_neg same]
        exact writeJoin_eq _ found

theorem setJoinColumn_eq (id : JoinId) (side : JoinSide) (column : Option String)
    (query : Query) :
    setJoinColumn id side column query =
      query.settledAs (query.setJoinColumn id side column) := by
  unfold setJoinColumn Query.setJoinColumn
  cases found : query.join? id with
  | none =>
    rw [Query.editJoin_of_missing _ found]
    exact bind_of_error (requireJoin_eq_error found) _
  | some join =>
    rw [Query.editJoin_of_join? _ found]
    refine (bind_of_ok (requireJoin_eq found) _).trans ?_
    cases column.filter (fun name => !Text.isBlankText name) with
    | none => exact writeJoin_eq _ found
    | some name =>
      dsimp only
      cases checked : query.checkJoinColumn join side name with
      | error cause => exact bind_of_error (read_eq checked) _
      | ok known =>
        refine (bind_of_ok (read_eq checked) _).trans ?_
        exact writeJoin_eq _ found

/-- The right column is chosen after the left one was written; when it is refused, the join is as it
was before. -/
theorem setJoinColumns_eq (id : JoinId) (left right : Option String) (query : Query) :
    setJoinColumns id left right query =
      query.settledAs (query.setJoinColumns id left right) := by
  unfold setJoinColumns Query.setJoinColumns
  have asked : read (fun query => .ok (query.join? id)) query = (.ok (query.join? id), query) := rfl
  have first := setJoinColumn_eq id .left left query
  rw [bind_of_ok asked]
  cases chosen : query.setJoinColumn id .left left with
  | error cause =>
    rw [chosen] at first
    exact bind_of_error first _
  | ok changed =>
    rw [chosen] at first
    refine (bind_of_ok first _).trans ?_
    dsimp only
    have second := setJoinColumn_eq id .right right changed
    cases finished : changed.setJoinColumn id .right right with
    | ok both =>
      rw [finished] at second
      exact tryCatch_of_ok second _
    | error cause =>
      rw [finished] at second
      -- The left column is written by now: what is put back undoes that one write.
      obtain ⟨join, found, name, rfl⟩ := Query.setJoinColumn_writes chosen
      refine (tryCatch_of_error second _).trans ?_
      rw [found]
      exact bind_of_ok (writeJoin_restores found (join.id_withColumn name .left)) _

theorem setJoinKind_eq (id : JoinId) (kind : JoinKind) (query : Query) :
    setJoinKind id kind query = query.settledAs (query.setJoinKind id kind) := by
  unfold setJoinKind Query.setJoinKind
  cases found : query.join? id with
  | none =>
    rw [Query.editJoin_of_missing _ found]
    exact bind_of_error (requireJoin_eq_error found) _
  | some join =>
    rw [Query.editJoin_of_join? _ found, bind_of_ok (requireJoin_eq found)]
    exact writeJoin_eq _ found

theorem removeJoin_eq (id : JoinId) (query : Query) :
    removeJoin id query = query.settled (query.removeJoin id) := by
  unfold removeJoin Query.removeJoin
  cases found : takeFirst? (fun join => join.id = id) query.joins with
  | none => exact bind_of_error (require_of_none found) _
  | some taken => exact bind_of_ok (require_of_some found) _

/-- A change with an answer, of which only the changed query is looked at. -/
theorem bind_pure_eq {update : QueryUpdate α} {result : Except Error (α × Query)}
    (same : update query = query.settled result) :
    (update >>= fun _ => pure ()) query = query.settledAs (result.map Prod.snd) := by
  cases result with
  | error cause => exact bind_of_error same _
  | ok done => exact bind_of_ok same _

end QueryUpdate

/-! ### All changes -/

/-- The change made in place. -/
def QueryChange.perform : QueryChange → QueryUpdate Unit
  | .addTable table => QueryUpdate.write (fun query => query.addTable table)
  | .removeTable id => do let _ ← QueryUpdate.removeTable id
  | .setAlias id name => QueryUpdate.setAlias id name
  | .toggleColumn id name => do let _ ← QueryUpdate.toggleColumn id name
  | .setAggregate id name aggregate => QueryUpdate.setAggregate id name aggregate
  | .addGroupBy column => QueryUpdate.addGroupBy column
  | .removeGroupBy index => do let _ ← QueryUpdate.removeGroupBy index
  | .addOrderBy column direction => QueryUpdate.addOrderBy column direction
  | .removeOrderBy index => do let _ ← QueryUpdate.removeOrderBy index
  | .setLimit limit => QueryUpdate.write (fun query => query.setLimit limit)
  | .setOffset offset => QueryUpdate.write (fun query => query.setOffset offset)
  | .addJoin id => QueryUpdate.write (fun query => query.addJoin id)
  | .setJoinTables id left right => QueryUpdate.setJoinTables id left right
  | .setJoinTable id side table => QueryUpdate.setJoinTable id side table
  | .setJoinColumn id side column => QueryUpdate.setJoinColumn id side column
  | .setJoinColumns id left right => QueryUpdate.setJoinColumns id left right
  | .setJoinKind id kind => QueryUpdate.setJoinKind id kind
  | .removeJoin id => do let _ ← QueryUpdate.removeJoin id
  | .applySuggestions request answer settings =>
    QueryUpdate.write (fun query => (query.applySuggestions request answer settings).2)
  | .setConditions conditions => QueryUpdate.write (fun query => query.setConditions conditions)
  | .updateConditions edit => QueryUpdate.updateConditions edit
  | .restore text => do
    let restored ← QueryUpdate.read (fun _ => Query.restore text)
    QueryUpdate.write (fun _ => restored)

namespace QueryChange

theorem perform_eq (change : QueryChange) (query : Query) :
    change.perform query = query.settledAs (change.apply query) := by
  cases change with
  | addTable table => rfl
  | removeTable id => exact QueryUpdate.bind_pure_eq (QueryUpdate.removeTable_eq id query)
  | setAlias id name => exact QueryUpdate.setAlias_eq id name query
  | toggleColumn id name =>
    exact QueryUpdate.bind_pure_eq (QueryUpdate.toggleColumn_eq id name query)
  | setAggregate id name aggregate => exact QueryUpdate.setAggregate_eq id name aggregate query
  | addGroupBy column => exact QueryUpdate.addGroupBy_eq column query
  | removeGroupBy index =>
    exact QueryUpdate.bind_pure_eq (QueryUpdate.removeGroupBy_eq index query)
  | addOrderBy column direction => exact QueryUpdate.addOrderBy_eq column direction query
  | removeOrderBy index =>
    exact QueryUpdate.bind_pure_eq (QueryUpdate.removeOrderBy_eq index query)
  | setLimit limit => rfl
  | setOffset offset => rfl
  | addJoin id => rfl
  | setJoinTables id left right => exact QueryUpdate.setJoinTables_eq id left right query
  | setJoinTable id side table => exact QueryUpdate.setJoinTable_eq id side table query
  | setJoinColumn id side column => exact QueryUpdate.setJoinColumn_eq id side column query
  | setJoinColumns id left right => exact QueryUpdate.setJoinColumns_eq id left right query
  | setJoinKind id kind => exact QueryUpdate.setJoinKind_eq id kind query
  | removeJoin id => exact QueryUpdate.bind_pure_eq (QueryUpdate.removeJoin_eq id query)
  | applySuggestions request answer settings => rfl
  | setConditions conditions => rfl
  | updateConditions edit => exact QueryUpdate.updateConditions_eq edit query
  | restore text =>
    cases restored : Query.restore text with
    | error cause =>
      rw [apply, restored]
      exact QueryUpdate.bind_of_error (QueryUpdate.read_eq restored) _
    | ok changed =>
      rw [apply, restored]
      exact QueryUpdate.bind_of_ok (QueryUpdate.read_eq restored) _

/-- A change in place is made as a whole or not at all: it ends with the changed query, or with an
error and the query as it was. -/
theorem perform_all_or_nothing (change : QueryChange) (query : Query) :
    (∀ changed, change.apply query = .ok changed → change.perform query = (.ok (), changed)) ∧
    (∀ cause, change.apply query = .error cause → change.perform query = (.error cause, query)) ∧
    ∀ cause after, change.perform query = (.error cause, after) → after = query := by
  have same := change.perform_eq query
  refine ⟨?_, ?_, ?_⟩
  · intro changed made
    rw [same, made]
    rfl
  · intro cause refused
    rw [same, refused]
    rfl
  · intro cause after failed
    cases made : change.apply query with
    | ok changed =>
      rw [same, made] at failed
      cases failed
    | error refusal =>
      rw [same, made] at failed
      cases failed
      rfl

/-- Two tables with their columns, and a join between them of which no column is chosen. -/
def usersAndOrders : Query :=
  { tables := [
      { id := .uniform 1, name := "users", columns := [{ name := "id", type := .number }] },
      { id := .uniform 2, name := "orders", columns := [{ name := "user_id", type := .number }] }]
    joins := [
      { id := .uniform 3
        leftTable := some (.uniform 1)
        rightTable := some (.uniform 2) }] }

/-- The left column is written before the right one is found to be missing, and is taken back. -/
theorem usersAndOrders_keeps_no_column :
    ((QueryUpdate.setJoinColumn (.uniform 3) .left (some "id")) usersAndOrders).2.joins.map
        Join.leftColumn = [some "id"] ∧
    (setJoinColumns (.uniform 3) (some "id") (some "nope")).perform usersAndOrders =
      (.error (.unknownColumn "orders" "nope"), usersAndOrders) ∧
    ∀ cause after, (setJoinColumns (.uniform 3) (some "id") (some "nope")).perform usersAndOrders =
      (.error cause, after) → after = usersAndOrders := by
  obtain ⟨_, refused, unchanged⟩ :=
    perform_all_or_nothing (setJoinColumns (.uniform 3) (some "id") (some "nope")) usersAndOrders
  refine ⟨?_, refused _ ?_, unchanged⟩
  · decide
  · rfl

end QueryChange

end QueryComposer
