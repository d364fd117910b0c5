import QueryComposer.Proofs.Change.Basic
import QueryComposer.Query.InPlace

set_option autoImplicit false

/-!
What it means to look things up in a query, to write to its first table or join with an identity,
and to go on after that: each lookup either finds something and changes nothing, or ends the change
there; two writes at one place are one write.
-/

namespace QueryComposer

/-! ### First items of a query -/

namespace Query

variable {α : Type} {query : Query}

theorem editTable_of_table? {id : TableId} {table : Table}
    (edit : Table → Except Error (α × Table)) (found : query.table? id = some table) :
    query.editTable id edit = (edit table).map (fun (answer, edited) =>
      (answer, { query with
        tables := modifyFirst (fun table => table.id = id) (fun _ => edited) query.tables })) := by
  unfold editTable
  rw [editFirst_of_find?_eq_some _ _ found]
  cases edit table <;> rfl

theorem editTable_of_missing {id : TableId} (edit : Table → Except Error (α × Table))
    (missing : query.table? id = none) : query.editTable id edit = .error (.unknownTable id) := by
  unfold editTable
  rw [editFirst_of_find?_eq_none _ _ missing]
  rfl

theorem editJoin_of_join? {id : JoinId} {join : Join} (edit : Join → Except Error Join)
    (found : query.join? id = some join) :
    query.editJoin id edit = (edit join).map (fun edited =>
      { query with
        joins := modifyFirst (fun join => join.id = id) (fun _ => edited) query.joins }) := by
  unfold editJoin
  rw [editFirst_of_find?_eq_some _ _ found]
  cases edit join <;> rfl

theorem editJoin_of_missing {id : JoinId} (edit : Join → Except Error Join)
    (missing : query.join? id = none) : query.editJoin id edit = .error (.unknownJoin id) := by
  unfold editJoin
  rw [editFirst_of_find?_eq_none _ _ missing]
  rfl

theorem requireTable_of_table? {id : TableId} {table : Table}
    (found : query.table? id = some table) : query.requireTable id = .ok table := by
  unfold requireTable
  rw [found]

theorem requireTable_of_missing {id : TableId} (missing : query.table? id = none) :
    query.requireTable id = .error (.unknownTable id) := by
  unfold requireTable
  rw [missing]

theorem requireJoin_of_join? {id : JoinId} {join : Join} (found : query.join? id = some join) :
    query.requireJoin id = .ok join := by
  unfold requireJoin
  rw [found]

theorem requireJoin_of_missing {id : JoinId} (missing : query.join? id = none) :
    query.requireJoin id = .error (.unknownJoin id) := by
  unfold requireJoin
  rw [missing]

theorem editColumn_of_column? {id : TableId} {name : String} {table : Table} {column : Column}
    (edit : Column → α × Column) (found : query.table? id = some table)
    (listed : table.column? name = some column) :
    query.editColumn id name edit = .ok ((edit column).1, { query with
      tables := modifyFirst (fun table => table.id = id) (fun _ => { table with
        columns := modifyFirst (fun column => column.name = name) (fun _ => (edit column).2)
          table.columns }) query.tables }) := by
  unfold editColumn
  rw [editTable_of_table? _ found, editFirst_of_find?_eq_some _ _ listed]
  rfl

theorem editColumn_of_missing {id : TableId} (name : String) (edit : Column → α × Column)
    (missing : query.table? id = none) :
    query.editColumn id name edit = .error (.unknownTable id) :=
  editTable_of_missing _ missing

theorem editColumn_of_unlisted {id : TableId} {name : String} {table : Table}
    (edit : Column → α × Column) (found : query.table? id = some table)
    (unlisted : table.column? name = none) :
    query.editColumn id name edit = .error (.unknownColumn table.name name) := by
  unfold editColumn
  rw [editTable_of_table? _ found, editFirst_of_find?_eq_none _ _ unlisted]
  rfl

theorem setJoinColumn_writes {query changed : Query} {id : JoinId} {side : JoinSide}
    {column : Option String} (done : query.setJoinColumn id side column = .ok changed) :
    ∃ join, query.join? id = some join ∧ ∃ chosen, changed = { query with
      joins := modifyFirst (fun join => join.id = id) (fun _ => join.withColumn chosen side)
        query.joins } := by
  unfold setJoinColumn at done
  cases found : query.join? id with
  | none =>
    rw [editJoin_of_missing _ found] at done
    cases done
  | some join =>
    rw [editJoin_of_join? _ found] at done
    obtain ⟨edited, edits, rfl⟩ := Except.map_eq_ok done
    refine ⟨join, rfl, ?_⟩
    split at edits
    · cases edits
      exact ⟨none, rfl⟩
    · rename_i name _
      obtain ⟨_, _, rfl⟩ := Except.map_eq_ok edits
      exact ⟨some name, rfl⟩

/-- The answer to a change and the query after it: the changed one, or as it was with an error. -/
def settled (query : Query) : Except Error (α × Query) → Except Error α × Query
  | .ok (answer, changed) => (.ok answer, changed)
  | .error cause => (.error cause, query)

/-- The same for a change without an answer. -/
def settledAs (query : Query) (result : Except Error Query) : Except Error Unit × Query :=
  query.settled (result.map (fun changed => ((), changed)))

end Query

namespace Join

theorem id_withTable (join : Join) (side : JoinSide) (table : TableId) :
    (join.withTable side table).id = join.id := by
  unfold withTable
  split
  · rfl
  · cases side <;> rfl

theorem id_withColumn (join : Join) (column : Option String) (side : JoinSide) :
    (join.withColumn column side).id = join.id := by
  cases side <;> rfl

theorem table?_withTable_self (join : Join) (side : JoinSide) (table : TableId) :
    (join.withTable side table).table? side = some table := by
  unfold withTable
  split
  · assumption
  · cases side <;> rfl

theorem table?_withTable_opposite (join : Join) (side : JoinSide) (table : TableId) :
    (join.withTable side table).table? side.opposite = join.table? side.opposite := by
  unfold withTable
  split
  · rfl
  · cases side <;> rfl

theorem column?_withTable_opposite (join : Join) (side : JoinSide) (table : TableId) :
    (join.withTable side table).column? side.opposite = join.column? side.opposite := by
  unfold withTable
  split
  · rfl
  · cases side <;> rfl

theorem endpoints?_of_tables {join : Join} {left right : TableId}
    (leftChosen : join.table? .left = some left) (rightChosen : join.table? .right = some right) :
    join.endpoints? = some (left, right) := by
  unfold endpoints?
  rw [show join.leftTable = some left from leftChosen,
    show join.rightTable = some right from rightChosen]

end Join

/-! ### Reading and writing -/

namespace QueryUpdate

variable {α β : Type} {query after : Query}

theorem bind_of_ok {first : QueryUpdate α} {answer : α} (done : first query = (.ok answer, after))
    (next : α → QueryUpdate β) : (first >>= next) query = next answer after := by
  change ExceptT.bindCont next (first query).1 (first query).2 = next answer after
  rw [done]
  rfl

theorem bind_of_error {first : QueryUpdate α} {cause : Error}
    (failed : first query = (.error cause, after)) (next : α → QueryUpdate β) :
    (first >>= next) query = (.error cause, after) := by
  change ExceptT.bindCont next (first query).1 (first query).2 = (.error cause, after)
  rw [failed]
  rfl

theorem tryCatch_of_ok {first : QueryUpdate α} {answer : α}
    (done : first query = (.ok answer, after)) (handler : Error → QueryUpdate α) :
    tryCatch first handler query = (.ok answer, after) := by
  simp only [tryCatch, tryCatchThe, MonadExceptOf.tryCatch, ExceptT.tryCatch, ExceptT.mk, bind,
    StateT.bind, done]
  rfl

theorem tryCatch_of_error {first : QueryUpdate α} {cause : Error}
    (failed : first query = (.error cause, after)) (handler : Error → QueryUpdate α) :
    tryCatch first handler query = handler cause after := by
  simp only [tryCatch, tryCatchThe, MonadExceptOf.tryCatch, ExceptT.tryCatch, ExceptT.mk, bind,
    StateT.bind, failed]

theorem read_eq {question : Query → Except Error α} {result : Except Error α}
    (found : question query = result) : read question query = (result, query) := by
  unfold read
  rw [found]

theorem require_of_some {missing : Error} {question : Query → Option α} {answer : α}
    (found : question query = some answer) :
    require missing question query = (.ok answer, query) := by
  refine read_eq ?_
  rw [found]

theorem require_of_none {missing : Error} {question : Query → Option α}
    (absent : question query = none) :
    require missing question query = (.error missing, query) := by
  refine read_eq ?_
  rw [absent]

theorem requireTable_eq {id : TableId} {table : Table} (found : query.table? id = some table) :
    requireTable id query = (.ok table, query) :=
  read_eq (Query.requireTable_of_table? found)

theorem requireTable_eq_error {id : TableId} (missing : query.table? id = none) :
    requireTable id query = (.error (.unknownTable id), query) :=
  read_eq (Query.requireTable_of_missing missing)

theorem requireJoin_eq {id : JoinId} {join : Join} (found : query.join? id = some join) :
    requireJoin id query = (.ok join, query) :=
  read_eq (Query.requireJoin_of_join? found)

theorem requireJoin_eq_error {id : JoinId} (missing : query.join? id = none) :
    requireJoin id query = (.error (.unknownJoin id), query) :=
  read_eq (Query.requireJoin_of_missing missing)

theorem requireColumn_eq {id : TableId} {name : String} {table : Table} {column : Column}
    (found : query.table? id = some table) (listed : table.column? name = some column) :
    requireColumn id name query = (.ok column, query) := by
  unfold requireColumn
  rw [bind_of_ok (requireTable_eq found)]
  exact require_of_some listed

theorem requireColumn_eq_missing {id : TableId} (name : String)
    (missing : query.table? id = none) :
    requireColumn id name query = (.error (.unknownTable id), query) :=
  bind_of_error (requireTable_eq_error missing) _

theorem requireColumn_eq_unlisted {id : TableId} {name : String} {table : Table}
    (found : query.table? id = some table) (unlisted : table.column? name = none) :
    requireColumn id name query = (.error (.unknownColumn table.name name), query) := by
  unfold requireColumn
  rw [bind_of_ok (requireTable_eq found)]
  exact require_of_none unlisted

theorem writeTable_eq {id : TableId} {table : Table} (change : Table → Table)
    (found : query.table? id = some table) :
    writeTable id change query = (.ok (), { query with
      tables := modifyFirst (fun table => table.id = id) (fun _ => change table)
        query.tables }) := by
  rw [← modifyFirst_of_find? change found]
  rfl

theorem writeJoin_eq {id : JoinId} {join : Join} (change : Join → Join)
    (found : query.join? id = some join) :
    writeJoin id change query = (.ok (), { query with
      joins := modifyFirst (fun join => join.id = id) (fun _ => change join) query.joins }) := by
  rw [← modifyFirst_of_find? change found]
  rfl

theorem writeTable_bind_writeTable {id : TableId} {change : Table → Table}
    (kept : ∀ table, (change table).id = table.id) (other : Table → Table) :
    (writeTable id change >>= fun _ => writeTable id other) query =
      writeTable id (fun table => other (change table)) query := by
  have same : modifyFirst (fun table => table.id = id) other
      (modifyFirst (fun table => table.id = id) change query.tables) =
        modifyFirst (fun table => table.id = id) (fun table => other (change table))
          query.tables := by
    apply modifyFirst_modifyFirst
    intro table met
    rwa [kept table]
  exact congrArg (fun tables => (Except.ok (), { query with tables })) same

theorem writeColumn_bind_writeColumn {id : TableId} {name : String} {change : Column → Column}
    (kept : ∀ column, (change column).name = column.name) (other : Column → Column) :
    (writeColumn id name change >>= fun _ => writeColumn id name other) query =
      writeColumn id name (fun column => other (change column)) query := by
  have same (columns : List Column) :
      modifyFirst (fun column => column.name = name) other
        (modifyFirst (fun column => column.name = name) change columns) =
          modifyFirst (fun column => column.name = name) (fun column => other (change column))
            columns := by
    apply modifyFirst_modifyFirst
    intro column met
    rwa [kept column]
  unfold writeColumn
  refine (writeTable_bind_writeTable ?_ _).trans ?_
  · intro table
    rfl
  · simp only [same]

theorem writeJoin_bind_writeJoin {id : JoinId} {change : Join → Join}
    (kept : ∀ join, (change join).id = join.id) (other : Join → Join) :
    (writeJoin id change >>= fun _ => writeJoin id other) query =
      writeJoin id (fun join => other (change join)) query := by
  have same : modifyFirst (fun join => join.id = id) other
      (modifyFirst (fun join => join.id = id) change query.joins) =
        modifyFirst (fun join => join.id = id) (fun join => other (change join)) query.joins := by
    apply modifyFirst_modifyFirst
    intro join met
    rwa [kept join]
  exact congrArg (fun joins => (Except.ok (), { query with joins })) same

/-- A column is written to in the one table, at the one place. -/
theorem writeColumn_eq {id : TableId} {name : String} {table : Table} {column : Column}
    (change : Column → Column) (found : query.table? id = some table)
    (listed : table.column? name = some column) :
    writeColumn id name change query = (.ok (), { query with
      tables := modifyFirst (fun table => table.id = id) (fun _ => { table with
        columns := modifyFirst (fun column => column.name = name) (fun _ => change column)
          table.columns }) query.tables }) := by
  unfold writeColumn
  rw [writeTable_eq _ found, modifyFirst_of_find? change listed]

/-- What was written of a join is undone by writing the join that was there. -/
theorem writeJoin_restores {id : JoinId} {join edited : Join} (found : query.join? id = some join)
    (kept : edited.id = join.id) :
    writeJoin id (fun _ => join) { query with
      joins := modifyFirst (fun join => join.id = id) (fun _ => edited) query.joins } =
        (.ok (), query) := by
  have same : join.id = id := by simpa using List.find?_some found
  have undone : modifyFirst (fun join => join.id = id) (fun _ => join)
      (modifyFirst (fun join => join.id = id) (fun _ => edited) query.joins) = query.joins := by
    rw [modifyFirst_modifyFirst]
    · exact modifyFirst_eq_self found
    · intro other _
      exact decide_eq_true (kept.trans same)
  exact congrArg (fun joins => (Except.ok (), { query with joins })) undone

end QueryUpdate

end QueryComposer
