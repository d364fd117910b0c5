import QueryComposer.Proofs.Change.Columns
import QueryComposer.Proofs.Change.Joins
import QueryComposer.Proofs.Change.Writing
import QueryComposer.Proofs.Diagnostic.Complete

set_option autoImplicit false

/-!
The two sides of a join. A change that chooses a table only looks at the other side as it is, and an
answer to a request for suggestions chooses columns without a look at the tables; still, in no order
of changes a join comes to be one of a table to itself, or has a column where no table is. So a
request for suggestions can always be made for a join, and no compiled query complains about a join
of a table to itself. The joins of a text that is restored are as they are written there.
-/

namespace QueryComposer

/-! ### One join -/

theorem JoinSide.eq_or_opposite (side other : JoinSide) : other = side ∨ other = side.opposite := by
  cases side <;> cases other <;> simp [opposite]

namespace Join

/-- The join is between different tables, as far as they are chosen, and a column is only chosen on
a side whose table is chosen. -/
structure IsProper (join : Join) : Prop where
  apart : ∀ left right, join.leftTable = some left → join.rightTable = some right → left ≠ right
  placed : ∀ side, (join.column? side).isSome = true → (join.table? side).isSome = true

theorem endpoints?_eq_none_iff (join : Join) :
    join.endpoints? = none ↔ join.leftTable = none ∨ join.rightTable = none := by
  unfold endpoints?
  cases join.leftTable <;> cases join.rightTable <;> simp

variable {join changed : Join}

/-- A side whose table is chosen anew may have any column, and the other side is as it was. -/
theorem placed_withTable
    (placed : ∀ side, (join.column? side).isSome = true → (join.table? side).isSome = true)
    (chosen : JoinSide) (table : TableId) :
    ∀ side, ((join.withTable chosen table).column? side).isSome = true →
      ((join.withTable chosen table).table? side).isSome = true := by
  intro side held
  rcases chosen.eq_or_opposite side with rfl | rfl
  · rw [table?_withTable_self, Option.isSome_some]
  · rw [column?_withTable_opposite] at held
    rw [table?_withTable_opposite]
    exact placed _ held

namespace IsProper

theorem new (id : JoinId) : ({ id } : Join).IsProper := by
  refine ⟨fun left right impossible => by contradiction, fun side chosen => ?_⟩
  cases side <;> contradiction

theorem keepsTables (proper : join.IsProper) (kept : join.KeepsTables changed) :
    changed.IsProper where
  apart left right leftChosen rightChosen :=
    proper.apart left right ((kept.tables .left).symm.trans leftChosen)
      ((kept.tables .right).symm.trans rightChosen)
  placed side chosen := by
    rw [kept.tables side]
    exact (kept.columns side chosen).elim (proper.placed side) (fun here => here)

theorem oneTable (proper : join.IsProper) {side : JoinSide} {table : TableId}
    (other : join.table? side.opposite ≠ some table) : (join.withTable side table).IsProper where
  apart left right leftChosen rightChosen := by
    have here := join.table?_withTable_self side table
    have there := join.table?_withTable_opposite side table
    rintro rfl
    cases side with
    | left =>
      cases here.symm.trans leftChosen
      exact other (there.symm.trans rightChosen)
    | right =>
      cases here.symm.trans rightChosen
      exact other (there.symm.trans leftChosen)
  placed := placed_withTable proper.placed side table

/-- On the way to both tables the join may be one of a table to itself, but not at the end. -/
theorem bothTables (proper : join.IsProper) {left right : TableId} (apart : left ≠ right) :
    ((join.withTable .left left).withTable .right right).IsProper where
  apart leftTable rightTable leftChosen rightChosen := by
    have here := (join.withTable .left left).table?_withTable_self .right right
    have there := ((join.withTable .left left).table?_withTable_opposite .right right).trans
      (join.table?_withTable_self .left left)
    cases here.symm.trans rightChosen
    cases there.symm.trans leftChosen
    exact apart
  placed := placed_withTable (placed_withTable proper.placed .left left) .right right

/-- An answer chooses columns only while the tables are those of its request. -/
theorem mergeAnswer (proper : join.IsProper) (request : SuggestionRequest)
    (answer : Except Error (List RelationshipSuggestion)) (settings : SuggestionSettings) :
    (join.mergeAnswer request answer settings).2.IsProper := by
  by_cases same : join.endpoints? = some (request.leftTable, request.rightTable)
  · obtain ⟨left, right⟩ := join.tables_mergeAnswer request answer settings
    obtain ⟨leftChosen, rightChosen⟩ := endpoints?_eq_some same
    refine ⟨?_, fun side _ => ?_⟩
    · rw [left, right]
      exact proper.apart
    · cases side with
      | left => exact Option.isSome_of_eq_some (left.trans leftChosen)
      | right => exact Option.isSome_of_eq_some (right.trans rightChosen)
  · rwa [mergeAnswer_stale answer settings same]

theorem revised {change : QueryChange} (proper : join.IsProper)
    (made : Revised change join changed) : changed.IsProper := by
  cases made with
  | keepsTables kept => exact proper.keepsTables kept
  | oneTable apart => exact proper.oneTable apart
  | bothTables apart => exact proper.bothTables apart
  | answered asked named => exact proper.mergeAnswer _ _ _

theorem defect?_ne_selfJoin (proper : join.IsProper) (tables : List Table)
    (policy : DuplicateJoinPolicy) (earlier : List Join) (number : Nat) :
    join.defect? tables policy earlier ≠ some (.selfJoin number) := by
  intro defect
  unfold defect? at defect
  split at defect
  · cases defect
  · rename_i complete
    rw [Bool.not_eq_true', Bool.not_eq_false, isComplete_iff] at complete
    obtain ⟨left, _, right, _, leftChosen, _, rightChosen, _⟩ := complete
    have apart : join.leftTable ≠ join.rightTable := by
      rw [leftChosen, rightChosen]
      exact fun same => proper.apart left right leftChosen rightChosen (Option.some.inj same)
    simp only [if_neg apart] at defect
    split at defect
    · cases defect
    · split at defect <;> cases defect

end IsProper

end Join

/-! ### One query -/

theorem Comparison.defect?_ne_selfJoin (comparison : Comparison) (tables : List Table)
    (number : Nat) : comparison.defect? tables ≠ some (.selfJoin number) := by
  intro defect
  unfold defect? at defect
  split at defect
  · cases defect
  · split at defect
    · cases defect
    · split at defect
      · unfold operandFault at defect
        split at defect <;> cases defect
      · cases defect

theorem ColumnRef.defect?_ne_selfJoin (column : ColumnRef) (tables : List Table)
    (clause : ColumnClause) (number : Nat) :
    column.defect? tables clause ≠ some (.selfJoin number) := by
  intro defect
  unfold defect? at defect
  split at defect <;> cases defect

namespace Query

variable {query : Query} {id : JoinId} {join : Join}

theorem beginSuggestion_of_unset (source : String) (found : query.join? id = some join)
    (unset : join.endpoints? = none) : query.beginSuggestion id source = .ok none := by
  unfold beginSuggestion
  simp only [requireJoin_of_join? found, unset]

theorem beginSuggestion_of_chosen (source : String) (found : query.join? id = some join)
    {left right : TableId} (chosen : join.endpoints? = some (left, right)) (apart : left ≠ right)
    {leftTable rightTable : Table} (leftFound : query.table? left = some leftTable)
    (rightFound : query.table? right = some rightTable) :
    query.beginSuggestion id source = .ok (some
      { joinId := id, leftTable := left, rightTable := right, source
        leftName := leftTable.name, rightName := rightTable.name }) := by
  unfold beginSuggestion
  simp only [requireJoin_of_join? found, chosen, if_neg apart, requireTable_of_table? leftFound,
    requireTable_of_table? rightFound]

/-- A table that a join names is there, when the joins name only tables of the query. -/
theorem JoinsKnown.exists_table? (known : query.JoinsKnown) (member : join ∈ query.joins)
    (side : JoinSide) {id : TableId} (chosen : join.table? side = some id) :
    ∃ table, query.table? id = some table := by
  have listed := known join member id ((join.touches_iff_table? id).mpr ⟨side, chosen⟩)
  obtain ⟨table, present, same⟩ := List.mem_map.mp listed
  exact Option.isSome_iff_exists.mp
    (List.find?_isSome.mpr ⟨table, present, decide_eq_true same⟩)

/-- A join of the query that is between different tables of it can be asked about, once both are
chosen. -/
theorem beginSuggestion_of_proper (known : query.JoinsKnown)
    (proper : ∀ join ∈ query.joins, join.IsProper) (source : String)
    (found : query.join? id = some join) :
    (query.beginSuggestion id source = .ok none ↔
      join.leftTable = none ∨ join.rightTable = none) ∧
    ∀ left right, join.leftTable = some left → join.rightTable = some right →
      left ≠ right ∧ ∃ leftTable rightTable,
        query.table? left = some leftTable ∧ query.table? right = some rightTable ∧
        query.beginSuggestion id source = .ok (some
          { joinId := id, leftTable := left, rightTable := right, source
            leftName := leftTable.name, rightName := rightTable.name }) := by
  have member : join ∈ query.joins := List.mem_of_find?_eq_some found
  have asked (left right : TableId) (leftChosen : join.leftTable = some left)
      (rightChosen : join.rightTable = some right) :
      left ≠ right ∧ ∃ leftTable rightTable,
        query.table? left = some leftTable ∧ query.table? right = some rightTable ∧
        query.beginSuggestion id source = .ok (some
          { joinId := id, leftTable := left, rightTable := right, source
            leftName := leftTable.name, rightName := rightTable.name }) := by
    have apart := (proper join member).apart left right leftChosen rightChosen
    obtain ⟨leftTable, leftFound⟩ := known.exists_table? member .left leftChosen
    obtain ⟨rightTable, rightFound⟩ := known.exists_table? member .right rightChosen
    exact ⟨apart, leftTable, rightTable, leftFound, rightFound,
      beginSuggestion_of_chosen source found
        (Join.endpoints?_of_tables leftChosen rightChosen) apart leftFound rightFound⟩
  refine ⟨⟨fun nothing => ?_, fun unset => ?_⟩, asked⟩
  · cases leftChosen : join.leftTable with
    | none => exact Or.inl rfl
    | some left =>
      cases rightChosen : join.rightTable with
      | none => exact Or.inr rfl
      | some right =>
        obtain ⟨_, _, _, _, _, made⟩ := asked left right leftChosen rightChosen
        cases made.symm.trans nothing
  · exact beginSuggestion_of_unset source found ((join.endpoints?_eq_none_iff).mpr unset)

theorem selfJoin_not_mem_faults (proper : ∀ join ∈ query.joins, join.IsProper)
    (settings : CompilerSettings) (number : Nat) :
    .selfJoin number ∉ (query.compile settings).faults := by
  intro member
  rcases mem_faults_cases member with impossible | ⟨join, listed, earlier, defect⟩ |
    ⟨comparison, _, defect⟩ | ⟨column, _, clause, defect⟩
  · cases impossible
  · exact (proper join listed).defect?_ne_selfJoin _ _ earlier number defect
  · exact comparison.defect?_ne_selfJoin _ number defect
  · exact column.defect?_ne_selfJoin _ clause number defect

/-! ### Runs -/

/-- After any changes from the empty query that restore no text, each join is between different
tables and has columns only where tables are. To ask for suggestions about a join never fails: there
is no request exactly while a table is not chosen, and else one about two different tables of the
query. No compiled query has a join of a table to itself among its faults. -/
theorem run_joins_proper (changes : List QueryChange) (noText : ∀ text, .restore text ∉ changes) :
    (∀ join ∈ (run {} changes).joins, join.IsProper) ∧
    (∀ id join source, (run {} changes).join? id = some join →
      ((run {} changes).beginSuggestion id source = .ok none ↔
        join.leftTable = none ∨ join.rightTable = none) ∧
      ∀ left right, join.leftTable = some left → join.rightTable = some right →
        left ≠ right ∧ ∃ leftTable rightTable,
          (run {} changes).table? left = some leftTable ∧
          (run {} changes).table? right = some rightTable ∧
          (run {} changes).beginSuggestion id source = .ok (some
            { joinId := id, leftTable := left, rightTable := right, source
              leftName := leftTable.name, rightName := rightTable.name })) ∧
    ∀ settings number, .selfJoin number ∉ ((run {} changes).compile settings).faults := by
  have proper : ∀ join ∈ (run {} changes).joins, join.IsProper :=
    forall_joins_run (fun _ join => join.IsProper) (fun _ id => .new id)
      (fun before made => before.revised made) noText
  have known : (run {} changes).JoinsKnown := .run .initial changes
  exact ⟨proper, fun id join source found => beginSuggestion_of_proper known proper source found,
    selfJoin_not_mem_faults proper⟩

/-- The sides of a join are exchanged after an answer chose its columns, and one of its tables is
replaced by a third one. -/
def exchangedAndReplaced : List QueryChange :=
  [.addTable (.plain 1 "users"), .addTable (.plain 2 "orders"), .addTable (.plain 3 "items"),
    .addJoin (.uniform 1),
    .setJoinTables (.uniform 1) (.uniform 1) (.uniform 2),
    .applySuggestions
      { joinId := .uniform 1, leftTable := .uniform 1, rightTable := .uniform 2, source := "shop"
        leftName := "users", rightName := "orders" }
      (.ok [{ leftColumn := "id", rightColumn := "user_id", confidence := .ofRatio false 9 10 }])
      {},
    .setJoinTables (.uniform 1) (.uniform 2) (.uniform 1),
    .setJoinTable (.uniform 1) .right (.uniform 2), .setJoinTable (.uniform 1) .right (.uniform 3),
    .setJoinColumn (.uniform 1) .right (some "order_id")]

theorem exchangedAndReplaced_proper :
    (∀ text, .restore text ∉ exchangedAndReplaced) ∧
    (∀ join ∈ (run {} exchangedAndReplaced).joins, join.IsProper) ∧
    (run {} exchangedAndReplaced).join? (.uniform 1) = some
      { id := .uniform 1, leftTable := some (.uniform 2), rightTable := some (.uniform 3)
        rightColumn := some "order_id" } ∧
    (run {} exchangedAndReplaced).beginSuggestion (.uniform 1) "shop" ≠ .ok none := by
  have noText (text : String) : .restore text ∉ exchangedAndReplaced := by
    intro member
    simp [exchangedAndReplaced] at member
  have found : (run {} exchangedAndReplaced).join? (.uniform 1) = some
      { id := .uniform 1, leftTable := some (.uniform 2), rightTable := some (.uniform 3)
        rightColumn := some "order_id" } := by
    decide +kernel
  obtain ⟨proper, asked, _⟩ := run_joins_proper exchangedAndReplaced noText
  refine ⟨noText, proper, found, fun nothing => ?_⟩
  rcases ((asked _ _ "shop" found).1.mp nothing) with unset | unset <;> contradiction

end Query

end QueryComposer
