import QueryComposer.Proofs.Diagnostic.Joins
import QueryComposer.Proofs.Layout.Operands
import QueryComposer.Proofs.Text.Split

set_option autoImplicit false

/-!
What is wrong with a comparison, and with a column that a query is grouped or sorted by, said
without writing them. Each has one fault when it is defective and is written when it is not.
-/

namespace QueryComposer

open QueryComposer.Text

/-! ### Comparisons -/

/-- The value adds nothing to a list: it is null, or a text of commas and white space. -/
def Value.offersNothing : Value → Bool
  | .null => true
  | .string text => text.toList.all (fun c => c = ',' || isBlank c)
  | _ => false

namespace Comparison

/-- The operator does not find the operands it takes in the value. -/
def lacksOperands (comparison : Comparison) : Bool :=
  match comparison.operator.arity with
  | .none => false
  | .single => !comparison.value.fits .single
  | .list => (listValues comparison.value).all Value.offersNothing
  | .range =>
    match rangeValues? comparison.value with
    | some (low, high) => low.isEmpty || high.isEmpty
    | none => true

/-- The fault of a comparison that lacks operands. -/
def operandFault (comparison : Comparison) : QueryFault :=
  match comparison.operator.arity with
  | .list => .emptyList comparison.operator comparison.column
  | .range => .missingBound comparison.operator comparison.column
  | _ => .notSingle comparison.operator comparison.column

/-- What is wrong with a comparison. -/
def defect? (tables : List Table) (comparison : Comparison) : Option QueryFault :=
  if !comparison.isBound then some .unboundCondition
  else if comparison.tableId.any (fun id => !hasTable tables id) then
    some (.conditionOnUnselected comparison.column)
  else if comparison.lacksOperands then some comparison.operandFault
  else none

theorem textPieces_eq_nil_iff {text : String} :
    textPieces text = [] ↔ ∀ c ∈ text.toList, c = ',' ∨ isBlank c = true := by
  have blank (piece : List Char) : trim (String.ofList piece) = "" ↔ trimChars piece = [] := by
    rw [trim, String.toList_ofList, ← String.toList_inj, String.toList_ofList]
    rfl
  rw [← splitChars_blank_iff, textPieces, split, List.map_map, List.filter_eq_nil_iff,
    List.forall_mem_map]
  simp only [Function.comp_apply, blank, decide_eq_true_eq, not_not]

theorem valueItems_eq_nil_iff {policy : LiteralPolicy} {value : Value} :
    valueItems policy value = [] ↔ value.offersNothing = true := by
  cases value with
  | null => simp [valueItems, Value.offersNothing]
  | string text =>
    rw [valueItems, textItems, List.map_eq_nil_iff, ← textPieces, textPieces_eq_nil_iff,
      Value.offersNothing, List.all_eq_true]
    simp only [Bool.or_eq_true, decide_eq_true_eq]
  | _ => simp [valueItems, Value.offersNothing]

theorem listItems_eq_nil_iff (policy : LiteralPolicy) {value : ConditionValue} :
    listItems policy value = [] ↔ (listValues value).all Value.offersNothing = true := by
  rw [listItems, List.flatMap_eq_nil_iff, List.all_eq_true]
  exact forall₂_congr (fun item _ => valueItems_eq_nil_iff)

/-- The operands of a comparison are refused exactly when its value lacks them. -/
theorem operands_eq_error_iff (policy : LiteralPolicy) {comparison : Comparison}
    {fault : QueryFault} :
    comparison.operands policy = .error fault ↔
      comparison.lacksOperands = true ∧ comparison.operandFault = fault := by
  unfold operands lacksOperands operandFault
  cases comparison.operator.arity with
  | none => simp
  | single => cases comparison.value <;> simp [ConditionValue.fits, ConditionValue.arity]
  | list =>
    simp only [← listItems_eq_nil_iff policy, ← List.isEmpty_iff]
    cases (listItems policy comparison.value).isEmpty <;> simp
  | range =>
    unfold rangeBounds?
    cases rangeValues? comparison.value with
    | none => simp
    | some bounds =>
      obtain ⟨low, high⟩ := bounds
      cases empty : low.isEmpty || high.isEmpty <;> simp [empty]

/-- A comparison is refused exactly for its defect. -/
theorem atom_eq_error_iff {tables : List Table} (policy : LiteralPolicy) {comparison : Comparison}
    {fault : QueryFault} :
    comparison.atom tables policy = .error fault ↔ comparison.defect? tables = some fault := by
  have shown {column : String} (found : comparison.columnText tables = .ok column)
      (bound : comparison.isBound = true) :
      comparison.atom tables policy = .error fault ↔
        comparison.lacksOperands = true ∧ comparison.operandFault = fault := by
    rw [atom, bound, found, ← operands_eq_error_iff policy]
    cases comparison.operands policy <;> simp [Except.map]
  unfold defect?
  cases bound : comparison.isBound with
  | false => simp [atom, bound]
  | true =>
    cases held : comparison.tableId with
    | none =>
      rw [shown (by rw [columnText, held]) bound]
      simp
    | some id =>
      cases found : resolveTable? tables id with
      | none => simp [atom, bound, columnText, held, ← isSome_resolveTable?, found]
      | some table =>
        have written : comparison.columnText tables = .ok (table.qualify comparison.column) := by
          simp only [columnText, held, found]
        rw [shown written bound]
        simp [← isSome_resolveTable?, found]

end Comparison

/-! ### Columns -/

namespace ColumnRef

/-- What is wrong with a column of a clause. -/
def defect? (tables : List Table) (clause : ColumnClause) (column : ColumnRef) :
    Option QueryFault :=
  if hasTable tables column.tableId then none
  else some (.columnOfUnselected clause column.name)

/-- The column as it is written, behind the qualifier of its table. -/
def ShownAs (tables : List Table) (column : ColumnRef) (text : String) : Prop :=
  ∃ table, resolveTable? tables column.tableId = some table ∧ text = table.qualify column.name

end ColumnRef

namespace Query

theorem clauseColumn_eq_error_iff {query : Query} {clause : ColumnClause} {column : ColumnRef}
    {fault : QueryFault} :
    query.clauseColumn clause column = .error fault ↔
      column.defect? query.tables clause = some fault := by
  unfold clauseColumn ColumnRef.defect?
  rw [← isSome_resolveTable?]
  cases resolveTable? query.tables column.tableId <;> simp

theorem clauseColumn_eq_ok_iff {query : Query} {clause : ColumnClause} {column : ColumnRef}
    {text : String} :
    query.clauseColumn clause column = .ok text ↔ column.ShownAs query.tables text := by
  unfold clauseColumn ColumnRef.ShownAs
  cases resolveTable? query.tables column.tableId <;> simp [eq_comm]

/-! ### One result for each item -/

section Results

variable {α β ε : Type} {result : α → Except ε β} {defect? : α → Option ε}

/-- The errors are the defects, when each item fails for its defect. -/
theorem failures_map_eq_filterMap
    (fails : ∀ item error, result item = .error error ↔ defect? item = some error)
    (items : List α) : failures (items.map result) = items.filterMap defect? := by
  unfold failures
  rw [List.filterMap_map]
  apply List.filterMap_congr
  intro item _
  cases found : result item with
  | error error => simp [found, (fails item error).mp found]
  | ok answer =>
    cases defect : defect? item with
    | none => simp [found]
    | some error =>
      rw [(fails item error).mpr defect] at found
      contradiction

/-- The results are those of the items without a defect, item by item. -/
theorem forall₂_successes_map
    (fails : ∀ item error, result item = .error error ↔ defect? item = some error)
    (items : List α) :
    List.Forall₂ (fun item answer => result item = .ok answer)
      (items.filter (fun item => (defect? item).isNone)) (successes (items.map result)) := by
  unfold successes
  rw [List.filterMap_map]
  induction items with
  | nil => exact .nil
  | cons item items induct =>
    rw [List.filterMap_cons, Function.comp_apply]
    cases found : result item with
    | error error =>
      rw [List.filter_cons_of_neg (by simp [(fails item error).mp found])]
      exact induct
    | ok answer =>
      have sound : defect? item = none := by
        by_contra defective
        obtain ⟨error, defect⟩ := Option.ne_none_iff_exists'.mp defective
        rw [(fails item error).mpr defect] at found
        contradiction
      rw [List.filter_cons_of_pos (by simp [sound])]
      exact .cons found induct

end Results

end Query

end QueryComposer
