import QueryComposer.Proofs.Change.Basic
import QueryComposer.Proofs.Layout.Statement
import QueryComposer.Proofs.Literal.Singular

set_option autoImplicit false

/-!
The comparisons of a query that lacks nothing. Each of them is written, in their order, with as many
operands as its operator takes. An operand is one literal or reference, unless its value is a list
without items or with several: an operator that takes a single value does not refuse such a list.
-/

namespace QueryComposer

open QueryComposer.Text

/-- What is written to the right of the operator, operand by operand. -/
def Operands.texts : Operands → List String
  | .none => []
  | .single text => [text]
  | .list texts => texts
  | .range low high => [low, high]

/-- So many operands may be written. -/
def Arity.admits (count : Nat) : Arity → Bool
  | .none => count = 0
  | .single => count = 1
  | .list => 0 < count
  | .range => count = 2

namespace Comparison

/-- The values that a value adds to a list. -/
def itemValues : Value → List Value
  | .string text => (textPieces text).map .string
  | .null => []
  | value => [value]

/-- The values that become operands, from left to right. -/
def operandValues (comparison : Comparison) : List Value :=
  match comparison.operator.arity with
  | .none => []
  | .single =>
    match comparison.value with
    | .scalar value => [value]
    | _ => []
  | .list => (listValues comparison.value).flatMap itemValues
  | .range =>
    match rangeValues? comparison.value with
    | some (low, high) => [low, high]
    | none => []

theorem valueItems_eq (policy : LiteralPolicy) (value : Value) :
    valueItems policy value = (itemValues value).map (Literal.ofValue policy) := by
  cases value with
  | string text =>
    rw [valueItems, itemValues, textItems, ← textPieces, List.map_map]
    rfl
  | _ => rfl

theorem listItems_eq (policy : LiteralPolicy) (value : ConditionValue) :
    listItems policy value =
      ((listValues value).flatMap itemValues).map (Literal.ofValue policy) := by
  rw [listItems, List.map_flatMap]
  apply List.flatMap_congr
  intro item _
  exact valueItems_eq policy item

/-- An operator is written with as many operands as it takes, each of them a value. -/
theorem texts_operands {policy : LiteralPolicy} {comparison : Comparison} {shown : Operands}
    (written : comparison.operands policy = .ok shown) :
    shown.texts = comparison.operandValues.map (Literal.ofValue policy) ∧
      comparison.operator.arity.admits comparison.operandValues.length = true := by
  unfold operandValues
  cases arity : comparison.operator.arity with
  | none =>
    rw [operands_none arity] at written
    cases written
    exact ⟨rfl, rfl⟩
  | single =>
    obtain ⟨value, held, rfl⟩ := (operands_single_iff arity).mp written
    rw [held]
    exact ⟨rfl, rfl⟩
  | list =>
    obtain ⟨present, rfl⟩ := (operands_list_iff arity).mp written
    refine ⟨listItems_eq policy comparison.value, ?_⟩
    rw [listItems_eq] at present
    apply decide_eq_true
    apply List.length_pos_of_ne_nil
    intro empty
    dsimp only at empty
    rw [empty] at present
    exact present rfl
  | range =>
    obtain ⟨low, high, held, _, _, rfl⟩ := (operands_range_iff arity).mp written
    rw [held]
    exact ⟨rfl, rfl⟩

/-- The comparison is written with its operator and its values, and each operand is one literal or
reference unless a value is a list without items or with several. -/
structure ShownBy (policy : LiteralPolicy) (comparison : Comparison) (atom : Atom) : Prop where
  bound : comparison.isBound = true
  operator : atom.operator = comparison.operator
  texts : atom.operands.texts = comparison.operandValues.map (Literal.ofValue policy)
  count : comparison.operator.arity.admits atom.operands.texts.length = true
  complete : (∀ text ∈ atom.operands.texts, Literal.IsOperand text.toList) ↔
    ∀ value ∈ comparison.operandValues, value.isSingular = true

theorem shownBy_of_atom {tables : List Table} {policy : LiteralPolicy} {comparison : Comparison}
    {atom : Atom} (written : comparison.atom tables policy = .ok atom) :
    comparison.ShownBy policy atom := by
  obtain ⟨bound, _, operator, given⟩ := atom_eq_ok_iff.mp written
  obtain ⟨texts, count⟩ := texts_operands given
  refine ⟨bound, operator, texts, ?_, ?_⟩
  · rw [texts, List.length_map]
    exact count
  · rw [texts]
    simp only [List.forall_mem_map, Literal.isOperand_ofValue_iff]

end Comparison

/-- Each comparison that can be written is shown by what it becomes. -/
theorem forall₂_filterMap_atom? {tables : List Table} {policy : LiteralPolicy}
    {comparisons : List Comparison}
    (written : ∀ comparison ∈ comparisons, ∃ atom, comparison.atom tables policy = .ok atom) :
    List.Forall₂ (Comparison.ShownBy policy) comparisons
      (comparisons.filterMap (Comparison.atom? tables policy)) := by
  induction comparisons with
  | nil => exact .nil
  | cons comparison comparisons inner =>
    rw [List.forall_mem_cons] at written
    obtain ⟨⟨atom, made⟩, others⟩ := written
    rw [List.filterMap_cons_some (Comparison.atom?_eq_some_iff.mpr made)]
    exact .cons (Comparison.shownBy_of_atom made) (inner others)

namespace Query

theorem atoms_whereTokens? (query : Query) (settings : CompilerSettings)
    (nonempty : query.tables ≠ []) :
    (query.whereTokens? settings).toList.flatMap WherePart.atoms =
      query.conditions.leaves.filterMap
        (Comparison.atom? query.tables settings.literalPolicy) := by
  unfold whereTokens?
  split
  · contradiction
  · rw [wherePart, ConditionGroup.wherePart_eq, WherePart.atoms_combine, Condition.atoms_parts]
    rfl

/-- The statement of a query that lacks nothing shows all its comparisons, in their order and each
one with the operands that its operator takes. An operand is one literal or reference exactly when
its value is no list, or a list of one such value. -/
theorem valid_shows_comparisons (query : Query) (settings : CompilerSettings)
    (valid : (query.compile settings).isValid = true) :
    (query.compile settings).sql = join "\n" (query.lines settings) ∧
    (query.lines settings).filter Statement.isConditionLine =
      ((query.whereTokens? settings).map
        (fun tokens => "WHERE " ++ WherePart.text tokens)).toList ∧
    List.Forall₂ (Comparison.ShownBy settings.literalPolicy) query.conditions.leaves
      ((query.whereTokens? settings).toList.flatMap WherePart.atoms) := by
  refine ⟨query.compile_sql_eq_join settings, query.filter_lines settings, ?_⟩
  obtain ⟨nonempty, _⟩ := isValid_iff.mp valid
  rw [atoms_whereTokens? query settings nonempty]
  exact forall₂_filterMap_atom? (query.conditions.faultless_iff.mp (faultless_of_isValid valid))

/-- Comparisons with one value, with several and between two, in a group and outside of it. -/
def paidOrders : Query :=
  { tables := [{ id := .uniform 1, name := "orders" }]
    conditions :=
      { members := [
          .leaf { column := "state", value := .scalar (.string "paid") },
          .group .or [
            .leaf { column := "total", operator := .between, value := .range (.int 1) (.int 9) },
            .leaf { column := "kind", operator := .among, value := .list [.string "a, b"] }]] } }

theorem paidOrders_shows_comparisons :
    (paidOrders.compile {}).isValid = true ∧
    List.Forall₂ (Comparison.ShownBy .permissive) paidOrders.conditions.leaves
      ((paidOrders.whereTokens? {}).toList.flatMap WherePart.atoms) ∧
    (paidOrders.compile {}).sql = "SELECT * FROM orders\n" ++
      "WHERE state = 'paid' AND (total BETWEEN 1 AND 9 OR kind IN ('a', 'b'))" := by
  have valid : (paidOrders.compile {}).isValid = true := by decide +kernel
  exact ⟨valid, (valid_shows_comparisons paidOrders {} valid).2.2, by decide +kernel⟩

/-- A comparison is bound to a column of lists; its operator takes a single value, and the empty
list is one. -/
def tagsWithoutValue : List QueryChange :=
  [.addTable { id := .uniform 1, name := "posts" },
    .updateConditions (fun group => .ok group.addLeaf),
    .updateConditions (fun group => group.updateLeaf 0 (.column none "tags" .array))]

/-- Nothing is written behind the operator, and nothing is said to be missing. -/
theorem tagsWithoutValue_shows_no_operand :
    ((run {} tagsWithoutValue).compile {}).isValid = true ∧
    ((run {} tagsWithoutValue).compile {}).sql = "SELECT * FROM posts\nWHERE tags = " ∧
    ¬ ∀ comparison ∈ (run {} tagsWithoutValue).conditions.leaves, ∀ shown,
      comparison.operands .permissive = .ok shown →
        ∀ text ∈ shown.texts, Literal.IsOperand text.toList := by
  refine ⟨by decide +kernel, by decide +kernel, ?_⟩
  intro complete
  have leaves : (run {} tagsWithoutValue).conditions.leaves =
      [{ column := "tags", type := .array, value := .scalar (.list []) }] := rfl
  rw [leaves] at complete
  have nothing := complete _ List.mem_cons_self (.single "") rfl "" List.mem_cons_self
  exact nothing.ne_nil rfl

end Query

end QueryComposer
