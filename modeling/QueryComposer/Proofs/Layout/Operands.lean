import QueryComposer.Proofs.Layout.Detached
import QueryComposer.Proofs.Literal.Values
import QueryComposer.Proofs.Where.Pieces

set_option autoImplicit false

/-!
The layouts of values and comparisons. A text that names a parameter is a reference, wherever a
value or a comparison writes it by itself; everything else stands for itself.
-/

namespace QueryComposer

open QueryComposer.Text

/-! ### Values -/

namespace Literal

def textLayout (policy : LiteralPolicy) (text : String) : Layout :=
  if isReference text then [.reference text.toList.tail] else [.text (ofText policy text).toList]

/-- The name that a text refers to, if it refers to one. -/
def textNames (text : String) : List String :=
  if isReference text then [String.ofList text.toList.tail] else []

theorem isReference_split {text : String} (named : isReference text = true) :
    ∃ name, text.toList = ':' :: name ∧ isName name = true := by
  unfold isReference isReferenceChars at named
  split at named
  · rename_i name same
    exact ⟨name, same, named⟩
  · contradiction

theorem ofText_reference {text : String} (policy : LiteralPolicy)
    (named : isReference text = true) : ofText policy text = text := by
  have chars : isReferenceChars text.toList = true := named
  rw [ofText, textChars, if_pos chars, String.ofList_toList]

theorem isReference_of_selfContained {text : String}
    (contained : selfContained false text.toList = true) : isReference text = false := by
  unfold isReference
  cases chars : text.toList with
  | nil => rfl
  | cons c rest =>
    by_cases colon : c = ':'
    · subst colon
      rw [chars] at contained
      simp [selfContained, isBare] at contained
    · simp [isReferenceChars, colon]

/-- A text is written as a reference only when it is one. -/
theorem filter_ofText (policy : LiteralPolicy) (text : String) :
    [ofText policy text].filter isReference = (textNames text).map (fun name => ":" ++ name) := by
  unfold textNames
  split
  · rename_i named
    obtain ⟨name, same, _⟩ := isReference_split named
    have whole : text = ":" ++ String.ofList name := by
      rw [← String.toList_inj, same]
      simp
    rw [ofText_reference policy named, List.filter_cons_of_pos named, same]
    exact congrArg (fun shown => [shown]) whole
  · rename_i plain
    have contained := selfContained_ofText policy (Bool.not_eq_true _ ▸ plain)
    exact List.filter_cons_of_neg (by simp [isReference_of_selfContained contained])

theorem chars_textLayout (policy : LiteralPolicy) (text : String) :
    Layout.chars (textLayout policy text) = (ofText policy text).toList := by
  unfold textLayout
  split
  · rename_i named
    obtain ⟨name, same, _⟩ := isReference_split named
    rw [ofText_reference policy named, same]
    simp [Layout.chars, Fragment.chars]
  · simp [Layout.chars, Fragment.chars]

theorem names_textLayout (policy : LiteralPolicy) (text : String) :
    Layout.names (textLayout policy text) = textNames text := by
  unfold textLayout textNames
  split <;> rfl

theorem detached_textLayout (policy : LiteralPolicy) (text : String) :
    Layout.Detached (textLayout policy text) := by
  unfold textLayout
  split
  · rename_i named
    obtain ⟨name, same, isName⟩ := isReference_split named
    rw [same]
    exact .reference isName
  · rename_i plain
    exact .text (settled_of_selfContained (selfContained_ofText policy (by simpa using plain)))

end Literal

namespace Value

mutual

def layout (policy : LiteralPolicy) : Value → Layout
  | .string text => Literal.textLayout policy text
  | .list items => [.text ", ".toList].intercalate (layouts policy items)
  | value => [.text (Literal.ofValue policy value).toList]

def layouts (policy : LiteralPolicy) : List Value → List Layout
  | [] => []
  | item :: items => layout policy item :: layouts policy items

end

mutual

/-- The names that the value refers to: that of a text by itself, and those of the items of a list
one after the other. -/
def parameterNames : Value → List String
  | .string text => Literal.textNames text
  | .list items => parameterNamesOf items
  | _ => []

def parameterNamesOf : List Value → List String
  | [] => []
  | item :: items => parameterNames item ++ parameterNamesOf items

end

mutual

/-- The literals that the value is written with, the items of a list one after the other. -/
def literals (policy : LiteralPolicy) : Value → List String
  | .list items => literalsOf policy items
  | value => [Literal.ofValue policy value]

def literalsOf (policy : LiteralPolicy) : List Value → List String
  | [] => []
  | item :: items => literals policy item ++ literalsOf policy items

end

mutual

/-- The literals that refer to parameters are those with the names of the value. -/
theorem filter_literals (policy : LiteralPolicy) (value : Value) :
    (value.literals policy).filter Literal.isReference =
      value.parameterNames.map (fun name => ":" ++ name) := by
  have plain (shown : Value) (none : shown.refers = false) :
      [Literal.ofValue policy shown].filter Literal.isReference = [] := by
    have contained := Literal.selfContained_ofValue policy shown none
    exact List.filter_cons_of_neg (by simp [Literal.isReference_of_selfContained contained])
  cases value with
  | null => exact plain .null rfl
  | bool flag => exact plain (.bool flag) rfl
  | int number => exact plain (.int number) rfl
  | float number => exact plain (.float number) rfl
  | string text => exact Literal.filter_ofText policy text
  | date day => exact plain (.date day) rfl
  | moment time => exact plain (.moment time) rfl
  | list items => exact filter_literalsOf policy items

theorem filter_literalsOf (policy : LiteralPolicy) (items : List Value) :
    (literalsOf policy items).filter Literal.isReference =
      (parameterNamesOf items).map (fun name => ":" ++ name) := by
  cases items with
  | nil => rfl
  | cons item items =>
    rw [literalsOf, parameterNamesOf, List.filter_append, List.map_append,
      filter_literals policy item, filter_literalsOf policy items]

end

mutual

theorem chars_layout (policy : LiteralPolicy) (value : Value) :
    Layout.chars (value.layout policy) = (Literal.ofValue policy value).toList := by
  cases value with
  | string text => exact Literal.chars_textLayout policy text
  | list items =>
    rw [layout, Layout.chars, flatMap_intercalate, Literal.ofValue, join,
      String.toList_intercalate, ← chars_layouts policy items]
    rfl
  | _ => simp [layout, Layout.chars, Fragment.chars]

theorem chars_layouts (policy : LiteralPolicy) (items : List Value) :
    (layouts policy items).map Layout.chars =
      (Literal.ofValues policy items).map String.toList := by
  cases items with
  | nil => rfl
  | cons item items =>
    rw [layouts, List.map_cons, chars_layout policy item, chars_layouts policy items]
    rfl

end

mutual

theorem names_layout (policy : LiteralPolicy) (value : Value) :
    Layout.names (value.layout policy) = value.parameterNames := by
  cases value with
  | string text => exact Literal.names_textLayout policy text
  | list items =>
    have separator : Layout.names [.text ", ".toList] = [] := rfl
    rw [layout, Layout.names, flatMap_intercalate, ← Layout.names, separator,
      intercalate_nil_separator, parameterNames, ← names_layouts policy items]
    rfl
  | _ => rfl

theorem names_layouts (policy : LiteralPolicy) (items : List Value) :
    ((layouts policy items).map Layout.names).flatten = parameterNamesOf items := by
  cases items with
  | nil => rfl
  | cons item items =>
    rw [layouts, List.map_cons, List.flatten_cons, names_layout policy item,
      names_layouts policy items]
    rfl

end

mutual

theorem detached_layout (policy : LiteralPolicy) (value : Value) :
    Layout.Detached (value.layout policy) := by
  have plain (shown : Value) (none : shown.refers = false) :
      Layout.Detached [.text (Literal.ofValue policy shown).toList] :=
    .text (Literal.settled_of_selfContained (Literal.selfContained_ofValue policy shown none))
  cases value with
  | null => exact plain .null rfl
  | bool flag => exact plain (.bool flag) rfl
  | int number => exact plain (.int number) rfl
  | float number => exact plain (.float number) rfl
  | string text => exact Literal.detached_textLayout policy text
  | date day => exact plain (.date day) rfl
  | moment time => exact plain (.moment time) rfl
  | list items => exact .intercalate (by decide) (detached_layouts policy items)

theorem detached_layouts (policy : LiteralPolicy) (items : List Value) :
    ∀ part ∈ layouts policy items, Layout.Detached part := by
  cases items with
  | nil =>
    intro part member
    contradiction
  | cons item items =>
    intro part member
    rcases List.mem_cons.mp member with rfl | later
    · exact detached_layout policy item
    · exact detached_layouts policy items part later

end

end Value

/-! ### Comparisons -/

namespace Comparison

/-- The pieces of a text between commas that are not blank. -/
def textPieces (text : String) : List String :=
  ((split ',' text).map trim).filter (fun piece => piece ≠ "")

/-- The layouts of the literals that a value adds to a list. -/
def itemLayouts (policy : LiteralPolicy) : Value → List Layout
  | .string text => (textPieces text).map (Literal.textLayout policy)
  | .null => []
  | value => [value.layout policy]

/-- The names that a value adds to a list. -/
def itemNames : Value → List String
  | .string text => (textPieces text).flatMap Literal.textNames
  | .null => []
  | value => value.parameterNames

/-- The names that the operands of the comparison refer to, from left to right. -/
def parameterNames (comparison : Comparison) : List String :=
  match comparison.operator.arity with
  | .none => []
  | .single =>
    match comparison.value with
    | .scalar value => value.parameterNames
    | _ => []
  | .list => (listValues comparison.value).flatMap itemNames
  | .range =>
    match rangeValues? comparison.value with
    | some (low, high) => low.parameterNames ++ high.parameterNames
    | none => []

/-- The literals that a value adds to a list, the items of a list in it one after the other. -/
def itemLiterals (policy : LiteralPolicy) : Value → List String
  | .string text => textItems policy text
  | .null => []
  | value => value.literals policy

/-- The literals that the comparison is written with, from left to right. -/
def literals (policy : LiteralPolicy) (comparison : Comparison) : List String :=
  match comparison.operator.arity with
  | .none => []
  | .single =>
    match comparison.value with
    | .scalar value => value.literals policy
    | _ => []
  | .list => (listValues comparison.value).flatMap (itemLiterals policy)
  | .range =>
    match rangeValues? comparison.value with
    | some (low, high) => low.literals policy ++ high.literals policy
    | none => []

theorem filter_itemLiterals (policy : LiteralPolicy) (value : Value) :
    (itemLiterals policy value).filter Literal.isReference =
      (itemNames value).map (fun name => ":" ++ name) := by
  cases value with
  | string text =>
    rw [itemLiterals, itemNames, textItems, ← textPieces]
    induction textPieces text with
    | nil => rfl
    | cons piece pieces inner =>
      rw [List.map_cons, ← List.singleton_append, List.filter_append, inner,
        Literal.filter_ofText, List.flatMap_cons, List.map_append]
  | null => rfl
  | _ => exact Value.filter_literals policy _

/-- The literals that refer to parameters are those with the names of the comparison. -/
theorem filter_literals (policy : LiteralPolicy) (comparison : Comparison) :
    (comparison.literals policy).filter Literal.isReference =
      comparison.parameterNames.map (fun name => ":" ++ name) := by
  unfold literals parameterNames
  cases comparison.operator.arity with
  | none => rfl
  | single =>
    cases comparison.value with
    | scalar value => exact Value.filter_literals policy value
    | _ => rfl
  | list =>
    rw [List.filter_flatMap, List.map_flatMap]
    exact congrArg (fun shown => List.flatMap shown (listValues comparison.value))
      (funext (filter_itemLiterals policy))
  | range =>
    cases rangeValues? comparison.value with
    | none => rfl
    | some bounds => simp [Value.filter_literals]

/-- The layout of a list without its parentheses. -/
def listLayout (policy : LiteralPolicy) (value : ConditionValue) : Layout :=
  [.text ", ".toList].intercalate ((listValues value).flatMap (itemLayouts policy))

/-- The layout of the comparison, given its column and operator as text. -/
def layoutFrom (policy : LiteralPolicy) (start : List Char) (comparison : Comparison) : Layout :=
  match comparison.operator.arity with
  | .none => [.text start]
  | .single =>
    match comparison.value with
    | .scalar value => .text (start ++ " ".toList) :: value.layout policy
    | _ => []
  | .list =>
    .text (start ++ " (".toList) :: (listLayout policy comparison.value ++ [.text ")".toList])
  | .range =>
    match rangeValues? comparison.value with
    | some (low, high) =>
      .text (start ++ " ".toList) ::
        (low.layout policy ++ .text " AND ".toList :: high.layout policy)
    | none => []

theorem chars_itemLayouts (policy : LiteralPolicy) (value : Value) :
    (itemLayouts policy value).map Layout.chars =
      (valueItems policy value).map String.toList := by
  cases value with
  | string text =>
    rw [itemLayouts, valueItems, textItems, List.map_map, List.map_map]
    exact List.map_congr_left (fun piece _ => Literal.chars_textLayout policy piece)
  | null => rfl
  | _ => exact congrArg (fun shown => [shown]) (Value.chars_layout policy _)

theorem names_itemLayouts (policy : LiteralPolicy) (value : Value) :
    ((itemLayouts policy value).map Layout.names).flatten = itemNames value := by
  cases value with
  | string text =>
    rw [itemLayouts, List.map_map, itemNames, List.flatMap_def]
    exact congrArg List.flatten
      (List.map_congr_left (fun piece _ => Literal.names_textLayout policy piece))
  | null => rfl
  | _ => exact (List.flatten_singleton).trans (Value.names_layout policy _)

theorem detached_itemLayouts (policy : LiteralPolicy) (value : Value) :
    ∀ part ∈ itemLayouts policy value, Layout.Detached part := by
  cases value with
  | string text =>
    intro part member
    obtain ⟨piece, _, rfl⟩ := List.mem_map.mp member
    exact Literal.detached_textLayout policy piece
  | null =>
    intro part member
    contradiction
  | _ =>
    intro part member
    rw [List.mem_singleton.mp member]
    exact Value.detached_layout policy _

theorem chars_listLayout (policy : LiteralPolicy) (value : ConditionValue) :
    Layout.chars (listLayout policy value) = (join ", " (listItems policy value)).toList := by
  have items : ((listValues value).flatMap (itemLayouts policy)).map Layout.chars =
      (listItems policy value).map String.toList := by
    rw [listItems, List.map_flatMap, List.map_flatMap]
    exact congrArg (fun shown => List.flatMap shown (listValues value))
      (funext (chars_itemLayouts policy))
  rw [join, String.toList_intercalate, ← items, listLayout, Layout.chars,
    flatMap_intercalate]
  rfl

theorem names_listLayout (policy : LiteralPolicy) (value : ConditionValue) :
    Layout.names (listLayout policy value) = (listValues value).flatMap itemNames := by
  have separator : Layout.names [.text ", ".toList] = [] := rfl
  rw [listLayout, Layout.names, flatMap_intercalate, ← Layout.names, separator,
    intercalate_nil_separator]
  induction listValues value with
  | nil => rfl
  | cons first values inner =>
    rw [List.flatMap_cons, List.map_append, List.flatten_append, inner, List.flatMap_cons,
      ← names_itemLayouts policy first]
    rfl

theorem detached_listLayout (policy : LiteralPolicy) (value : ConditionValue) :
    Layout.Detached (listLayout policy value) := by
  apply Layout.Detached.intercalate (by decide)
  intro part member
  obtain ⟨item, _, listed⟩ := List.mem_flatMap.mp member
  exact detached_itemLayouts policy item part listed

/-! ### Comparisons that are written -/

/-- A comparison that is written has a column, and the operands that its operator takes. -/
theorem atom_eq_ok_iff {tables : List Table} {policy : LiteralPolicy} {comparison : Comparison}
    {atom : Atom} :
    comparison.atom tables policy = .ok atom ↔
      comparison.isBound = true ∧ comparison.columnText tables = .ok atom.column ∧
        atom.operator = comparison.operator ∧ comparison.operands policy = .ok atom.operands := by
  unfold Comparison.atom
  cases comparison.isBound with
  | false => simp
  | true =>
    cases comparison.columnText tables with
    | error fault => simp
    | ok column =>
      cases comparison.operands policy with
      | error fault => simp [Except.map]
      | ok operands =>
        obtain ⟨other, operator, given⟩ := atom
        simp only [Except.map, Bool.not_true, Bool.false_eq_true, if_false, Except.ok.injEq,
          Atom.mk.injEq, true_and]
        constructor
        · rintro ⟨rfl, rfl, rfl⟩
          exact ⟨rfl, rfl, rfl⟩
        · rintro ⟨rfl, rfl, rfl⟩
          exact ⟨rfl, rfl, rfl⟩

theorem operands_none {policy : LiteralPolicy} {comparison : Comparison}
    (arity : comparison.operator.arity = .none) : comparison.operands policy = .ok .none := by
  rw [operands, arity]

theorem operands_single_iff {policy : LiteralPolicy} {comparison : Comparison} {shown : Operands}
    (arity : comparison.operator.arity = .single) :
    comparison.operands policy = .ok shown ↔
      ∃ value, comparison.value = .scalar value ∧
        shown = .single (Literal.ofValue policy value) := by
  rw [operands, arity]
  cases comparison.value with
  | scalar value => simp [eq_comm]
  | _ => simp

theorem operands_list_iff {policy : LiteralPolicy} {comparison : Comparison} {shown : Operands}
    (arity : comparison.operator.arity = .list) :
    comparison.operands policy = .ok shown ↔
      listItems policy comparison.value ≠ [] ∧
        shown = .list (listItems policy comparison.value) := by
  rw [operands, arity]
  cases listItems policy comparison.value with
  | nil => simp
  | cons first items => simp [eq_comm]

theorem operands_range_iff {policy : LiteralPolicy} {comparison : Comparison} {shown : Operands}
    (arity : comparison.operator.arity = .range) :
    comparison.operands policy = .ok shown ↔
      ∃ low high, rangeValues? comparison.value = some (low, high) ∧ low.isEmpty = false ∧
        high.isEmpty = false ∧
        shown = .range (Literal.ofValue policy low) (Literal.ofValue policy high) := by
  rw [operands, arity]
  unfold rangeBounds?
  cases rangeValues? comparison.value with
  | none => simp
  | some bounds =>
    obtain ⟨low, high⟩ := bounds
    by_cases empty : (low.isEmpty || high.isEmpty) = true
    · have missing : ¬ (low.isEmpty = false ∧ high.isEmpty = false) := by
        rw [← Bool.or_eq_false_iff, empty]
        exact Bool.noConfusion
      simp only [empty, if_true]
      constructor
      · intro impossible
        contradiction
      · rintro ⟨_, _, same, lowFilled, highFilled, _⟩
        cases same
        exact absurd ⟨lowFilled, highFilled⟩ missing
    · have filled := Bool.or_eq_false_iff.mp (Bool.not_eq_true _ ▸ empty)
      simp only [empty, Bool.false_eq_true, if_false]
      constructor
      · intro same
        exact ⟨low, high, rfl, filled.1, filled.2, (Except.ok.inj same).symm⟩
      · rintro ⟨_, _, same, _, _, rfl⟩
        cases same
        rfl

/-- A comparison that is written has the characters of its layout. -/
theorem chars_layoutFrom {tables : List Table} {policy : LiteralPolicy} {comparison : Comparison}
    {atom : Atom} (written : comparison.atom tables policy = .ok atom) :
    Layout.chars
        (comparison.layoutFrom policy (atom.column ++ " " ++ atom.operator.symbol).toList) =
      atom.text.toList := by
  obtain ⟨_, _, _, shown⟩ := atom_eq_ok_iff.mp written
  unfold layoutFrom Atom.text
  cases arity : comparison.operator.arity with
  | none =>
    rw [operands_none arity] at shown
    simp [← Except.ok.inj shown]
  | single =>
    obtain ⟨value, held, same⟩ := (operands_single_iff arity).mp shown
    simp [held, same, Value.chars_layout]
  | list =>
    obtain ⟨_, same⟩ := (operands_list_iff arity).mp shown
    simp [same, chars_listLayout]
  | range =>
    obtain ⟨low, high, held, _, _, same⟩ := (operands_range_iff arity).mp shown
    simp [held, same, Value.chars_layout]

theorem names_layoutFrom (policy : LiteralPolicy) (start : List Char) (comparison : Comparison) :
    Layout.names (comparison.layoutFrom policy start) = comparison.parameterNames := by
  unfold layoutFrom parameterNames
  cases comparison.operator.arity with
  | none => rfl
  | single =>
    cases comparison.value with
    | scalar value => exact Value.names_layout policy value
    | _ => rfl
  | list => simp [names_listLayout]
  | range =>
    cases rangeValues? comparison.value with
    | none => rfl
    | some bounds => simp [Value.names_layout]

theorem detached_layoutFrom (policy : LiteralPolicy) {start : List Char}
    (code : start.all Layout.isCode = true) (comparison : Comparison) :
    Layout.Detached (comparison.layoutFrom policy start) := by
  unfold layoutFrom
  cases comparison.operator.arity with
  | none => exact .code code
  | single =>
    cases comparison.value with
    | scalar value => exact .lead code (by decide) (Value.detached_layout policy value)
    | _ => exact .nil
  | list =>
    exact .lead code (by decide)
      (.join (by decide) (detached_listLayout policy comparison.value) .nil)
  | range =>
    cases rangeValues? comparison.value with
    | none => exact .nil
    | some bounds =>
      obtain ⟨low, high⟩ := bounds
      exact .lead code (by decide) (.join (by decide) (Value.detached_layout policy low)
        (Value.detached_layout policy high))

end Comparison

end QueryComposer
