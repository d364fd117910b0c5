import QueryComposer.Parameter.Binder
import QueryComposer.Proofs.Layout.Operands
import QueryComposer.Proofs.Number.Digits
import QueryComposer.Proofs.Text.Split

set_option autoImplicit false

/-!
Values in the place of references. Where a comparison refers to parameters by whole texts only, its
layout with the literals of values filled in is its text with the values themselves filled in.
-/

namespace QueryComposer

open QueryComposer.Text

/-! ### Texts between commas -/

namespace Literal

theorem isBlank_continuesName {c : Char} (continues : continuesName c = true) :
    isBlank c = false := by
  simp only [continuesName, startsName, isAsciiLetter, Bool.or_eq_true, Bool.and_eq_true,
    decide_eq_true_eq] at continues
  rcases continues with ((⟨low, high⟩ | ⟨low, high⟩) | rfl) | digit
  · have low : 97 ≤ c.toNat := low
    have high : c.toNat ≤ 122 := high
    simp only [isBlank, blankRanges, inRanges]
    simp
    omega
  · have low : 65 ≤ c.toNat := low
    have high : c.toNat ≤ 90 := high
    simp only [isBlank, blankRanges, inRanges]
    simp
    omega
  · decide
  · exact Number.isBlank_asciiDigit digit

theorem visible_of_isReference {text : String} (named : isReference text = true) :
    ∀ c ∈ text.toList, isBlank c = false ∧ c ≠ ',' := by
  obtain ⟨name, same, isName⟩ := isReference_split named
  intro c member
  rw [same] at member
  rcases List.mem_cons.mp member with rfl | inside
  · exact ⟨by decide, by decide⟩
  · have continues := List.all_eq_true.mp (Layout.continuesName_of_isName isName) c inside
    refine ⟨isBlank_continuesName continues, ?_⟩
    rintro rfl
    contradiction

end Literal

theorem Literal.split_of_isReference {text : String} (named : isReference text = true) :
    split ',' text = [text] := by
  have absent : ',' ∉ text.toList := fun member => (visible_of_isReference named ',' member).2 rfl
  rw [split, splitChars_of_not_mem absent, List.map_singleton, String.ofList_toList]

/-- A reference by itself is one piece of text. -/
theorem Comparison.textPieces_of_isReference {text : String}
    (named : Literal.isReference text = true) : textPieces text = [text] := by
  have visible := Literal.visible_of_isReference named
  have whole := Literal.split_of_isReference named
  have trimmed : trim text = text := by
    rw [trim, trimChars_of_visible (fun c member => (visible c member).1), String.ofList_toList]
  have present : text ≠ "" := by
    rintro rfl
    contradiction
  simp [textPieces, whole, trimmed, present]

/-! ### Filling in values -/

/-- There is a value under each of the names, and it is filled in. -/
def ParameterValues.Supply (values : ParameterValues) (names : List String) : Prop :=
  ∀ name ∈ names, ∃ given, values.get? name = some given ∧ given.isEmpty = false

namespace Literal

/-- The literal of the value under a name. -/
def ofName (policy : LiteralPolicy) (values : ParameterValues) (name : String) : String :=
  ofValue policy ((values.get? name).getD .null)

/-- The value under the name that the text refers to; the text itself where there is none. -/
def fillText (values : ParameterValues) (text : String) : Value :=
  ((textNames text).head?.bind values.get?).getD (.string text)

end Literal

namespace Value

mutual

/-- The value with other values in the place of texts that refer to them. -/
def fill (values : ParameterValues) : Value → Value
  | .string text => Literal.fillText values text
  | .list items => .list (fillEach values items)
  | value => value

def fillEach (values : ParameterValues) : List Value → List Value
  | [] => []
  | item :: items => fill values item :: fillEach values items

end

mutual

theorem fill_of_names_eq_nil (values : ParameterValues) {value : Value}
    (plain : value.parameterNames = []) : value.fill values = value := by
  cases value with
  | string text =>
    have none : Literal.textNames text = [] := plain
    rw [fill, Literal.fillText, none]
    rfl
  | list items =>
    rw [fill, fillEach_of_names_eq_nil values plain]
  | _ => rfl

theorem fillEach_of_names_eq_nil (values : ParameterValues) {items : List Value}
    (plain : parameterNamesOf items = []) : fillEach values items = items := by
  cases items with
  | nil => rfl
  | cons item items =>
    rw [parameterNamesOf, List.append_eq_nil_iff] at plain
    rw [fillEach, fill_of_names_eq_nil values plain.1, fillEach_of_names_eq_nil values plain.2]

end

/-- The value refers to parameters only as a whole. -/
def refersWhole : Value → Bool
  | .string _ => true
  | value => value.parameterNames.isEmpty

theorem fillEach_eq_map (values : ParameterValues) (items : List Value) :
    fillEach values items = items.map (fill values) := by
  induction items with
  | nil => rfl
  | cons item items inner => rw [fillEach, inner, List.map_cons]

theorem fillEach_eq_self {values : ParameterValues} {items : List Value}
    (same : ∀ item ∈ items, item.fill values = item) : fillEach values items = items := by
  rw [fillEach_eq_map]
  exact (List.map_congr_left same).trans (List.map_id items)

variable {values : ParameterValues} {value : Value}

theorem names_plain {text : String} (plain : Literal.isReference text = false) :
    (Value.string text).parameterNames = [] := by
  rw [parameterNames, Literal.textNames, plain]
  rfl

/-- A value that refers as a whole is one without references, or a text that is one. -/
theorem refersWhole_cases (whole : value.refersWhole = true) :
    value.parameterNames = [] ∨
      ∃ text, value = .string text ∧ Literal.isReference text = true := by
  cases value with
  | string text =>
    cases named : Literal.isReference text with
    | true => exact .inr ⟨text, rfl, named⟩
    | false => exact .inl (names_plain named)
  | _ => exact .inl (List.isEmpty_iff.mp whole)

theorem mem_names_reference {text : String} (named : Literal.isReference text = true) :
    String.ofList text.toList.tail ∈ (Value.string text).parameterNames := by
  rw [parameterNames, Literal.textNames, if_pos named]
  exact List.mem_cons_self

theorem fill_reference {text : String} (named : Literal.isReference text = true) {given : Value}
    (known : values.get? (String.ofList text.toList.tail) = some given) :
    (Value.string text).fill values = given := by
  rw [fill, Literal.fillText, Literal.textNames, if_pos named]
  simp [known]

theorem filled_layout (policy : LiteralPolicy) (whole : value.refersWhole = true)
    (supplied : values.Supply value.parameterNames) :
    Layout.filled (Literal.ofName policy values) (value.layout policy) =
      (Literal.ofValue policy (value.fill values)).toList := by
  rcases refersWhole_cases whole with plain | ⟨text, rfl, named⟩
  · rw [fill_of_names_eq_nil values plain, ← chars_layout]
    exact Layout.filled_of_names_eq_nil _ (by rw [names_layout, plain])
  · obtain ⟨given, found, _⟩ := supplied _ (mem_names_reference named)
    rw [fill_reference named found, layout, Literal.textLayout, if_pos named,
      Layout.filled_reference, Literal.ofName, found]
    exact List.append_nil _

theorem isEmpty_fill (whole : value.refersWhole = true)
    (supplied : values.Supply value.parameterNames) (filled : value.isEmpty = false) :
    (value.fill values).isEmpty = false := by
  rcases refersWhole_cases whole with plain | ⟨text, rfl, named⟩
  · rw [fill_of_names_eq_nil values plain, filled]
  · obtain ⟨given, found, present⟩ := supplied _ (mem_names_reference named)
    rw [fill_reference named found, present]

end Value

/-! ### Comparisons -/

/-- The value of a comparison with other values in the place of texts that refer to them. -/
def ConditionValue.fill (values : ParameterValues) : ConditionValue → ConditionValue
  | .none => .none
  | .scalar value => .scalar (value.fill values)
  | .list items => .list (Value.fillEach values items)
  | .range low high => .range (low.fill values) (high.fill values)

namespace Comparison

def fill (values : ParameterValues) (comparison : Comparison) : Comparison :=
  { comparison with value := comparison.value.fill values }

/-- The comparison is written with references only where each is a single value or a bound as a
whole. -/
def refersWhole (comparison : Comparison) : Bool :=
  match comparison.operator.arity, comparison.value with
  | .single, .scalar value => value.refersWhole
  | .range, .range low high => low.refersWhole && high.refersWhole
  | _, _ => comparison.parameterNames.isEmpty

variable {values : ParameterValues} {policy : LiteralPolicy} {comparison : Comparison}

theorem refersWhole_cases (whole : comparison.refersWhole = true) :
    comparison.parameterNames = [] ∨
      (∃ value, comparison.operator.arity = .single ∧ comparison.value = .scalar value ∧
        value.refersWhole = true) ∨
      ∃ low high, comparison.operator.arity = .range ∧ comparison.value = .range low high ∧
        low.refersWhole = true ∧ high.refersWhole = true := by
  unfold refersWhole at whole
  split at whole
  · rename_i value arity held
    exact .inr (.inl ⟨value, arity, held, whole⟩)
  · rename_i low high arity held
    exact .inr (.inr ⟨low, high, arity, held, Bool.and_eq_true_iff.mp whole⟩)
  · exact .inl (List.isEmpty_iff.mp whole)

theorem fill_of_itemNames_eq_nil (values : ParameterValues) {value : Value}
    (plain : itemNames value = []) : value.fill values = value := by
  cases value with
  | string text =>
    cases named : Literal.isReference text with
    | true =>
      -- A reference by itself would be an item, and the items have no names.
      rw [itemNames, textPieces_of_isReference named, List.flatMap_singleton, Literal.textNames,
        if_pos named] at plain
      contradiction
    | false => exact Value.fill_of_names_eq_nil values (Value.names_plain named)
  | null => rfl
  | _ => exact Value.fill_of_names_eq_nil values plain

/-- Values without references for a list stay as they are. -/
theorem listValues_fill (values : ParameterValues) {value : ConditionValue}
    (plain : (listValues value).flatMap itemNames = []) :
    listValues (value.fill values) = listValues value := by
  have each : ∀ item ∈ listValues value, item.fill values = item := fun item member =>
    fill_of_itemNames_eq_nil values (List.flatMap_eq_nil_iff.mp plain item member)
  cases value with
  | none => rfl
  | scalar value =>
    cases value with
    | list items => exact Value.fillEach_eq_self each
    | string text =>
      have same := each (.string text) List.mem_cons_self
      rw [ConditionValue.fill, same]
    | _ => rfl
  | list items => exact Value.fillEach_eq_self each
  | range low high => rfl

theorem pairOf?_eq_some {items : List Value} {low high : Value}
    (pair : pairOf? items = some (low, high)) : items = [low, high] := by
  unfold pairOf? at pair
  split at pair
  · cases pair
    rfl
  · contradiction

/-- Bounds without references stay as they are. -/
theorem rangeValues?_fill (values : ParameterValues) {value : ConditionValue} {low high : Value}
    (held : rangeValues? value = some (low, high)) (plainLow : low.parameterNames = [])
    (plainHigh : high.parameterNames = []) :
    rangeValues? (value.fill values) = some (low, high) := by
  have pair {items : List Value} (held : pairOf? items = some (low, high)) :
      pairOf? (Value.fillEach values items) = some (low, high) := by
    rw [pairOf?_eq_some held, Value.fillEach, Value.fillEach, Value.fillEach,
      Value.fill_of_names_eq_nil values plainLow, Value.fill_of_names_eq_nil values plainHigh]
    rfl
  cases value with
  | none => contradiction
  | scalar value =>
    cases value with
    | list items => exact pair held
    | string text =>
      cases named : Literal.isReference text with
      | true =>
        -- A reference has no comma in it, so it does not hold two bounds.
        rw [rangeValues?, Literal.split_of_isReference named] at held
        contradiction
      | false =>
        rw [ConditionValue.fill, Value.fill_of_names_eq_nil values (Value.names_plain named), held]
    | _ => contradiction
  | list items => exact pair held
  | range first second =>
    cases held
    rw [ConditionValue.fill, Value.fill_of_names_eq_nil values plainLow,
      Value.fill_of_names_eq_nil values plainHigh]
    rfl

/-- The operands of a comparison without references stay as they are. -/
theorem operands_fill_of_names_eq_nil (values : ParameterValues)
    (plain : comparison.parameterNames = []) {shown : Operands}
    (written : comparison.operands policy = .ok shown) :
    (comparison.fill values).operands policy = .ok shown := by
  have operator : (comparison.fill values).operator = comparison.operator := rfl
  unfold parameterNames at plain
  cases arity : comparison.operator.arity with
  | none =>
    rw [operands_none arity] at written
    rw [← operator] at arity
    rw [operands_none arity, written]
  | single =>
    obtain ⟨value, held, same⟩ := (operands_single_iff arity).mp written
    simp only [arity, held] at plain
    rw [← operator] at arity
    refine (operands_single_iff arity).mpr ⟨value, ?_, same⟩
    rw [fill, held, ConditionValue.fill, Value.fill_of_names_eq_nil values plain]
  | list =>
    obtain ⟨nonempty, same⟩ := (operands_list_iff arity).mp written
    simp only [arity] at plain
    have items : listItems policy (comparison.fill values).value =
        listItems policy comparison.value := by
      rw [listItems, listItems, fill, listValues_fill values plain]
    rw [← operator] at arity
    rw [operands_list_iff arity, items]
    exact ⟨nonempty, same⟩
  | range =>
    obtain ⟨low, high, held, lowFilled, highFilled, same⟩ := (operands_range_iff arity).mp written
    simp only [arity, held, List.append_eq_nil_iff] at plain
    rw [← operator] at arity
    exact (operands_range_iff arity).mpr
      ⟨low, high, rangeValues?_fill values held plain.1 plain.2, lowFilled, highFilled, same⟩

/-- A comparison that refers to parameters by whole texts is still written with their values filled
in, and its text is its layout with their literals filled in. -/
theorem filled_layoutFrom {tables : List Table} {atom : Atom}
    (whole : comparison.refersWhole = true)
    (supplied : values.Supply comparison.parameterNames)
    (written : comparison.atom tables policy = .ok atom) :
    ∃ filled, (comparison.fill values).atom tables policy = .ok filled ∧
      Layout.filled (Literal.ofName policy values)
          (comparison.layoutFrom policy (atom.column ++ " " ++ atom.operator.symbol).toList) =
        filled.text.toList := by
  obtain ⟨bound, column, operator, operands⟩ := atom_eq_ok_iff.mp written
  have kept {shown : Operands} (made : (comparison.fill values).operands policy = .ok shown) :
      (comparison.fill values).atom tables policy = .ok { atom with operands := shown } :=
    atom_eq_ok_iff.mpr ⟨bound, column, operator, made⟩
  rcases refersWhole_cases whole with plain | ⟨value, arity, held, refers⟩ |
    ⟨low, high, arity, held, lowRefers, highRefers⟩
  · refine ⟨_, kept (operands_fill_of_names_eq_nil values plain operands), ?_⟩
    rw [Layout.filled_of_names_eq_nil _ (by rw [names_layoutFrom, plain]), chars_layoutFrom written]
  · have names : comparison.parameterNames = value.parameterNames := by
      simp only [parameterNames, arity, held]
    have made : (comparison.fill values).operands policy =
        .ok (.single (Literal.ofValue policy (value.fill values))) := by
      have same : (comparison.fill values).operator.arity = .single := arity
      refine (operands_single_iff same).mpr ⟨value.fill values, ?_, rfl⟩
      rw [fill, held, ConditionValue.fill]
    refine ⟨_, kept made, ?_⟩
    rw [names] at supplied
    simp [layoutFrom, arity, held, Atom.text, Value.filled_layout policy refers supplied]
  · have names : comparison.parameterNames = low.parameterNames ++ high.parameterNames := by
      simp only [parameterNames, arity, held, rangeValues?]
    rw [names] at supplied
    have lowSupplied : values.Supply low.parameterNames :=
      fun name member => supplied name (List.mem_append_left _ member)
    have highSupplied : values.Supply high.parameterNames :=
      fun name member => supplied name (List.mem_append_right _ member)
    have made : (comparison.fill values).operands policy =
        .ok (.range (Literal.ofValue policy (low.fill values))
          (Literal.ofValue policy (high.fill values))) := by
      obtain ⟨_, _, same, lowFilled, highFilled, _⟩ := (operands_range_iff arity).mp operands
      rw [held] at same
      cases same
      have same : (comparison.fill values).operator.arity = .range := arity
      refine (operands_range_iff same).mpr ⟨low.fill values, high.fill values, ?_,
        Value.isEmpty_fill lowRefers lowSupplied lowFilled,
        Value.isEmpty_fill highRefers highSupplied highFilled, rfl⟩
      rw [fill, held]
      rfl
    refine ⟨_, kept made, ?_⟩
    simp [layoutFrom, arity, held, rangeValues?, Atom.text,
      Value.filled_layout policy lowRefers lowSupplied,
      Value.filled_layout policy highRefers highSupplied]

end Comparison

end QueryComposer
