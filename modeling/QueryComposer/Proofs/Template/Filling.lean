import QueryComposer.Proofs.Layout.Filled
import QueryComposer.Proofs.Template.Apply
import QueryComposer.Proofs.Template.Parameters

set_option autoImplicit false

/-!
Compiling and filling in values commute: to apply the template of a query is to compile the query
with the values in its condition.
-/

namespace QueryComposer

namespace Template

/-- A template with a value under the name of every placeholder has their literals in the place of
the placeholders. -/
theorem apply_of_supplied {template : Template} {values : ParameterValues} (policy : LiteralPolicy)
    (supplied : ∀ placeholder ∈ Placeholder.scan template.sql,
      (values.get? placeholder.name).isSome = true) :
    template.apply values policy =
      .ok (Placeholder.replace ((Placeholder.scan template.sql).map (fun placeholder =>
        (placeholder, Literal.ofName policy values placeholder.name))) template.sql) := by
  have chosen : ∀ placeholder ∈ Placeholder.scan template.sql,
      template.valueFor? values placeholder = some ((values.get? placeholder.name).getD .null) := by
    intro placeholder member
    obtain ⟨value, found⟩ := Option.isSome_iff_exists.mp (supplied placeholder member)
    rw [valueFor?, found]
    rfl
  have whole : template.lastMissing? values = none := by
    rw [lastMissing?_eq_none_iff]
    intro placeholder member
    rw [chosen placeholder member]
    rfl
  have replaced : template.replacements values policy =
      (Placeholder.scan template.sql).map (fun placeholder =>
        (placeholder, Literal.ofName policy values placeholder.name)) := by
    rw [replacements, ← List.filterMap_eq_map]
    apply List.filterMap_congr
    intro placeholder member
    rw [chosen placeholder member]
    rfl
  rw [apply, whole, replaced]

end Template

namespace Query

/-- The query with values in the place of the texts in its condition that refer to them. -/
def fill (values : ParameterValues) (query : Query) : Query :=
  query.setConditions (query.conditions.mapLeaves (Comparison.fill values))

variable {query : Query} {settings : CompilerSettings} {values : ParameterValues}

theorem filled_leaf (valid : (query.compile settings).isValid = true)
    (whole : ∀ comparison ∈ query.conditions.leaves, comparison.refersWhole = true)
    (supplied : values.Supply (query.conditions.leaves.flatMap Comparison.parameterNames))
    {comparison : Comparison} (listed : comparison ∈ query.conditions.leaves) :
    ∃ filled, (comparison.fill values).atom query.tables settings.literalPolicy = .ok filled ∧
      (comparison.layout? query.tables settings.literalPolicy).map
        (Layout.filled (Literal.ofName settings.literalPolicy values)) =
          some filled.text.toList := by
  obtain ⟨atom, written⟩ :=
    query.conditions.faultless_iff.mp (faultless_of_isValid valid) comparison listed
  have known : values.Supply comparison.parameterNames :=
    fun name member => supplied name (List.mem_flatMap.mpr ⟨comparison, listed, member⟩)
  obtain ⟨filled, made, same⟩ :=
    Comparison.filled_layoutFrom (whole comparison listed) known written
  refine ⟨filled, made, ?_⟩
  rw [Comparison.layout?, Comparison.atom?_eq_some_iff.mpr written]
  exact congrArg some same

theorem filled_conditionLayout (valid : (query.compile settings).isValid = true)
    (whole : ∀ comparison ∈ query.conditions.leaves, comparison.refersWhole = true)
    (supplied : values.Supply (query.conditions.leaves.flatMap Comparison.parameterNames)) :
    (query.conditionLayout settings).map
        (Layout.filled (Literal.ofName settings.literalPolicy values)) =
      ((query.conditions.mapLeaves (Comparison.fill values)).wherePart query.tables
        settings.literalPolicy).1.map (List.flatMap WhereToken.chars) := by
  rw [conditionLayout, ConditionGroup.filled_pieces?, ConditionGroup.chars_wherePart,
    ConditionGroup.pieces?_mapLeaves]
  apply ConditionGroup.pieces?_congr
  intro comparison listed
  obtain ⟨filled, made, same⟩ := filled_leaf valid whole supplied listed
  rw [same, Comparison.atom?_eq_some_iff.mpr made]
  rfl

/-- A query that lacks nothing still lacks nothing with the values filled in. -/
theorem isValid_fill (valid : (query.compile settings).isValid = true)
    (whole : ∀ comparison ∈ query.conditions.leaves, comparison.refersWhole = true)
    (supplied : values.Supply (query.conditions.leaves.flatMap Comparison.parameterNames)) :
    ((query.fill values).compile settings).isValid = true := by
  refine isValid_setConditions valid ((ConditionGroup.faultless_iff _).mpr ?_)
  rw [ConditionGroup.leaves_mapLeaves]
  intro comparison member
  obtain ⟨given, listed, rfl⟩ := List.mem_map.mp member
  obtain ⟨filled, made, _⟩ := filled_leaf valid whole supplied listed
  exact ⟨filled, made⟩

/-- Where a query with plain names refers to parameters by whole texts only, and each of them has a
value, applying its template gives the text of the query with the values filled in. -/
theorem compile_fill_eq_apply (query : Query) (settings : CompilerSettings)
    (values : ParameterValues) (plain : query.PlainNames)
    (valid : (query.compile settings).isValid = true)
    (whole : ∀ comparison ∈ query.conditions.leaves, comparison.refersWhole = true)
    (supplied : values.Supply (query.conditions.leaves.flatMap Comparison.parameterNames)) :
    ∃ template, Template.ofQuery query settings = .ok template ∧
      template.apply values settings.literalPolicy =
        .ok ((query.fill values).compile settings).sql ∧
      ((query.fill values).compile settings).isValid = true := by
  -- Both texts are the layout of the query with the literals of the values filled in.
  have scanned := plain.scan_compile settings
  refine ⟨_, Template.ofQuery_of_isValid valid, ?_, isValid_fill valid whole supplied⟩
  rw [Template.apply_of_supplied]
  · have text : (Template.ofSql (query.compile settings).sql).sql.toList =
        Layout.chars (query.layout settings) := (chars_layout query settings).symm
    have places : Placeholder.scan (Template.ofSql (query.compile settings).sql).sql =
        (query.layout settings).placesFrom 0 := scanned
    rw [Placeholder.replace, places, text,
      Layout.replaceFrom_placesFrom _ (plain.detached_layout settings).named,
      filled_layout (filled_conditionLayout valid whole supplied), String.ofList_toList]
    rfl
  · intro placeholder member
    have listed : placeholder.name ∈ query.conditions.leaves.flatMap Comparison.parameterNames := by
      rw [← names_layout valid, ← Layout.map_name_placesFrom 0, ← scanned]
      exact List.mem_map_of_mem member
    obtain ⟨value, found, _⟩ := supplied placeholder.name listed
    rw [found]
    rfl

/-! ### A query with references as a single value and as a bound -/

private def searched : Table :=
  { id := .uniform 5
    name := "orders"
    columns := [{ name := "id", type := .number, selected := true }] }

/-- References under two groups, beside a text with a quote and a colon. -/
def orderSearch : Query :=
  { tables := [searched]
    conditions :=
      { logic := .or
        members :=
          [ .leaf
              { tableId := some searched.id
                column := "note"
                operator := .like
                value := .scalar (.string "%it's :who?%") },
            .group .and
              [ .leaf
                  { tableId := some searched.id
                    column := "customer"
                    operator := .equal
                    value := .scalar (.string ":who") },
                .leaf
                  { column := "total"
                    operator := .notBetween
                    value := .range (.string ":low") (.int 10) } ] ] } }

/-- A text with a quote and a comment mark, and a negative number. -/
def orderAnswers : ParameterValues :=
  [("who", .string "O'Neil -- :low"), ("low", .int (-1))]

theorem orderSearch_fill_eq_apply :
    orderSearch.PlainNames ∧ (orderSearch.compile {}).isValid = true ∧
    (∀ comparison ∈ orderSearch.conditions.leaves, comparison.refersWhole = true) ∧
    orderAnswers.Supply (orderSearch.conditions.leaves.flatMap Comparison.parameterNames) ∧
    ∃ template, Template.ofQuery orderSearch {} = .ok template ∧
      template.apply orderAnswers .permissive =
        .ok ((orderSearch.fill orderAnswers).compile {}).sql ∧
      ((orderSearch.fill orderAnswers).compile {}).isValid = true := by
  have plain : orderSearch.PlainNames := by decide +kernel
  have valid : (orderSearch.compile {}).isValid = true := by
    have faultless : (orderSearch.wherePart {}).2 = [] := by
      rw [wherePart, ConditionGroup.wherePart_eq]
      decide +kernel
    refine isValid_iff.mpr ⟨List.cons_ne_nil _ _, ?_⟩
    rw [faults, faultless]
    rfl
  have whole : ∀ comparison ∈ orderSearch.conditions.leaves, comparison.refersWhole = true := by
    decide +kernel
  have supplied :
      orderAnswers.Supply (orderSearch.conditions.leaves.flatMap Comparison.parameterNames) := by
    have names : orderSearch.conditions.leaves.flatMap Comparison.parameterNames =
        ["who", "low"] := by decide +kernel
    rw [names]
    intro name member
    rcases List.mem_cons.mp member with rfl | member
    · exact ⟨.string "O'Neil -- :low", rfl, by decide +kernel⟩
    · cases List.mem_singleton.mp member
      exact ⟨.int (-1), rfl, rfl⟩
  exact ⟨plain, valid, whole, supplied,
    compile_fill_eq_apply orderSearch {} orderAnswers plain valid whole supplied⟩

end Query

end QueryComposer
