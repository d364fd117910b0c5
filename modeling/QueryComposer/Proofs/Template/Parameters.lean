import QueryComposer.Proofs.Layout.Statement
import QueryComposer.Proofs.Parameter.Extraction
import QueryComposer.Template.Basic

set_option autoImplicit false

/-!
The parameters of a query's template are the ones that its comparisons refer to.
-/

namespace QueryComposer

open QueryComposer.Text

namespace Template

/-- The parameters of a text are named by its placeholders, in the order of the first ones. -/
theorem names_ofSql (sql : String) :
    (ofSql sql).parameters.map Parameter.name =
      distinctBy id [] ((Placeholder.scan sql).map Placeholder.name) :=
  (Parameter.names_reextract sql []).trans (Parameter.names_extract sql)

theorem ofQuery_of_isValid {query : Query} {settings : CompilerSettings}
    (valid : (query.compile settings).isValid = true) :
    ofQuery query settings = .ok (ofSql (query.compile settings).sql) := by
  rw [ofQuery, CompiledQuery.sql?, if_pos valid]
  rfl

end Template

namespace Query

variable {query : Query}

theorem PlainNames.scan_compile (plain : query.PlainNames) (settings : CompilerSettings) :
    Placeholder.scan (query.compile settings).sql = (query.layout settings).placesFrom 0 := by
  rw [Placeholder.scan, ← chars_layout]
  exact (plain.detached_layout settings).ofMasked_chars

/-- The scan of a query with plain names finds the literals of its comparisons that refer to
parameters, where the query writes them, and nothing else; the parameters of its template have their
names. -/
theorem template_parameters_are_references (query : Query) (settings : CompilerSettings)
    (plain : query.PlainNames) (valid : (query.compile settings).isValid = true) :
    Template.ofQuery query settings = .ok (.ofSql (query.compile settings).sql) ∧
    Layout.chars (query.layout settings) = (query.compile settings).sql.toList ∧
    Placeholder.scan (query.compile settings).sql = (query.layout settings).placesFrom 0 ∧
    (Placeholder.scan (query.compile settings).sql).map
        (fun placeholder => (placeholder.kind, placeholder.name)) =
      (query.conditions.leaves.flatMap Comparison.parameterNames).map (fun name => (.named, name)) ∧
    (query.conditions.leaves.flatMap (Comparison.literals settings.literalPolicy)).filter
        Literal.isReference =
      (query.conditions.leaves.flatMap Comparison.parameterNames).map (fun name => ":" ++ name) ∧
    (Template.ofSql (query.compile settings).sql).parameters.map Parameter.name =
      distinctBy id [] (query.conditions.leaves.flatMap Comparison.parameterNames) := by
  have scanned := plain.scan_compile settings
  have names : (Placeholder.scan (query.compile settings).sql).map Placeholder.name =
      query.conditions.leaves.flatMap Comparison.parameterNames := by
    rw [scanned, Layout.map_name_placesFrom, names_layout valid]
  refine ⟨Template.ofQuery_of_isValid valid, chars_layout query settings, scanned, ?_, ?_, ?_⟩
  · rw [← names, List.map_map]
    apply List.map_congr_left
    intro placeholder member
    rw [scanned] at member
    rw [Layout.named_of_mem_placesFrom member]
    rfl
  · rw [List.filter_flatMap, List.map_flatMap]
    exact List.flatMap_congr
      (fun comparison _ => comparison.filter_literals settings.literalPolicy)
  · rw [Template.names_ofSql, names]

/-! ### A query with texts that look like placeholders -/

private def listing : Table :=
  { id := .uniform 3
    schema := "shop"
    name := "orders"
    aliasName := some "o"
    columns := [{ name := "total", type := .number, selected := true }] }

/-- References as a single value, between commas, in a list and as a bound, beside texts with
colons, question marks, quotes and comment marks. -/
def lookalikes : Query :=
  { tables := [listing]
    conditions :=
      { logic := .or
        members :=
          [ .leaf
              { tableId := some listing.id
                column := "note"
                operator := .equal
                value := .scalar (.string "it's :not, /* ? */ --") },
            .group .and
              [ .leaf
                  { tableId := some listing.id
                    column := "state"
                    operator := .among
                    value := .scalar (.string "new, :state, :x y") },
                .leaf
                  { column := "code"
                    operator := .notAmong
                    value :=
                      .list
                        [ .string ":state", .date ⟨2024, 2, 29, by decide⟩,
                          .list [.string ":low"] ] } ],
            .leaf
              { tableId := some listing.id
                column := "total"
                operator := .between
                value := .range (.string ":low") (.string ":high") } ] } }

theorem lookalikes_parameters :
    lookalikes.PlainNames ∧ (lookalikes.compile {}).isValid = true ∧
    (Template.ofSql (lookalikes.compile {}).sql).parameters.map Parameter.name =
      ["state", "low", "high"] := by
  have plain : lookalikes.PlainNames := by decide +kernel
  have valid : (lookalikes.compile {}).isValid = true := by
    have faultless : (lookalikes.wherePart {}).2 = [] := by
      rw [wherePart, ConditionGroup.wherePart_eq]
      decide +kernel
    refine isValid_iff.mpr ⟨List.cons_ne_nil _ _, ?_⟩
    rw [faults, faultless]
    rfl
  refine ⟨plain, valid, ?_⟩
  rw [(template_parameters_are_references lookalikes {} plain valid).2.2.2.2.2]
  decide +kernel

end Query

end QueryComposer
