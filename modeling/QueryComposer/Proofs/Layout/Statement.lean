import QueryComposer.Proofs.Layout.Names
import QueryComposer.Proofs.Layout.Operands

set_option autoImplicit false

/-!
The layout of a query: the lines around its condition as code, and the condition with the references
of its comparisons. The scan of a query finds these references, and no others.
-/

namespace QueryComposer

open QueryComposer.Text

/-! ### Conditions -/

theorem Comparison.atom?_eq_some_iff {tables : List Table} {policy : LiteralPolicy}
    {comparison : Comparison} {atom : Atom} :
    comparison.atom? tables policy = some atom ↔ comparison.atom tables policy = .ok atom := by
  unfold atom?
  cases comparison.atom tables policy with
  | error fault => simp [Except.toOption]
  | ok shown => simp [Except.toOption]

def WhereToken.chars (token : WhereToken) : List Char :=
  token.text.toList

theorem WherePart.toList_text (tokens : List WhereToken) :
    (text tokens).toList = tokens.flatMap WhereToken.chars := by
  rw [text, String.toList_join, List.flatMap_map]
  rfl

/-- The layout of a comparison that is written. -/
def Comparison.layout? (tables : List Table) (policy : LiteralPolicy) (comparison : Comparison) :
    Option Layout :=
  (comparison.atom? tables policy).map (fun atom =>
    comparison.layoutFrom policy (atom.column ++ " " ++ atom.operator.symbol).toList)

namespace Layout

/-- The marks of groups as pieces that stand for themselves. -/
def marks : GroupMarks Fragment :=
  { connective := fun logic => [.text (" " ++ logic.keyword ++ " ").toList]
    opening := [.text "(".toList]
    closing := [.text ")".toList] }

theorem marks_filled (fill : String → String) :
    marks.map (Fragment.filled fill) = WherePart.marks.map WhereToken.chars := by
  simp only [GroupMarks.map, marks, WherePart.marks, List.flatMap_cons, List.flatMap_nil,
    List.append_nil]
  rfl

theorem Detached.combine {logic : Logic} {nested : Bool} {parts : List (Option Layout)}
    (detached : ∀ part ∈ parts, ∀ layout ∈ part, Detached layout) {layout : Layout}
    (combined : layout ∈ marks.combine logic nested parts) : Detached layout := by
  have each : ∀ part ∈ parts.filterMap id, Detached part := by
    intro part member
    obtain ⟨found, listed, same⟩ := List.mem_filterMap.mp member
    exact detached found listed part same
  unfold GroupMarks.combine at combined
  cases shown : parts.filterMap id with
  | nil =>
    rw [shown] at combined
    contradiction
  | cons first others =>
    rw [shown] at combined each
    -- A part that is alone gets no marks; the connectives and parentheses are all separators.
    have inner : Detached ((marks.connective logic).intercalate (first :: others)) := by
      apply Detached.intercalate _ each
      cases logic <;> decide
    cases others with
    | nil =>
      cases combined
      exact each layout List.mem_cons_self
    | cons second others =>
      cases nested with
      | false =>
        cases combined
        exact inner
      | true =>
        cases combined
        exact Detached.enclosed (by decide) (by decide) inner

end Layout

namespace Condition

mutual

theorem detached_pieces? {shown : Comparison → Option Layout} (condition : Condition)
    (detached : ∀ comparison ∈ condition.leaves, ∀ layout ∈ shown comparison,
      Layout.Detached layout) :
    ∀ layout ∈ condition.pieces? Layout.marks shown, Layout.Detached layout := by
  cases condition with
  | leaf comparison => exact detached comparison List.mem_cons_self
  | group logic members =>
    intro layout combined
    exact Layout.Detached.combine (detached_piecesEach members detached) combined

theorem detached_piecesEach {shown : Comparison → Option Layout} (members : List Condition)
    (detached : ∀ comparison ∈ leavesOf members, ∀ layout ∈ shown comparison,
      Layout.Detached layout) :
    ∀ part ∈ piecesEach Layout.marks shown members, ∀ layout ∈ part, Layout.Detached layout := by
  cases members with
  | nil =>
    intro part member
    contradiction
  | cons member members =>
    have first := detached_pieces? member
      (fun comparison listed => detached comparison (List.mem_append_left _ listed))
    have others := detached_piecesEach members
      (fun comparison listed => detached comparison (List.mem_append_right _ listed))
    intro part listed
    rcases List.mem_cons.mp listed with rfl | later
    · exact first
    · exact others part later

end

end Condition

namespace ConditionGroup

variable {tables : List Table} {policy : LiteralPolicy}

theorem detached_pieces? {shown : Comparison → Option Layout} (group : ConditionGroup)
    (detached : ∀ comparison ∈ group.leaves, ∀ layout ∈ shown comparison, Layout.Detached layout) :
    ∀ layout ∈ group.pieces? Layout.marks shown, Layout.Detached layout := by
  intro layout combined
  exact .combine (Condition.detached_piecesEach group.members detached) combined

/-- The text of a condition by the texts of its comparisons. -/
theorem chars_wherePart (group : ConditionGroup) :
    (group.wherePart tables policy).1.map (List.flatMap WhereToken.chars) =
      group.pieces? (WherePart.marks.map WhereToken.chars)
        (fun comparison =>
          (comparison.atom? tables policy).map (fun atom => atom.text.toList)) := by
  rw [wherePart_eq_pieces?, map_pieces?]
  apply pieces?_congr
  intro comparison _
  rw [Option.map_map]
  exact congrArg (fun shown => Option.map shown (comparison.atom? tables policy))
    (funext (fun atom => List.append_nil _))

/-- The layout of a condition with its references filled in, by what that makes of the layouts of
its comparisons. -/
theorem filled_pieces? (fill : String → String) (shown : Comparison → Option Layout)
    (group : ConditionGroup) :
    (group.pieces? Layout.marks shown).map (Layout.filled fill) =
      group.pieces? (WherePart.marks.map WhereToken.chars)
        (fun comparison => (shown comparison).map (Layout.filled fill)) := by
  rw [← Layout.marks_filled fill]
  exact map_pieces? (Fragment.filled fill) Layout.marks shown group

end ConditionGroup

/-! ### Queries -/

namespace Layout

theorem chars_eq_filled (layout : Layout) :
    layout.chars = layout.filled (fun name => ":" ++ name) := by
  induction layout with
  | nil => rfl
  | cons fragment rest inner =>
    cases fragment with
    | text shown => rw [chars_text, filled_text, inner]
    | reference name =>
      simp [chars_reference, filled_reference, inner]

/-- The layout of a statement, given the layout of its condition. -/
def ofLines (head tail : List String) (condition : Option Layout) : Layout :=
  [.text "\n".toList].intercalate
    (head.map (fun line => [.text line.toList]) ++
      (condition.map (fun layout => .text "WHERE ".toList :: layout)).toList ++
      tail.map (fun line => [.text line.toList]))

theorem filled_ofLines (fill : String → String) (head tail : List String)
    {condition : Option Layout} {shown : WherePart}
    (same : condition.map (filled fill) = shown.map (List.flatMap WhereToken.chars)) :
    (ofLines head tail condition).filled fill =
      (join "\n"
        (head ++ (shown.map (fun tokens => "WHERE " ++ WherePart.text tokens)).toList ++
          tail)).toList := by
  have plain (lines : List String) :
      (lines.map (fun line => [Fragment.text line.toList])).map (filled fill) =
        lines.map String.toList := by
    rw [List.map_map]
    exact List.map_congr_left (fun line _ => List.append_nil _)
  have between :
      ((condition.map (fun layout => .text "WHERE ".toList :: layout)).toList).map (filled fill) =
        ((shown.map (fun tokens => "WHERE " ++ WherePart.text tokens)).toList).map
          String.toList := by
    cases condition with
    | none =>
      cases shown with
      | none => rfl
      | some tokens => contradiction
    | some layout =>
      cases shown with
      | none => contradiction
      | some tokens =>
        have equal : filled fill layout = (WherePart.text tokens).toList :=
          (Option.some.inj same).trans (WherePart.toList_text tokens).symm
        simp [filled_text, equal]
  have separator : filled fill [.text "\n".toList] = "\n".toList := List.append_nil _
  rw [join, String.toList_intercalate, ofLines, filled, flatMap_intercalate, ← filled, separator]
  simp only [List.map_append]
  exact congrArg _ (congrArg₂ _ (congrArg₂ _ (plain head) between) (plain tail))

theorem names_ofLines (head tail : List String) (condition : Option Layout) :
    names (ofLines head tail condition) = names condition.toList.flatten := by
  have plain (lines : List String) :
      ((lines.map (fun line => [Fragment.text line.toList])).map names).flatten = [] := by
    induction lines with
    | nil => rfl
    | cons line lines inner => exact inner
  have separator : names [.text "\n".toList] = [] := rfl
  rw [ofLines, names, flatMap_intercalate, ← names, separator, intercalate_nil_separator,
    List.map_append, List.map_append, List.flatten_append, List.flatten_append]
  have between :
      (((condition.map (fun layout => .text "WHERE ".toList :: layout)).toList).map
        names).flatten = names condition.toList.flatten := by
    cases condition with
    | none => rfl
    | some layout => simp
  exact (congrArg₂ _ (congrArg₂ _ (plain head) between) (plain tail)).trans (List.append_nil _)

theorem Detached.ofLines {head tail : List String} {condition : Option Layout}
    (above : ∀ line ∈ head, isCodeText line = true) (below : ∀ line ∈ tail, isCodeText line = true)
    (detached : ∀ layout ∈ condition, Detached layout) :
    Detached (ofLines head tail condition) := by
  apply Detached.intercalate (by decide)
  have plain {lines : List String} (code : ∀ line ∈ lines, isCodeText line = true) :
      ∀ part ∈ lines.map (fun line => [Fragment.text line.toList]), Detached part := by
    intro part member
    obtain ⟨line, listed, rfl⟩ := List.mem_map.mp member
    exact .code (code line listed)
  intro part member
  rcases List.mem_append.mp member with member | later
  · rcases List.mem_append.mp member with earlier | between
    · exact plain above part earlier
    · obtain ⟨layout, given, rfl⟩ := Option.map_eq_some_iff.mp (Option.mem_toList.mp between)
      have word : "WHERE".toList.all isCode = true := by decide
      have blank : isSeparator " ".toList = true := by decide
      exact Detached.lead word blank (detached layout given)
  · exact plain below part later

end Layout

namespace Query

variable {query : Query} {settings : CompilerSettings}

def conditionLayout (query : Query) (settings : CompilerSettings) : Option Layout :=
  query.conditions.pieces? Layout.marks
    (Comparison.layout? query.tables settings.literalPolicy)

/-- The layout of the query's statement. -/
def layout (query : Query) (settings : CompilerSettings) : Layout :=
  match query.tables with
  | [] => []
  | first :: _ =>
    let statement := query.statement settings first
    Layout.ofLines statement.head statement.tail (query.conditionLayout settings)

/-- What a query's layout becomes with its references filled in is the query with another condition,
when that holds of the conditions. -/
theorem filled_layout {fill : String → String} {conditions : ConditionGroup}
    (same : (query.conditionLayout settings).map (Layout.filled fill) =
      (conditions.wherePart query.tables settings.literalPolicy).1.map
        (List.flatMap WhereToken.chars)) :
    (query.layout settings).filled fill =
      ((query.setConditions conditions).compile settings).sql.toList := by
  cases tables : query.tables with
  | nil => simp [layout, compile, setConditions, tables, Layout.filled]
  | cons first others =>
    have given : (query.setConditions conditions).tables = first :: others := tables
    have whole : query.layout settings =
        Layout.ofLines (query.statement settings first).head (query.statement settings first).tail
          (query.conditionLayout settings) := by
      rw [layout, tables]
    rw [whole, compile_sql settings given, Statement.text, Statement.lines_eq,
      Layout.filled_ofLines fill _ _ same]
    rfl

theorem chars_conditionLayout :
    (query.conditionLayout settings).map Layout.chars =
      (query.wherePart settings).1.map (List.flatMap WhereToken.chars) := by
  rw [funext Layout.chars_eq_filled, conditionLayout, ConditionGroup.filled_pieces?, wherePart,
    ConditionGroup.chars_wherePart]
  apply ConditionGroup.pieces?_congr
  intro comparison _
  rw [Comparison.layout?, Option.map_map]
  unfold Comparison.atom?
  cases written : comparison.atom query.tables settings.literalPolicy with
  | error fault => rfl
  | ok atom =>
    have chars := Comparison.chars_layoutFrom written
    rw [Layout.chars_eq_filled] at chars
    exact congrArg some chars

/-- The text of a query has the characters of its layout. -/
theorem chars_layout (query : Query) (settings : CompilerSettings) :
    Layout.chars (query.layout settings) = (query.compile settings).sql.toList := by
  have same : (query.conditionLayout settings).map (Layout.filled (fun name => ":" ++ name)) =
      (query.conditions.wherePart query.tables settings.literalPolicy).1.map
        (List.flatMap WhereToken.chars) := by
    rw [← funext Layout.chars_eq_filled]
    exact chars_conditionLayout
  rw [Layout.chars_eq_filled, filled_layout same]
  rfl

theorem PlainNames.atom_start (plain : query.PlainNames) {policy : LiteralPolicy}
    {comparison : Comparison} (listed : comparison ∈ query.conditions.leaves) {atom : Atom}
    (written : comparison.atom? query.tables policy = some atom) :
    isCodeText (atom.column ++ " " ++ atom.operator.symbol) = true := by
  have plainColumn := plain.conditions comparison listed
  have column : isCodeText atom.column = true := by
    obtain ⟨_, found, _⟩ := Comparison.atom_eq_ok_iff.mp (Comparison.atom?_eq_some_iff.mp written)
    unfold Comparison.columnText at found
    split at found
    · rw [← Except.ok.inj found]
      exact isCodeText_of_isPlainName plainColumn
    · split at found
      · contradiction
      · rename_i table known
        rw [← Except.ok.inj found]
        exact (plain.tables table (resolveTable?_mem known)).qualify plainColumn
  have blank : isCodeText " " = true := by decide
  have symbol : isCodeText atom.operator.symbol = true := by cases atom.operator <;> decide
  rw [isCodeText_append, isCodeText_append, column, blank, symbol]
  rfl

/-- Where all names are plain, the layout of a query may be scanned piece by piece. -/
theorem PlainNames.detached_layout (plain : query.PlainNames) (settings : CompilerSettings) :
    Layout.Detached (query.layout settings) := by
  cases tables : query.tables with
  | nil =>
    rw [layout, tables]
    exact .nil
  | cons first others =>
    have start : first ∈ query.tables := by
      rw [tables]
      exact List.mem_cons_self
    rw [layout, tables]
    refine .ofLines (fun line => plain.statement_head settings start)
      (fun line => plain.statement_tail settings first) ?_
    apply ConditionGroup.detached_pieces?
    intro comparison listed shown written
    obtain ⟨atom, made, rfl⟩ := Option.map_eq_some_iff.mp written
    exact Comparison.detached_layoutFrom _ (plain.atom_start listed made) comparison

theorem isValid_iff :
    (query.compile settings).isValid = true ↔ query.tables ≠ [] ∧ query.faults settings = [] := by
  unfold compile
  cases query.tables with
  | nil => simp [CompiledQuery.isValid]
  | cons first others => simp [CompiledQuery.isValid]

theorem faultless_of_isValid (valid : (query.compile settings).isValid = true) :
    (query.wherePart settings).2 = [] := by
  obtain ⟨_, faultless⟩ := isValid_iff.mp valid
  simp only [faults, List.append_eq_nil_iff] at faultless
  exact faultless.1.1.2

/-- A query that lacks nothing lacks nothing with another condition that lacks nothing. -/
theorem isValid_setConditions (valid : (query.compile settings).isValid = true)
    {conditions : ConditionGroup}
    (faultless : (conditions.wherePart query.tables settings.literalPolicy).2 = []) :
    ((query.setConditions conditions).compile settings).isValid = true := by
  obtain ⟨nonempty, before⟩ := isValid_iff.mp valid
  simp only [faults, List.append_eq_nil_iff] at before
  obtain ⟨⟨⟨joins, _⟩, groupBy⟩, orderBy⟩ := before
  refine isValid_iff.mpr ⟨nonempty, ?_⟩
  simp only [faults, List.append_eq_nil_iff]
  exact ⟨⟨⟨joins, faultless⟩, groupBy⟩, orderBy⟩

/-- The references in a query without faults are those of its comparisons. -/
theorem names_layout (valid : (query.compile settings).isValid = true) :
    Layout.names (query.layout settings) =
      query.conditions.leaves.flatMap Comparison.parameterNames := by
  obtain ⟨nonempty, _⟩ := isValid_iff.mp valid
  have faultless := faultless_of_isValid valid
  have whole : Layout.names (query.layout settings) =
      Layout.names (query.conditionLayout settings).toList.flatten := by
    cases tables : query.tables with
    | nil => contradiction
    | cons first others =>
      rw [layout, tables]
      exact Layout.names_ofLines _ _ _
  have flat : Layout.names (query.conditionLayout settings).toList.flatten =
      ((query.conditionLayout settings).map Layout.names).toList.flatten := by
    cases query.conditionLayout settings <;> simp
  have split : (query.conditionLayout settings).map Layout.names =
      query.conditions.pieces? .absent (fun comparison =>
        (comparison.layout? query.tables settings.literalPolicy).map Layout.names) :=
    ConditionGroup.map_pieces? Fragment.names Layout.marks _ query.conditions
  rw [whole, flat, split, ConditionGroup.flatten_pieces?_absent]
  apply List.flatMap_congr
  intro comparison listed
  obtain ⟨atom, written⟩ := query.conditions.faultless_iff.mp faultless comparison listed
  rw [Comparison.layout?, Comparison.atom?_eq_some_iff.mpr written]
  simp [Comparison.names_layoutFrom]

end Query

end QueryComposer
