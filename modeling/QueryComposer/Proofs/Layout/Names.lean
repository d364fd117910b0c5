import QueryComposer.Proofs.JoinPlan.Scope
import QueryComposer.Proofs.Layout.Detached
import QueryComposer.Proofs.Literal.Numerals

set_option autoImplicit false

/-!
Queries in which all names are plain. Whatever such a query writes beside the operands of its
condition is code and no part of a placeholder.
-/

namespace QueryComposer

open QueryComposer.Text

/-! ### Plain names -/

/-- A letter, then letters, digits and underscores. -/
def isPlainName (text : String) : Bool :=
  text.toList.head?.any isAsciiLetter && text.toList.all Literal.continuesName

/-- The names of the table and of its columns are plain. A blank schema or alias is none. -/
structure Table.PlainNames (table : Table) : Prop where
  schema : isBlankText table.schema = true ∨ isPlainName table.schema = true
  name : isPlainName table.name = true
  aliasName : ∀ text ∈ table.shownAlias?, isPlainName text = true
  columns : ∀ column ∈ table.columns, isPlainName column.name = true

/-- The names of all tables are plain, and so are those of the columns that the query refers to. -/
structure Query.PlainNames (query : Query) : Prop where
  tables : ∀ table ∈ query.tables, table.PlainNames
  joins : ∀ join ∈ query.joins, ∀ column ∈ join.leftColumn.toList ++ join.rightColumn.toList,
    isPlainName column = true
  conditions : ∀ comparison ∈ query.conditions.leaves, isPlainName comparison.column = true
  groupBy : ∀ column ∈ query.groupBy, isPlainName column.name = true
  orderBy : ∀ entry ∈ query.orderBy, isPlainName entry.column.name = true

instance (table : Table) : Decidable table.PlainNames :=
  decidable_of_iff
    ((isBlankText table.schema = true ∨ isPlainName table.schema = true) ∧
      isPlainName table.name = true ∧ (∀ text ∈ table.shownAlias?, isPlainName text = true) ∧
      ∀ column ∈ table.columns, isPlainName column.name = true)
    ⟨fun ⟨schema, name, aliasName, columns⟩ => ⟨schema, name, aliasName, columns⟩,
      fun ⟨schema, name, aliasName, columns⟩ => ⟨schema, name, aliasName, columns⟩⟩

instance (query : Query) : Decidable query.PlainNames :=
  decidable_of_iff
    ((∀ table ∈ query.tables, table.PlainNames) ∧
      (∀ join ∈ query.joins, ∀ column ∈ join.leftColumn.toList ++ join.rightColumn.toList,
        isPlainName column = true) ∧
      (∀ comparison ∈ query.conditions.leaves, isPlainName comparison.column = true) ∧
      (∀ column ∈ query.groupBy, isPlainName column.name = true) ∧
      ∀ entry ∈ query.orderBy, isPlainName entry.column.name = true)
    ⟨fun ⟨tables, joins, conditions, groupBy, orderBy⟩ =>
        ⟨tables, joins, conditions, groupBy, orderBy⟩,
      fun ⟨tables, joins, conditions, groupBy, orderBy⟩ =>
        ⟨tables, joins, conditions, groupBy, orderBy⟩⟩

/-! ### Code -/

/-- The whole text is code. -/
def isCodeText (text : String) : Bool :=
  text.toList.all Layout.isCode

theorem isCodeText_append (first second : String) :
    isCodeText (first ++ second) = (isCodeText first && isCodeText second) := by
  rw [isCodeText, String.toList_append, List.all_append]
  rfl

theorem isCodeText_join {separator : String} {pieces : List String}
    (code : isCodeText separator = true) (all : ∀ piece ∈ pieces, isCodeText piece = true) :
    isCodeText (join separator pieces) = true := by
  rw [isCodeText, join, String.toList_intercalate, List.all_eq_true]
  induction pieces with
  | nil => simp
  | cons first pieces inner =>
    have others := inner (fun piece member => all piece (List.mem_cons_of_mem first member))
    have start := List.all_eq_true.mp (all first List.mem_cons_self)
    cases pieces with
    | nil => simpa using start
    | cons second pieces =>
      rw [List.map_cons, List.map_cons, List.intercalate_cons_cons]
      intro c member
      rcases List.mem_append.mp member with member | later
      · rcases List.mem_append.mp member with here | between
        · exact start c here
        · exact List.all_eq_true.mp code c between
      · exact others c later

theorem isCode_of_bare {c : Char} (bare : Literal.isBare c = true) : Layout.isCode c = true := by
  rw [Layout.isCode, bare, Bool.true_or]

theorem isCodeText_of_isPlainName {text : String} (plain : isPlainName text = true) :
    isCodeText text = true := by
  rw [isPlainName, Bool.and_eq_true] at plain
  exact Literal.all_mono
    (fun c continues => isCode_of_bare (Literal.isBare_of_test (by decide) continues)) plain.2

theorem isCodeText_toString (number : Nat) : isCodeText (toString number) = true := by
  have digits : (toString number).toList = Number.toDigits number := by
    change (Nat.repr number).toList = _
    rw [Nat.repr_eq_ofList_toDigits, String.toList_ofList]
    rfl
  rw [isCodeText, digits]
  exact Literal.all_mono (fun c bare => isCode_of_bare bare) (Literal.toDigits_bare number)

namespace Table

variable {table : Table}

theorem PlainNames.qualifier (plain : table.PlainNames) : isCodeText table.qualifier = true := by
  unfold Table.qualifier
  cases shown : table.shownAlias? with
  | none => exact isCodeText_of_isPlainName plain.name
  | some text => exact isCodeText_of_isPlainName (plain.aliasName text shown)

theorem PlainNames.qualify (plain : table.PlainNames) {column : String}
    (plainColumn : isPlainName column = true) : isCodeText (table.qualify column) = true := by
  have point : isCodeText "." = true := by decide
  rw [Table.qualify, isCodeText_append, isCodeText_append, plain.qualifier, point,
    isCodeText_of_isPlainName plainColumn]
  rfl

theorem PlainNames.qualifiedName (plain : table.PlainNames) :
    isCodeText table.qualifiedName = true := by
  have name := isCodeText_of_isPlainName plain.name
  unfold Table.qualifiedName
  split
  · exact name
  · rename_i present
    have point : isCodeText "." = true := by decide
    have schema := isCodeText_of_isPlainName (plain.schema.resolve_left present)
    rw [isCodeText_append, isCodeText_append, schema, point, name]
    rfl

theorem PlainNames.reference (plain : table.PlainNames) : isCodeText table.reference = true := by
  unfold Table.reference
  cases shown : table.shownAlias? with
  | none => exact plain.qualifiedName
  | some text =>
    have between : isCodeText " AS " = true := by decide
    have aliasName := isCodeText_of_isPlainName (plain.aliasName text shown)
    rw [isCodeText_append, isCodeText_append, plain.qualifiedName, between, aliasName]
    rfl

end Table

/-! ### What a query writes beside its condition -/

namespace Query.PlainNames

variable {query : Query}

theorem select (plain : query.PlainNames) :
    isCodeText (Statement.selectText query.selectedItems) = true := by
  unfold Statement.selectText
  split
  · decide
  · have start : isCodeText "SELECT " = true := by decide
    rw [isCodeText_append, start, Bool.true_and]
    refine isCodeText_join (by decide) ?_
    intro piece member
    obtain ⟨item, listed, rfl⟩ := List.mem_map.mp member
    obtain ⟨table, given, inTable⟩ := List.mem_flatMap.mp listed
    obtain ⟨column, chosen, rfl⟩ := List.mem_map.mp inTable
    have known := plain.tables table given
    have qualified := known.qualify (known.columns column (List.mem_filter.mp chosen).1)
    unfold SelectItem.text SelectItem.qualified
    cases column.aggregate with
    | none => exact qualified
    | some aggregate =>
      have word : isCodeText aggregate.keyword = true := by cases aggregate <;> decide
      have opening : isCodeText "(" = true := by decide
      have closing : isCodeText ")" = true := by decide
      simp only [isCodeText_append, word, opening, closing, qualified, Bool.and_self]

theorem predicate (plain : query.PlainNames) {settings : CompilerSettings} {join : AcceptedJoin}
    (member : join ∈ (query.acceptedJoins settings).joins) :
    isCodeText join.predicate = true := by
  obtain ⟨given, listed, _, taken⟩ := AcceptedJoins.mem_ofJoins member
  obtain ⟨among, left, right⟩ := Join.accept_eq_ok taken
  have columns := plain.joins given listed
  rw [left, right] at columns
  have leftSide := (plain.tables join.left among.1).qualify (columns join.leftColumn (by simp))
  have rightSide := (plain.tables join.right among.2).qualify (columns join.rightColumn (by simp))
  have between : isCodeText " = " = true := by decide
  rw [AcceptedJoin.predicate, isCodeText_append, isCodeText_append, leftSide, between, rightSide]
  rfl

theorem joinClause (plain : query.PlainNames) {settings : CompilerSettings} {clause : JoinClause}
    (member : clause ∈ query.joinClauses settings) : isCodeText clause.text = true := by
  have introduced := (plain.tables clause.table (table_mem_of_mem_joinClauses member)).reference
  have held (join : AcceptedJoin) (inside : join ∈ clause.predicates) :=
    plain.predicate (predicate_mem_of_mem_joinClauses member inside)
  cases clause with
  | on kind table predicates =>
    have word : isCodeText kind.keyword = true := by cases kind <;> decide
    have blank : isCodeText " " = true := by decide
    have on : isCodeText " ON " = true := by decide
    have conditions :
        isCodeText (Text.join " AND " (predicates.map AcceptedJoin.predicate)) = true := by
      refine isCodeText_join (by decide) ?_
      intro piece inside
      obtain ⟨join, listed, rfl⟩ := List.mem_map.mp inside
      exact held join listed
    have reference : isCodeText table.reference = true := introduced
    simp only [JoinClause.text, isCodeText_append, word, blank, on, reference, conditions,
      Bool.and_self]
  | cross table =>
    have start : isCodeText "CROSS JOIN " = true := by decide
    rw [JoinClause.text, isCodeText_append, start, Bool.true_and]
    exact introduced

theorem clauseColumn (plain : query.PlainNames) {clause : ColumnClause} {column : ColumnRef}
    (plainColumn : isPlainName column.name = true) {text : String}
    (written : query.clauseColumn clause column = .ok text) : isCodeText text = true := by
  unfold Query.clauseColumn at written
  split at written
  · rename_i table found
    cases written
    exact (plain.tables table (resolveTable?_mem found)).qualify plainColumn
  · contradiction

end Query.PlainNames

namespace Statement

/-- The lines before the condition. -/
def head (statement : Statement) : List String :=
  (selectText statement.selected ++ " FROM " ++ statement.first.reference) ::
    statement.joins.map JoinClause.text

/-- The lines after the condition. -/
def tail (statement : Statement) : List String :=
  columnsLine .groupBy statement.groupBy ++
    columnsLine .orderBy (statement.orderBy.map (fun (column, direction) =>
      column ++ " " ++ direction.keyword)) ++
    pagingLines statement.limit statement.offset

theorem lines_eq (statement : Statement) :
    statement.lines =
      statement.head ++
        (statement.condition.map (fun tokens => "WHERE " ++ WherePart.text tokens)).toList ++
        statement.tail := by
  simp [lines, head, tail]

theorem isCodeText_of_mem_columnsLine {clause : ColumnClause} {columns : List String}
    (code : ∀ column ∈ columns, isCodeText column = true) {line : String}
    (member : line ∈ columnsLine clause columns) : isCodeText line = true := by
  unfold columnsLine at member
  split at member
  · contradiction
  · have word : isCodeText clause.keyword = true := by cases clause <;> decide
    have blank : isCodeText " " = true := by decide
    rw [List.mem_singleton.mp member, isCodeText_append, isCodeText_append, word, blank,
      isCodeText_join (by decide) code]
    rfl

theorem isCodeText_of_mem_pagingLines {limit offset : Option UInt64} {line : String}
    (member : line ∈ pagingLines limit offset) : isCodeText line = true := by
  have counted (word : String) (code : isCodeText word = true) (number : Nat) :
      isCodeText (word ++ toString number) = true := by
    rw [isCodeText_append, code, isCodeText_toString]
    rfl
  cases limit with
  | none => contradiction
  | some rows =>
    rcases List.mem_cons.mp member with rfl | skipping
    · exact counted "LIMIT " (by decide) rows.toNat
    · obtain ⟨skipped, _, rfl⟩ := List.mem_map.mp skipping
      exact counted "OFFSET " (by decide) skipped.toNat

end Statement

theorem Query.mem_successes_iff {α ε : Type} {results : List (Except ε α)} {value : α} :
    value ∈ successes results ↔ .ok value ∈ results := by
  rw [successes, List.mem_filterMap]
  constructor
  · rintro ⟨result, listed, same⟩
    cases result with
    | error cause => contradiction
    | ok found =>
      cases same
      exact listed
  · exact fun listed => ⟨.ok value, listed, rfl⟩

namespace Query.PlainNames

variable {query : Query}

theorem statement_head (plain : query.PlainNames) (settings : CompilerSettings) {first : Table}
    (start : first ∈ query.tables) {line : String}
    (member : line ∈ (query.statement settings first).head) : isCodeText line = true := by
  rcases List.mem_cons.mp member with rfl | joined
  · have between : isCodeText " FROM " = true := by decide
    have select :
        isCodeText (Statement.selectText (query.statement settings first).selected) = true :=
      plain.select
    have reference : isCodeText (query.statement settings first).first.reference = true :=
      (plain.tables first start).reference
    rw [isCodeText_append, isCodeText_append, select, between, reference]
    rfl
  · obtain ⟨clause, listed, rfl⟩ := List.mem_map.mp joined
    exact plain.joinClause listed

theorem groupByColumns (plain : query.PlainNames) {text : String}
    (member : text ∈ successes query.groupByColumns) : isCodeText text = true := by
  obtain ⟨column, given, written⟩ := List.mem_map.mp (mem_successes_iff.mp member)
  exact plain.clauseColumn (plain.groupBy column given) written

theorem orderByColumns (plain : query.PlainNames) {text : String} {direction : SortDirection}
    (member : (text, direction) ∈ successes query.orderByColumns) : isCodeText text = true := by
  obtain ⟨entry, given, written⟩ := List.mem_map.mp (mem_successes_iff.mp member)
  cases found : query.clauseColumn .orderBy entry.column with
  | error fault =>
    rw [found] at written
    contradiction
  | ok column =>
    rw [found] at written
    cases written
    exact plain.clauseColumn (plain.orderBy entry given) found

theorem statement_tail (plain : query.PlainNames) (settings : CompilerSettings) (first : Table)
    {line : String} (member : line ∈ (query.statement settings first).tail) :
    isCodeText line = true := by
  rcases List.mem_append.mp member with sorted | paged
  · rcases List.mem_append.mp sorted with grouped | ordered
    · exact Statement.isCodeText_of_mem_columnsLine (fun text => plain.groupByColumns) grouped
    · refine Statement.isCodeText_of_mem_columnsLine ?_ ordered
      intro text listed
      obtain ⟨⟨column, direction⟩, given, rfl⟩ := List.mem_map.mp listed
      have word : isCodeText direction.keyword = true := by cases direction <;> decide
      have blank : isCodeText " " = true := by decide
      rw [isCodeText_append, isCodeText_append, plain.orderByColumns given, blank, word]
      rfl
  · exact Statement.isCodeText_of_mem_pagingLines paged

end Query.PlainNames

end QueryComposer
