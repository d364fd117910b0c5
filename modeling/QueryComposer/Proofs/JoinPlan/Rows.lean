import Mathlib.Data.List.Induction
import QueryComposer.Proofs.JoinPlan.Scope

set_option autoImplicit false

/-!
What the clauses of a query denote over given relations: choices of a row for each table. With inner
and cross joins only, the clauses denote the choices that satisfy all predicates, in whatever clause
a predicate stands, because it stands behind both of its tables.
-/

namespace QueryComposer

/-- Relations for tables: the rows of each, and the values in the columns of a row. A value that is
null is none. -/
structure Relations (Row Value : Type) where
  rows : TableId → List Row
  value? : TableId → Row → String → Option Value

/-- The row that stands for a table, if one does: a table that is not introduced has none, and one
that an outer join fills up with nulls. -/
abbrev RowChoice (Row : Type) := TableId → Option Row

namespace RowChoice

variable {Row : Type}

/-- No row for any table. -/
def empty : RowChoice Row :=
  fun _ => none

/-- The choice with a row for one table. -/
def set (choice : RowChoice Row) (table : TableId) (row : Row) : RowChoice Row :=
  fun id => if id = table then some row else choice id

/-- The choice without a row for one table. -/
def unset (choice : RowChoice Row) (table : TableId) : RowChoice Row :=
  fun id => if id = table then none else choice id

theorem set_self (choice : RowChoice Row) (table : TableId) (row : Row) :
    choice.set table row table = some row :=
  if_pos rfl

theorem set_other (choice : RowChoice Row) {table id : TableId} (row : Row) (other : id ≠ table) :
    choice.set table row id = choice id :=
  if_neg other

theorem unset_other (choice : RowChoice Row) {table id : TableId} (other : id ≠ table) :
    choice.unset table id = choice id :=
  if_neg other

theorem set_unset {choice : RowChoice Row} {table : TableId} {row : Row}
    (chosen : choice table = some row) : (choice.unset table).set table row = choice := by
  funext id
  by_cases same : id = table
  · rw [same, set_self, chosen]
  · rw [set_other _ _ same, unset_other _ same]

end RowChoice

namespace Relations

variable {Row Value : Type} [DecidableEq Value] (relations : Relations Row Value)

/-! ### Clauses over relations -/

/-- The value in a column of the row that stands for a table. -/
def valueIn? (choice : RowChoice Row) (table : TableId) (column : String) : Option Value :=
  (choice table).bind (fun row => relations.value? table row column)

/-- The two values that the join compares are there and are equal; null is equal to nothing. -/
def satisfies (choice : RowChoice Row) (join : AcceptedJoin) : Bool :=
  match relations.valueIn? choice join.left.id join.leftColumn,
    relations.valueIn? choice join.right.id join.rightColumn with
  | some left, some right => left = right
  | _, _ => false

/-- The choice with every row of the table. -/
def extensions (table : Table) (choice : RowChoice Row) : List (RowChoice Row) :=
  (relations.rows table.id).map (choice.set table.id)

/-- The choice with every row of the table under which all predicates are satisfied. -/
def matching (table : Table) (predicates : List AcceptedJoin) (choice : RowChoice Row) :
    List (RowChoice Row) :=
  (relations.extensions table choice).filter (fun extended =>
    predicates.all (relations.satisfies extended))

/-- The rows of the table that match none of the choices, each alone. -/
def unmatched (table : Table) (predicates : List AcceptedJoin) (choices : List (RowChoice Row)) :
    List (RowChoice Row) :=
  ((relations.rows table.id).filter (fun row =>
    choices.all (fun choice =>
      !predicates.all (relations.satisfies (choice.set table.id row))))).map
        (RowChoice.empty.set table.id)

/-- What a clause makes of the choices before it. An outer join keeps what matches nothing on its
left side, its right side or both. -/
def afterClause (choices : List (RowChoice Row)) : JoinClause → List (RowChoice Row)
  | .cross table => choices.flatMap (relations.extensions table)
  | .on kind table predicates =>
    let matched := choices.flatMap (relations.matching table predicates)
    let left := choices.filter (fun choice =>
      (relations.matching table predicates choice).isEmpty)
    let right := relations.unmatched table predicates choices
    match kind with
    | .inner => matched
    | .left => matched ++ left
    | .right => matched ++ right
    | .full => matched ++ left ++ right

/-- What the first table and the clauses after it denote, taken from left to right. -/
def meaning (first : Table) (clauses : List JoinClause) : List (RowChoice Row) :=
  clauses.foldl relations.afterClause (relations.extensions first RowChoice.empty)

/-- The choice has a row for each of the tables, no other, and satisfies all of the joins. -/
structure Selects (tables : List Table) (joins : List AcceptedJoin) (choice : RowChoice Row) :
    Prop where
  chosen : ∀ table ∈ tables, ∃ row ∈ relations.rows table.id, choice table.id = some row
  others : ∀ id, id ∉ tables.map Table.id → choice id = none
  satisfied : ∀ join ∈ joins, relations.satisfies choice join = true

end Relations

/-! ### Inner and cross joins -/

namespace JoinClause

/-- The clause joins neither side with nulls. -/
def IsInner : JoinClause → Prop
  | .on kind _ _ => kind = .inner
  | .cross _ => True

end JoinClause

/-- Every predicate is about tables that the first table, an earlier clause or its own clause
introduces. -/
def PredicatesScoped (first : Table) (clauses : List JoinClause) : Prop :=
  ∀ before clause after, clauses = before ++ clause :: after →
    ∀ join ∈ clause.predicates,
      join.left.id ∈ (first :: (before ++ [clause]).map JoinClause.table).map Table.id ∧
        join.right.id ∈ (first :: (before ++ [clause]).map JoinClause.table).map Table.id

theorem PredicatesScoped.init {first : Table} {clauses : List JoinClause} {last : JoinClause}
    (placed : PredicatesScoped first (clauses ++ [last])) : PredicatesScoped first clauses := by
  rintro before clause after rfl join member
  exact placed before clause (after ++ [last]) (by simp) join member

theorem PredicatesScoped.known {first : Table} {clauses : List JoinClause}
    (placed : PredicatesScoped first clauses) {join : AcceptedJoin}
    (member : join ∈ clauses.flatMap JoinClause.predicates) :
    join.left.id ∈ (first :: clauses.map JoinClause.table).map Table.id ∧
      join.right.id ∈ (first :: clauses.map JoinClause.table).map Table.id := by
  obtain ⟨clause, listed, held⟩ := List.mem_flatMap.mp member
  obtain ⟨before, after, rfl⟩ := List.append_of_mem listed
  have early : ((first :: (before ++ [clause]).map JoinClause.table).map Table.id) ⊆
      (first :: (before ++ clause :: after).map JoinClause.table).map Table.id := by
    apply List.map_subset
    apply List.cons_subset_cons
    apply List.map_subset
    simp
  obtain ⟨left, right⟩ := placed before clause after rfl join held
  exact ⟨early left, early right⟩

namespace Relations

variable {Row Value : Type} [DecidableEq Value] {relations : Relations Row Value}

theorem satisfies_congr {choice other : RowChoice Row} {join : AcceptedJoin}
    (left : choice join.left.id = other join.left.id)
    (right : choice join.right.id = other join.right.id) :
    relations.satisfies choice join = relations.satisfies other join := by
  unfold satisfies valueIn?
  rw [left, right]

omit [DecidableEq Value] in
theorem mem_extensions_iff {table : Table} {choice extended : RowChoice Row} :
    extended ∈ relations.extensions table choice ↔
      ∃ row ∈ relations.rows table.id, extended = choice.set table.id row := by
  simp only [extensions, List.mem_map, eq_comm]

/-- An inner or a cross join extends each choice by every row under which its predicates hold. -/
theorem mem_afterClause_iff {choices : List (RowChoice Row)} {clause : JoinClause}
    (inner : clause.IsInner) {choice : RowChoice Row} :
    choice ∈ relations.afterClause choices clause ↔
      ∃ earlier ∈ choices, ∃ row ∈ relations.rows clause.table.id,
        choice = earlier.set clause.table.id row ∧
          ∀ join ∈ clause.predicates, relations.satisfies choice join = true := by
  cases clause with
  | cross table =>
    simp only [afterClause, List.mem_flatMap, mem_extensions_iff, JoinClause.table,
      JoinClause.predicates, List.not_mem_nil, false_implies, implies_true, and_true]
  | on kind table predicates =>
    obtain rfl : kind = .inner := inner
    simp only [afterClause, matching, List.mem_flatMap, List.mem_filter, mem_extensions_iff,
      List.all_eq_true, JoinClause.table, JoinClause.predicates]
    constructor
    · rintro ⟨earlier, listed, ⟨row, present, extended⟩, satisfied⟩
      exact ⟨earlier, listed, row, present, extended, satisfied⟩
    · rintro ⟨earlier, listed, row, present, extended, satisfied⟩
      exact ⟨earlier, listed, ⟨row, present, extended⟩, satisfied⟩

/-- A row for a new table does not touch what is known of the others. -/
theorem selects_set_iff {tables : List Table} {joins : List AcceptedJoin} {table : Table}
    (new : table.id ∉ tables.map Table.id)
    (known : ∀ join ∈ joins,
      join.left.id ∈ tables.map Table.id ∧ join.right.id ∈ tables.map Table.id)
    {choice : RowChoice Row} :
    relations.Selects (tables ++ [table]) joins choice ↔
      ∃ earlier, relations.Selects tables joins earlier ∧
        ∃ row ∈ relations.rows table.id, choice = earlier.set table.id row := by
  have apart {id : TableId} (member : id ∈ tables.map Table.id) : id ≠ table.id :=
    fun same => new (same ▸ member)
  constructor
  · rintro ⟨chosen, others, satisfied⟩
    obtain ⟨row, present, here⟩ := chosen table (by simp)
    refine ⟨choice.unset table.id, ⟨?_, ?_, ?_⟩, row, present, (RowChoice.set_unset here).symm⟩
    · intro other member
      rw [RowChoice.unset_other _ (apart (List.mem_map_of_mem member))]
      exact chosen other (List.mem_append_left _ member)
    · intro id missing
      by_cases same : id = table.id
      · exact if_pos same
      · rw [RowChoice.unset_other _ same]
        apply others
        simpa [same] using missing
    · intro join member
      obtain ⟨left, right⟩ := known join member
      rw [satisfies_congr (RowChoice.unset_other _ (apart left))
        (RowChoice.unset_other _ (apart right))]
      exact satisfied join member
  · rintro ⟨earlier, ⟨chosen, others, satisfied⟩, row, present, rfl⟩
    refine ⟨?_, ?_, ?_⟩
    · intro other member
      rcases List.mem_append.mp member with old | last
      · rw [RowChoice.set_other _ _ (apart (List.mem_map_of_mem old))]
        exact chosen other old
      · cases List.mem_singleton.mp last
        exact ⟨row, present, RowChoice.set_self _ _ _⟩
    · intro id missing
      rw [List.map_append, List.mem_append, not_or] at missing
      have different : id ≠ table.id := by simpa using missing.2
      rw [RowChoice.set_other _ _ different]
      exact others id missing.1
    · intro join member
      obtain ⟨left, right⟩ := known join member
      rw [satisfies_congr (RowChoice.set_other _ _ (apart left))
        (RowChoice.set_other _ _ (apart right))]
      exact satisfied join member

theorem selects_append_iff {tables : List Table} {joins further : List AcceptedJoin}
    {choice : RowChoice Row} :
    relations.Selects tables (joins ++ further) choice ↔
      relations.Selects tables joins choice ∧
        ∀ join ∈ further, relations.satisfies choice join = true := by
  constructor
  · rintro ⟨chosen, others, satisfied⟩
    exact ⟨⟨chosen, others, fun join member => satisfied join (List.mem_append_left _ member)⟩,
      fun join member => satisfied join (List.mem_append_right _ member)⟩
  · rintro ⟨⟨chosen, others, satisfied⟩, more⟩
    refine ⟨chosen, others, ?_⟩
    intro join member
    rcases List.mem_append.mp member with old | new
    · exact satisfied join old
    · exact more join new

theorem mem_extensions_empty_iff {first : Table} {choice : RowChoice Row} :
    choice ∈ relations.extensions first RowChoice.empty ↔
      relations.Selects [first] [] choice := by
  have nothing {earlier : RowChoice Row} :
      relations.Selects [] [] earlier ↔ earlier = RowChoice.empty := by
    constructor
    · intro selects
      funext id
      exact selects.others id List.not_mem_nil
    · rintro rfl
      exact ⟨by simp, fun _ _ => rfl, by simp⟩
  rw [mem_extensions_iff, ← List.nil_append [first],
    selects_set_iff (List.not_mem_nil) (fun _ member => absurd member List.not_mem_nil)]
  simp only [nothing, exists_eq_left]

/-- Clauses that join nothing with nulls denote the choices of a row for each table that satisfy all
predicates. -/
theorem mem_meaning_iff {first : Table} {clauses : List JoinClause}
    (distinct : ((first :: clauses.map JoinClause.table).map Table.id).Nodup)
    (placed : PredicatesScoped first clauses) (inner : ∀ clause ∈ clauses, clause.IsInner)
    {choice : RowChoice Row} :
    choice ∈ relations.meaning first clauses ↔
      relations.Selects (first :: clauses.map JoinClause.table)
        (clauses.flatMap JoinClause.predicates) choice := by
  induction clauses using List.reverseRecOn generalizing choice with
  | nil => exact mem_extensions_empty_iff
  | append_singleton clauses last induct =>
    have tables : first :: (clauses ++ [last]).map JoinClause.table =
        (first :: clauses.map JoinClause.table) ++ [last.table] := by simp
    have new : last.table.id ∉ (first :: clauses.map JoinClause.table).map Table.id := by
      rw [tables, List.map_append] at distinct
      intro member
      exact List.disjoint_of_nodup_append distinct member (by simp)
    have earlierDistinct : ((first :: clauses.map JoinClause.table).map Table.id).Nodup := by
      rw [tables, List.map_append] at distinct
      exact distinct.of_append_left
    have earlierInner : ∀ clause ∈ clauses, clause.IsInner :=
      fun clause member => inner clause (List.mem_append_left _ member)
    have earlier {choice : RowChoice Row} : choice ∈ relations.meaning first clauses ↔
        relations.Selects (first :: clauses.map JoinClause.table)
          (clauses.flatMap JoinClause.predicates) choice :=
      induct earlierDistinct placed.init earlierInner
    rw [meaning, List.foldl_append, List.foldl_cons, List.foldl_nil, ← meaning,
      mem_afterClause_iff (inner last (by simp)), tables, List.flatMap_append,
      List.flatMap_singleton, selects_append_iff, selects_set_iff new (fun _ => placed.init.known)]
    simp only [earlier]
    constructor
    · rintro ⟨before, selects, row, present, extended, satisfied⟩
      exact ⟨⟨before, selects, row, present, extended⟩, satisfied⟩
    · rintro ⟨⟨before, selects, row, present, extended⟩, satisfied⟩
      exact ⟨before, selects, row, present, extended, satisfied⟩

end Relations

end QueryComposer
