import QueryComposer.Proofs.Where.Reading

set_option autoImplicit false

/-!
The condition line of a compiled query says what the condition of the query says: its comparisons
are those that can be written, in their order, and it reads as the tree does under every truth of
them. There is no such line exactly when no comparison can be written.
-/

namespace QueryComposer

open QueryComposer.Text

variable {tables : List Table} {policy : LiteralPolicy}

/-! ### Comparisons that are written -/

namespace Comparison

/-- The comparison in SQL, unless it lacks something. -/
def atom? (tables : List Table) (policy : LiteralPolicy) (comparison : Comparison) : Option Atom :=
  (comparison.atom tables policy).toOption

/-- The comparison lacks nothing. -/
def isWritten (tables : List Table) (policy : LiteralPolicy) (comparison : Comparison) : Bool :=
  (comparison.atom? tables policy).isSome

end Comparison

theorem Condition.leafPart_eq (comparison : Comparison) :
    (leafPart tables policy comparison).1 =
      (comparison.atom? tables policy).map (fun shown => [.atom shown]) := by
  unfold leafPart Comparison.atom?
  cases comparison.atom tables policy <;> rfl

/-! ### Reading a condition -/

namespace WherePart

open Condition

mutual

/-- The part of a condition is read as an operand with the condition's truth. -/
theorem readsPart_part (truth : Nat → Bool) (next : Nat) (condition : Condition) :
    ReadsPart truth next
      (next + condition.writtenCount (Comparison.isWritten tables policy))
      (part tables policy condition).1
      (condition.holds? (Comparison.isWritten tables policy) truth next) := by
  cases condition with
  | leaf comparison =>
    rw [part, leafPart_eq, Condition.holds?, writtenCount, leaves]
    unfold Comparison.isWritten
    cases written : comparison.atom? tables policy with
    | none => simpa [written] using .nothing next
    | some shown => simpa [written] using .operand (reads_atom truth next shown)
  | group logic members =>
    rw [part, Condition.holds?, writtenCount, leaves]
    exact readsPart_combine logic (readsEach_parts truth next members)

theorem readsEach_parts (truth : Nat → Bool) (next : Nat) (members : List Condition) :
    ReadsEach truth next
      (next + ((leavesOf members).filter (Comparison.isWritten tables policy)).length)
      ((parts tables policy members).1.filterMap id)
      ((holdsEach (Comparison.isWritten tables policy) truth next members).filterMap id) := by
  cases members with
  | nil => exact .nil next
  | cons member members =>
    have first := readsPart_part truth next member
    have others := readsEach_parts truth
      (next + member.writtenCount (Comparison.isWritten tables policy)) members
    rw [parts, holdsEach, leavesOf, List.filter_append, List.length_append, ← Nat.add_assoc]
    exact first.cons others

end

end WherePart

/-! ### What is written of a condition -/

namespace WherePart

theorem atoms_append (first second : List WhereToken) :
    atoms (first ++ second) = atoms first ++ atoms second :=
  List.filterMap_append

theorem atoms_connect (logic : Logic) (parts : List (List WhereToken)) :
    atoms (connect logic parts) = parts.flatMap atoms := by
  induction parts with
  | nil => rfl
  | cons first parts inner =>
    cases parts with
    | nil => rw [connect, List.flatMap_singleton]
    | cons second parts =>
      rw [connect_cons_cons, atoms_append, List.flatMap_cons, ← inner]
      rfl

theorem atoms_combine (logic : Logic) (nested : Bool) (parts : List WherePart) :
    (combine logic nested parts).toList.flatMap atoms = (parts.filterMap id).flatMap atoms := by
  unfold combine
  generalize parts.filterMap id = written
  split
  · rfl
  · rfl
  · split
    · rw [Option.toList_some, List.flatMap_singleton, ← List.singleton_append, atoms_append,
        atoms_append, atoms_connect]
      simp [atoms]
    · rw [Option.toList_some, List.flatMap_singleton, atoms_connect]

theorem combine_eq_none_iff (logic : Logic) (nested : Bool) (parts : List WherePart) :
    combine logic nested parts = none ↔ parts.filterMap id = [] := by
  unfold combine
  split
  · rename_i none
    exact iff_of_true rfl none
  · rename_i alone
    rw [alone]
    simp
  · rename_i several _
    constructor
    · intro absent
      split at absent <;> contradiction
    · intro none
      contradiction

end WherePart

namespace Condition

open WherePart

mutual

/-- The comparisons in the part of a condition are those of its own that can be written. -/
theorem atoms_part (condition : Condition) :
    (part tables policy condition).1.toList.flatMap atoms =
      condition.leaves.filterMap (Comparison.atom? tables policy) := by
  cases condition with
  | leaf comparison =>
    rw [part, leafPart_eq, leaves]
    cases written : comparison.atom? tables policy <;> simp [written, atoms]
  | group logic members => rw [part, atoms_combine, leaves, atoms_parts]

theorem atoms_parts (members : List Condition) :
    ((parts tables policy members).1.filterMap id).flatMap atoms =
      (leavesOf members).filterMap (Comparison.atom? tables policy) := by
  cases members with
  | nil => rfl
  | cons member members =>
    rw [parts, leavesOf, List.filterMap_append, ← atoms_part member, ← atoms_parts members]
    cases (part tables policy member).1 <;> simp

end

mutual

/-- Nothing of a condition is written exactly when none of its comparisons can be. -/
theorem part_eq_none_iff (condition : Condition) :
    (part tables policy condition).1 = none ↔
      condition.leaves.filterMap (Comparison.atom? tables policy) = [] := by
  cases condition with
  | leaf comparison =>
    rw [part, leafPart_eq, leaves]
    cases written : comparison.atom? tables policy <;> simp [written]
  | group logic members => rw [part, combine_eq_none_iff, leaves, parts_eq_nil_iff]

theorem parts_eq_nil_iff (members : List Condition) :
    (parts tables policy members).1.filterMap id = [] ↔
      (leavesOf members).filterMap (Comparison.atom? tables policy) = [] := by
  cases members with
  | nil => exact iff_of_true rfl rfl
  | cons member members =>
    rw [parts, leavesOf, List.filterMap_append, List.append_eq_nil_iff, ← part_eq_none_iff member,
      ← parts_eq_nil_iff members]
    cases (part tables policy member).1 <;> simp

end

end Condition

/-! ### The condition line -/

namespace Query

/-- The lines of the compiled query. -/
def lines (query : Query) (settings : CompilerSettings) : List String :=
  match query.tables with
  | [] => []
  | first :: _ => (query.statement settings first).lines

/-- The pieces of the condition, unless there is no statement or nothing to write. -/
def whereTokens? (query : Query) (settings : CompilerSettings) : WherePart :=
  match query.tables with
  | [] => none
  | _ :: _ => (query.wherePart settings).1

end Query

namespace Statement

/-- The line is about a condition. -/
def isConditionLine (line : String) : Bool :=
  startsWith "WHERE ".toList line.toList

theorem isConditionLine_where (rest : String) : isConditionLine ("WHERE " ++ rest) = true := by
  unfold isConditionLine
  rw [String.toList_append]
  rfl

theorem isConditionLine_append {start : String} {c : Char} {more : List Char}
    (starts : start.toList = c :: more) (other : c ≠ 'W') (rest : String) :
    isConditionLine (start ++ rest) = false := by
  unfold isConditionLine startsWith
  rw [String.toList_append, starts, List.cons_append]
  change (dropStart? ('W' :: "HERE ".toList) (c :: (more ++ rest.toList))).isSome = false
  rw [dropStart?, if_neg other.symm]
  rfl

theorem isConditionLine_select (selected : List SelectItem) (rest : String) :
    isConditionLine (selectText selected ++ rest) = false := by
  unfold selectText
  split
  · exact isConditionLine_append rfl (by decide) rest
  · rw [String.append_assoc]
    exact isConditionLine_append rfl (by decide) _

theorem isConditionLine_join (clause : JoinClause) : isConditionLine clause.text = false := by
  cases clause with
  | on kind table predicates =>
    simp only [JoinClause.text, JoinKind.keyword, String.append_assoc]
    cases kind <;> exact isConditionLine_append rfl (by decide) _
  | cross table => exact isConditionLine_append rfl (by decide) _

theorem isConditionLine_columns (clause : ColumnClause) (columns : List String) :
    ∀ line ∈ columnsLine clause columns, isConditionLine line = false := by
  intro line member
  unfold columnsLine at member
  split at member
  · contradiction
  · rw [List.mem_singleton.mp member, String.append_assoc]
    cases clause <;> exact isConditionLine_append rfl (by decide) _

theorem isConditionLine_paging (limit offset : Option UInt64) :
    ∀ line ∈ pagingLines limit offset, isConditionLine line = false := by
  intro line member
  unfold pagingLines at member
  split at member
  · contradiction
  · rcases List.mem_cons.mp member with rfl | skipped
    · exact isConditionLine_append rfl (by decide) _
    · obtain ⟨rows, _, rfl⟩ := List.mem_map.mp skipped
      exact isConditionLine_append rfl (by decide) _

/-- The one line about a condition is that of the statement's condition. -/
theorem filter_isConditionLine (statement : Statement) :
    statement.lines.filter isConditionLine =
      (statement.condition.map (fun tokens => "WHERE " ++ WherePart.text tokens)).toList := by
  have none {lines : List String} (others : ∀ line ∈ lines, isConditionLine line = false) :
      lines.filter isConditionLine = [] :=
    List.filter_eq_nil_iff.mpr (fun line member => by
      rw [others line member]
      exact Bool.noConfusion)
  have joined : ∀ line ∈ statement.joins.map JoinClause.text, isConditionLine line = false := by
    intro line member
    obtain ⟨clause, _, rfl⟩ := List.mem_map.mp member
    exact isConditionLine_join clause
  unfold lines
  rw [List.filter_cons_of_neg (by
    rw [String.append_assoc, isConditionLine_select]
    exact Bool.noConfusion)]
  simp only [List.filter_append]
  rw [none joined, none (isConditionLine_columns _ _), none (isConditionLine_columns _ _),
    none (isConditionLine_paging _ _)]
  cases statement.condition with
  | none => rfl
  | some tokens => simp [isConditionLine_where]

end Statement

namespace Query

theorem compile_sql_eq_join (query : Query) (settings : CompilerSettings) :
    (query.compile settings).sql = join "\n" (query.lines settings) := by
  unfold compile lines
  cases query.tables with
  | nil => rfl
  | cons first others => rfl

theorem filter_lines (query : Query) (settings : CompilerSettings) :
    (query.lines settings).filter Statement.isConditionLine =
      ((query.whereTokens? settings).map
        (fun tokens => "WHERE " ++ WherePart.text tokens)).toList := by
  unfold lines whereTokens?
  cases query.tables with
  | nil => rfl
  | cons first others => exact Statement.filter_isConditionLine _

theorem whereTokens?_eq_none_iff (query : Query) (settings : CompilerSettings) :
    query.whereTokens? settings = none ↔
      query.tables = [] ∨ query.conditions.leaves.filterMap
        (Comparison.atom? query.tables settings.literalPolicy) = [] := by
  unfold whereTokens?
  split
  · rename_i none
    exact iff_of_true rfl (Or.inl none)
  · rename_i first others tables
    rw [wherePart, ConditionGroup.wherePart_eq, WherePart.combine_eq_none_iff,
      Condition.parts_eq_nil_iff]
    have present : query.tables ≠ [] := by
      rw [tables]
      exact List.cons_ne_nil first others
    exact (or_iff_right present).symm

/-- The lines of a compiled query have one about a condition, unless no comparison of the query can
be written. It shows the comparisons that can be, from left to right, and reads as the condition of
the query under every truth of them. -/
theorem whereTokens_read_as_conditions (query : Query) (settings : CompilerSettings) :
    (query.compile settings).sql = join "\n" (query.lines settings) ∧
    (query.lines settings).filter Statement.isConditionLine =
      ((query.whereTokens? settings).map
        (fun tokens => "WHERE " ++ WherePart.text tokens)).toList ∧
    (query.whereTokens? settings = none ↔
      query.tables = [] ∨ query.conditions.leaves.filterMap
        (Comparison.atom? query.tables settings.literalPolicy) = []) ∧
    ∀ tokens, query.whereTokens? settings = some tokens →
      WherePart.atoms tokens = query.conditions.leaves.filterMap
        (Comparison.atom? query.tables settings.literalPolicy) ∧
      ∀ truth, ∃ value,
        query.conditions.holds?
          (Comparison.isWritten query.tables settings.literalPolicy) truth = some value ∧
        WherePart.evaluate truth tokens = some value := by
  refine ⟨query.compile_sql_eq_join settings, query.filter_lines settings, ?_, ?_⟩
  · rw [whereTokens?_eq_none_iff]
  · intro tokens written
    have whole : WherePart.combine query.conditions.logic false
        (Condition.parts query.tables settings.literalPolicy query.conditions.members).1 =
          some tokens := by
      unfold whereTokens? at written
      split at written
      · contradiction
      · rw [wherePart, ConditionGroup.wherePart_eq] at written
        exact written
    constructor
    · have shown := WherePart.atoms_combine query.conditions.logic false
        (Condition.parts query.tables settings.literalPolicy query.conditions.members).1
      rw [whole, Option.toList_some, List.flatMap_singleton, Condition.atoms_parts] at shown
      exact shown
    · intro truth
      exact WherePart.evaluate_combine query.conditions.logic
        (WherePart.readsEach_parts truth 0 query.conditions.members) whole

end Query

end QueryComposer
