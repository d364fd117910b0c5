import QueryComposer.Proofs.Change.References
import QueryComposer.Proofs.JoinPlan.Rearranged
import QueryComposer.Proofs.JoinPlan.Scope
import QueryComposer.Proofs.Suggestion.Merge

set_option autoImplicit false

/-!
The columns that joins are chosen by. A column that is chosen by hand is looked up in the table of
its side; one that comes with an answer to a request for suggestions, or in a text that is restored,
is not. Along a run, every chosen column is one of its table's as long as the answers and the texts
bring no other.
-/

namespace QueryComposer

/-! ### One join -/

namespace Join

/-- Every chosen column is one of the side's table, as far as the table is there and lists its
columns. -/
def Fits (tables : List Table) (join : Join) : Prop :=
  ∀ side id column, join.table? side = some id → join.column? side = some column →
    ∀ table, tables.find? (fun table => table.id = id) = some table → table.Admits column

variable {tables : List Table} {join changed : Join}

theorem Fits.withTable (fits : join.Fits tables) (side : JoinSide) (id : TableId) :
    (join.withTable side id).Fits tables := by
  unfold Join.withTable
  split
  · exact fits
  · intro other otherId column chosen held
    cases side with
    | left =>
      cases other with
      | left => contradiction
      | right => exact fits .right otherId column chosen held
    | right =>
      cases other with
      | left => exact fits .left otherId column chosen held
      | right => contradiction

theorem Fits.withColumn (fits : join.Fits tables) (side : JoinSide) {column : Option String}
    (admitted : join.MayChoose tables side column) :
    (join.withColumn column side).Fits tables := by
  have here (id : TableId) (name : String) (chosen : join.table? side = some id)
      (held : column = some name) (table : Table)
      (found : tables.find? (fun table => table.id = id) = some table) : table.Admits name := by
    obtain ⟨_, _, same, there, listed⟩ := admitted name held
    cases same.symm.trans chosen
    cases there.symm.trans found
    exact listed
  intro other id name chosen held
  cases side with
  | left =>
    cases other with
    | left => exact here id name chosen held
    | right => exact fits .right id name chosen held
  | right =>
    cases other with
    | left => exact fits .left id name chosen held
    | right => exact here id name chosen held

/-- What fits is settled by the tables and columns of the sides. -/
theorem Fits.of_same_sides (fits : join.Fits tables)
    (sameTable : ∀ side, changed.table? side = join.table? side)
    (sameColumn : ∀ side, changed.column? side = join.column? side) : changed.Fits tables := by
  intro side id column chosen held
  exact fits side id column ((sameTable side).symm.trans chosen)
    ((sameColumn side).symm.trans held)

theorem Fits.edited (fits : join.Fits tables) (edits : join.Edited tables changed) :
    changed.Fits tables := by
  cases edits with
  | withKind kind =>
    exact fits.of_same_sides (fun side => by cases side <;> rfl) (fun side => by cases side <;> rfl)
  | withTable _ _ => exact fits.withTable _ _
  | withTables _ _ _ => exact (fits.withTable .left _).withTable .right _
  | withColumn admitted => exact fits.withColumn _ admitted
  | withColumns left right => exact (fits.withColumn .left left).withColumn .right right

theorem fits_new (tables : List Table) (id : JoinId) : ({ id } : Join).Fits tables := by
  intro side _ _ chosen
  cases side <;> contradiction

/-- A join fits other tables when each table it names there was one among the tables before that
admits no more. -/
theorem Fits.of_tables {others : List Table} (fits : join.Fits tables)
    (keep : ∀ id table, join.touches id = true →
      others.find? (fun table => table.id = id) = some table →
      ∃ before, tables.find? (fun table => table.id = id) = some before ∧
        table.Resembles before) : join.Fits others := by
  intro side id column chosen held table found
  obtain ⟨before, there, same⟩ :=
    keep id table ((touches_iff_table? join id).mpr ⟨side, chosen⟩) found
  exact same.admits (fits side id column chosen held before there)

/-- The answer to a request was applied: both columns of the join are chosen by it, and the tables
are those of the request. -/
structure FilledBy (join : Join) (request : SuggestionRequest) (left right : String)
    (changed : Join) : Prop where
  tables : ∀ side, changed.table? side = join.table? side
  current : join.endpoints? = some (request.leftTable, request.rightTable)
  left : changed.column? .left = some left
  right : changed.column? .right = some right

/-- An answer stores suggestions at most, unless it is applied. -/
theorem mergeAnswer_cases (join : Join) (request : SuggestionRequest)
    (answer : Except Error (List RelationshipSuggestion)) (settings : SuggestionSettings) :
    ((∀ left right, (join.mergeAnswer request answer settings).1 ≠ .applied left right) ∧
      ∃ suggestions, (join.mergeAnswer request answer settings).2 = { join with suggestions }) ∨
    ∃ left right, (join.mergeAnswer request answer settings).1 = .applied left right ∧
      join.FilledBy request left right (join.mergeAnswer request answer settings).2 := by
  unfold mergeAnswer
  split
  · exact Or.inl ⟨fun _ _ => SuggestionOutcome.noConfusion, join.suggestions, rfl⟩
  · rename_i current
    cases answer with
    | error cause => exact Or.inl ⟨fun _ _ => SuggestionOutcome.noConfusion, [], rfl⟩
    | ok offered =>
      simp only [withSuggestions]
      split
      · exact Or.inl ⟨fun _ _ => SuggestionOutcome.noConfusion, _, rfl⟩
      · split
        · exact Or.inr ⟨_, _, rfl, fun side => by cases side <;> rfl, not_not.mp current, rfl, rfl⟩
        · exact Or.inl ⟨fun _ _ => SuggestionOutcome.noConfusion, _, rfl⟩

theorem endpoints?_eq_some {left right : TableId} (chosen : join.endpoints? = some (left, right)) :
    join.table? .left = some left ∧ join.table? .right = some right := by
  unfold endpoints? at chosen
  split at chosen
  · rename_i leftTable rightTable
    cases chosen
    exact ⟨leftTable, rightTable⟩
  · contradiction

/-- Once an answer is applied, the join fits exactly when its columns are admitted. -/
theorem FilledBy.fits_iff {request : SuggestionRequest} {left right : String}
    (filled : join.FilledBy request left right changed) :
    changed.Fits tables ↔
      (∀ table, tables.find? (fun table => table.id = request.leftTable) = some table →
        table.Admits left) ∧
      ∀ table, tables.find? (fun table => table.id = request.rightTable) = some table →
        table.Admits right := by
  obtain ⟨leftChosen, rightChosen⟩ := endpoints?_eq_some filled.current
  rw [← filled.tables .left] at leftChosen
  rw [← filled.tables .right] at rightChosen
  constructor
  · intro fits
    exact ⟨fits .left _ _ leftChosen filled.left, fits .right _ _ rightChosen filled.right⟩
  · rintro ⟨leftAdmitted, rightAdmitted⟩ side id column chosen held table found
    cases side with
    | left =>
      cases leftChosen.symm.trans chosen
      cases filled.left.symm.trans held
      exact leftAdmitted table found
    | right =>
      cases rightChosen.symm.trans chosen
      cases filled.right.symm.trans held
      exact rightAdmitted table found

/-- An answer keeps a join fitting exactly when the columns it chooses, if any, are admitted. -/
theorem Fits.mergeAnswer_iff (fits : join.Fits tables) (request : SuggestionRequest)
    (answer : Except Error (List RelationshipSuggestion)) (settings : SuggestionSettings) :
    (join.mergeAnswer request answer settings).2.Fits tables ↔
      ∀ left right, (join.mergeAnswer request answer settings).1 = .applied left right →
        (∀ table, tables.find? (fun table => table.id = request.leftTable) = some table →
          table.Admits left) ∧
        ∀ table, tables.find? (fun table => table.id = request.rightTable) = some table →
          table.Admits right := by
  rcases join.mergeAnswer_cases request answer settings with
    ⟨outcome, suggestions, made⟩ | ⟨left, right, outcome, filled⟩
  · rw [made]
    exact iff_of_true
      (fits.of_same_sides (fun side => by cases side <;> rfl) (fun side => by cases side <;> rfl))
      (fun left right applied => absurd applied (outcome left right))
  · rw [filled.fits_iff, outcome]
    constructor
    · rintro admitted _ _ ⟨rfl, rfl⟩
      exact admitted
    · exact fun admitted => admitted left right rfl

end Join

/-! ### Tables by their identity -/

section Find

variable {tables others : List Table} {id : TableId} {table : Table}

/-- Where one table is edited, each table that is found resembles the one found before. -/
theorem find?_of_edited {before after : List Table} {edited found : Table}
    (same : edited.Resembles table)
    (there : (before ++ edited :: after).find? (fun table => table.id = id) = some found) :
    ∃ earlier, (before ++ table :: after).find? (fun table => table.id = id) = some earlier ∧
      found.Resembles earlier := by
  rw [List.find?_append] at there ⊢
  cases sooner : before.find? (fun table => table.id = id) with
  | some first =>
    rw [sooner] at there
    cases there
    exact ⟨found, rfl, .refl found⟩
  | none =>
    rw [sooner, Option.none_or, List.find?_cons] at there
    rw [Option.none_or, List.find?_cons, ← same.id]
    split at there
    · cases there
      exact ⟨table, rfl, same⟩
    · exact ⟨found, there, .refl found⟩

theorem find?_append_of_mem (known : id ∈ tables.map Table.id) (others : List Table) :
    (tables ++ others).find? (fun table => table.id = id) =
      tables.find? (fun table => table.id = id) := by
  obtain ⟨table, member, same⟩ := List.mem_map.mp known
  have present : (tables.find? (fun table => table.id = id)).isSome = true :=
    List.find?_isSome.mpr ⟨table, member, decide_eq_true same⟩
  rw [List.find?_append, Option.or_of_isSome present]

/-- With a table away, another one is found where it was. -/
theorem find?_without {before after : List Table} (other : table.id ≠ id) :
    (before ++ after).find? (fun table => table.id = id) =
      (before ++ table :: after).find? (fun table => table.id = id) := by
  rw [List.find?_append, List.find?_append, List.find?_cons_of_neg (by simpa using other)]

/-- A table is found by its identity when no other table has it. -/
theorem find?_eq_self (distinct : (tables.map Table.id).Nodup) (member : table ∈ tables) :
    tables.find? (fun other => other.id = table.id) = some table := by
  have present : (tables.find? (fun other => other.id = table.id)).isSome = true :=
    List.find?_isSome.mpr ⟨table, member, decide_eq_true rfl⟩
  obtain ⟨other, found⟩ := Option.isSome_iff_exists.mp present
  have same : other.id = table.id := by simpa using List.find?_some found
  rw [found, List.inj_on_of_nodup_map distinct (List.mem_of_find?_eq_some found) member same]

end Find

/-! ### Queries -/

namespace Query

/-- The chosen columns of the joins are columns of their tables, as far as these list any. -/
def ColumnsListed (query : Query) : Prop :=
  ∀ join ∈ query.joins, join.Fits query.tables

variable {query changed : Query}

/-- An answer keeps the columns listed exactly when those it chooses, if any, are. -/
theorem ColumnsListed.applySuggestions_iff (listed : query.ColumnsListed)
    (request : SuggestionRequest) (answer : Except Error (List RelationshipSuggestion))
    (settings : SuggestionSettings) :
    (query.applySuggestions request answer settings).2.ColumnsListed ↔
      ∀ left right, (query.applySuggestions request answer settings).1 = .applied left right →
        (∀ table, query.table? request.leftTable = some table → table.Admits left) ∧
        ∀ table, query.table? request.rightTable = some table → table.Admits right := by
  cases found : query.join? request.joinId with
  | none =>
    rw [applySuggestions_missing answer settings found]
    exact iff_of_true listed (fun _ _ applied => by contradiction)
  | some join =>
    obtain ⟨before, after, whole, skipped, named⟩ := join?_split found
    rw [applySuggestions_split answer settings whole skipped named]
    refine Iff.trans ?_ ((listed join (mem_of_split whole)).mergeAnswer_iff request answer settings)
    constructor
    · exact fun changed => changed _ List.mem_append_cons_self
    · intro fits other member
      rcases mem_of_mem_replaced whole member with rfl | present
      · exact fits
      · exact listed other present

end Query

/-! ### One change -/

/-- The columns that a change chooses without a look at the tables are columns of theirs, as far as
these list any: those of an answer that is applied, and those of a text that is restored. -/
def QueryChange.BringsListed (query : Query) : QueryChange → Prop
  | .applySuggestions request answer settings =>
    ∀ left right, (query.applySuggestions request answer settings).1 = .applied left right →
      (∀ table, query.table? request.leftTable = some table → table.Admits left) ∧
      ∀ table, query.table? request.rightTable = some table → table.Admits right
  | .restore text => ∀ restored, Query.restore text = .ok restored → restored.ColumnsListed
  | _ => True

namespace Query

/-- A change that brings no column of its own keeps the columns listed. -/
theorem ColumnsListed.of_effect {query changed : Query} {change : QueryChange}
    (listed : query.ColumnsListed) (known : query.JoinsKnown) (effect : change.Effect query changed)
    (brings : change.BringsListed query) : changed.ColumnsListed := by
  cases effect with
  | tableAdded table =>
    -- a join names no table that is not there yet, so the new one, put last, is found for none
    intro join member
    refine (listed join member).of_tables (fun id other touched found => ?_)
    rw [addTable, find?_append_of_mem (known join member id touched)] at found
    exact ⟨other, found, .refl other⟩
  | @tableRemoved removed _ _ whole =>
    intro join member
    obtain ⟨present, apart⟩ := List.mem_filter.mp member
    refine (listed join present).of_tables (fun other table touched found => ?_)
    -- the joins that name the table which is taken away go with it
    have different : removed.id ≠ other := by
      rintro rfl
      simp [touched] at apart
    rw [find?_without different, ← whole] at found
    exact ⟨table, found, .refl table⟩
  | tableEdited whole same =>
    intro join member
    refine (listed join member).of_tables (fun id table _ found => ?_)
    rw [whole]
    exact find?_of_edited same found
  | joinAdded id =>
    intro join member
    rcases List.mem_append.mp member with earlier | new
    · exact listed join earlier
    · cases List.mem_singleton.mp new
      exact Join.fits_new query.tables id
  | joinRemoved whole => exact fun join member => listed join (subset_of_split whole member)
  | joinEdited whole edits =>
    intro other member
    rcases mem_of_mem_replaced whole member with rfl | present
    · exact (listed _ (mem_of_split whole)).edited edits
    · exact listed other present
  | answered _ _ taken =>
    have kept := (listed.applySuggestions_iff _ _ _).mpr brings
    rwa [taken] at kept
  | restored done => exact brings _ done
  | _ => exact listed

/-- One change keeps the columns listed exactly when it brings no other. -/
theorem ColumnsListed.step_iff {query : Query} (known : query.JoinsKnown)
    (listed : query.ColumnsListed) (change : QueryChange) :
    (query.step change).ColumnsListed ↔ change.BringsListed query := by
  constructor
  · intro changed
    cases change with
    | applySuggestions request answer settings =>
      exact (listed.applySuggestions_iff request answer settings).mp changed
    | restore text =>
      intro restored done
      have applied : (QueryChange.restore text).apply query = .ok restored := done
      rwa [step_of_ok applied] at changed
    | _ => trivial
  · intro brings
    rcases query.step_cases change with same | done
    · rwa [same]
    · exact listed.of_effect known (QueryChange.effect_of_apply done) brings

/-! ### Runs -/

/-- What is written of accepted joins is listed, when no two tables have one identity. -/
theorem ColumnsListed.predicates {query : Query} (listed : query.ColumnsListed)
    (distinct : query.tableIds.Nodup) {settings : CompilerSettings} {clause : JoinClause}
    (member : clause ∈ query.joinClauses settings) {join : AcceptedJoin}
    (held : join ∈ clause.predicates) :
    join.left.Admits join.leftColumn ∧ join.right.Admits join.rightColumn := by
  obtain ⟨given, present, _, accepted⟩ :=
    AcceptedJoins.mem_ofJoins (predicate_mem_of_mem_joinClauses member held)
  have taken := Join.accept_eq_ok_iff.mp accepted
  exact ⟨listed given present .left _ _ taken.leftTable taken.leftColumn _
      (find?_eq_self distinct (resolveTable?_mem taken.leftKnown)),
    listed given present .right _ _ taken.rightTable taken.rightColumn _
      (find?_eq_self distinct (resolveTable?_mem taken.rightKnown))⟩

/-- Along a run from the empty query, the columns of joins are columns of their tables all the time,
as far as these list any, exactly when no answer that is applied and no text that is restored brings
another one. Then a compiled query joins tables by no other columns. -/
theorem run_columnsListed_iff (changes : List QueryChange) :
    ((∀ earlier, earlier <+: changes → (run {} earlier).ColumnsListed) ↔
      ∀ earlier change, earlier ++ [change] <+: changes →
        change.BringsListed (run {} earlier)) ∧
    ((run {} changes).ColumnsListed → (run {} changes).tableIds.Nodup →
      ∀ settings, ∀ clause ∈ (run {} changes).joinClauses settings,
        ∀ join ∈ clause.predicates,
          join.left.Admits join.leftColumn ∧ join.right.Admits join.rightColumn) := by
  have known (earlier : List QueryChange) : (run {} earlier).JoinsKnown := .run .initial earlier
  refine ⟨?_, fun listed distinct settings clause member join held =>
    listed.predicates distinct member held⟩
  have throughout := run_throughout_iff
    (fun query change (held : query.JoinsKnown ∧ query.ColumnsListed) =>
      (and_iff_right (held.1.step change)).trans (held.2.step_iff held.1 change))
    ⟨JoinsKnown.initial, fun join none => by contradiction⟩ changes
  simpa only [known, true_and] using throughout

/-- Two tables that list a column each are joined, and an answer suggests columns of other names. -/
def guessedColumns : List QueryChange :=
  [.addTable { id := .uniform 1, name := "users", columns := [{ name := "id", type := .number }] },
    .addTable
      { id := .uniform 2, name := "orders", columns := [{ name := "user_id", type := .number }] },
    .addJoin (.uniform 1), .setJoinTables (.uniform 1) (.uniform 1) (.uniform 2),
    .applySuggestions
      { joinId := .uniform 1, leftTable := .uniform 1, rightTable := .uniform 2, source := "shop"
        leftName := "users", rightName := "orders" }
      (.ok [{ leftColumn := "nope", rightColumn := "nada", confidence := .ofRatio false 9 10 }]) {}]

/-- The answer is applied, although the same columns are refused when they are chosen by hand. -/
theorem guessedColumns_unlisted :
    ¬ (run {} guessedColumns).ColumnsListed ∧
    ((run {} guessedColumns).compile {}).isValid = true ∧
    ((run {} guessedColumns).compile {}).sql =
      "SELECT * FROM users\nINNER JOIN orders ON users.nope = orders.nada " ∧
    ((run {} guessedColumns).setJoinColumn (.uniform 1) .left (some "nope")).isOk = false := by
  refine ⟨?_, by decide +kernel, by decide +kernel, by decide +kernel⟩
  intro listed
  have joins : (run {} guessedColumns).joins =
      [{ id := .uniform 1, leftTable := some (.uniform 1), leftColumn := some "nope"
         rightTable := some (.uniform 2), rightColumn := some "nada"
         suggestions := [⟨"nope", "nada", .ofRatio false 9 10⟩] }] := by
    decide +kernel
  unfold ColumnsListed at listed
  rw [joins] at listed
  have admitted := listed _ List.mem_cons_self .left (.uniform 1) "nope" rfl rfl _ rfl
  revert admitted
  decide +kernel

end Query

end QueryComposer
