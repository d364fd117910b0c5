import Mathlib.Data.List.Nodup
import QueryComposer.Proofs.Number.Digits
import QueryComposer.Proofs.Parameter.Extraction
import QueryComposer.Proofs.Placeholder.Places

set_option autoImplicit false

/-!
Placeholders and the parameters they stand for. A name behind a colon stands for one parameter
wherever it is written, and each question mark for one of its own, unless the text writes a name
that is also the number of one of its question marks.
-/

namespace QueryComposer

namespace Placeholder

open QueryComposer.Number

/-- The placeholders with names of their own. -/
def names (sql : String) : List Placeholder :=
  (search sql).filter isNamed

/-- The question marks. -/
def questions (sql : String) : List Placeholder :=
  (search sql).filter (fun found => !isNamed found)

/-- The name under which a question mark goes that so many others precede. -/
def questionName (index : Nat) : String :=
  s!"param{index + 1}"

theorem questionName_inj {first second : Nat} :
    questionName first = questionName second ↔ first = second := by
  constructor
  · intro same
    have digits : toDigits (first + 1) = toDigits (second + 1) := by
      rw [← toList_repr, ← toList_repr]
      exact congrArg String.toList (by simpa [questionName] using same)
    have values := congrArg ofDigits digits
    rw [ofDigits_toDigits, ofDigits_toDigits] at values
    exact Nat.succ.inj values
  · rintro rfl
    rfl

theorem mem_names_iff {sql : String} {placeholder : Placeholder} :
    placeholder ∈ names sql ↔ placeholder ∈ search sql ∧ placeholder.kind = .named := by
  simp [names, isNamed]

theorem mem_questions_iff {sql : String} {placeholder : Placeholder} :
    placeholder ∈ questions sql ↔ placeholder ∈ search sql ∧ placeholder.kind = .positional := by
  cases kind : placeholder.kind <;> simp [questions, isNamed, kind]

theorem name_questions {sql : String} {index : Nat} {placeholder : Placeholder}
    (found : (questions sql)[index]? = some placeholder) :
    placeholder.name = questionName index := by
  rw [questions, search_eq_scan] at found
  have numbered := congrArg Placeholder.name (filter_scanFrom_numbered found)
  rwa [Nat.zero_add] at numbered

theorem map_name_questions (sql : String) :
    (questions sql).map Placeholder.name =
      (List.range (questions sql).length).map questionName := by
  apply List.ext_getElem
  · rw [List.length_map, List.length_map, List.length_range]
  · intro index within _
    rw [List.getElem_map, List.getElem_map, List.getElem_range]
    exact name_questions (List.getElem?_eq_getElem (by simpa using within))

theorem nodup_name_questions (sql : String) :
    ((questions sql).map Placeholder.name).Nodup := by
  rw [map_name_questions]
  exact List.Nodup.map (fun _ _ same => questionName_inj.mp same) List.nodup_range

theorem mem_map_name_questions {sql : String} {name : String} :
    name ∈ (questions sql).map Placeholder.name ↔
      ∃ index < (questions sql).length, name = questionName index := by
  rw [map_name_questions]
  simp [eq_comm]

/-- No name behind a colon is the name of a question mark. -/
def NamesDiffer (sql : String) : Prop :=
  ∀ placeholder ∈ names sql, ∀ index < (questions sql).length,
    placeholder.name ≠ questionName index

theorem NamesDiffer.ne {sql : String} (differ : NamesDiffer sql) {first second : Placeholder}
    (named : first ∈ names sql) (question : second ∈ questions sql) :
    first.name ≠ second.name := by
  obtain ⟨index, within, name⟩ :=
    mem_map_name_questions.mp (List.mem_map_of_mem (f := Placeholder.name) question)
  rw [name]
  exact differ first named index within

/-- Names differ where placeholders of one name are one placeholder, or one name written twice. -/
theorem namesDiffer_iff {sql : String} :
    NamesDiffer sql ↔ ∀ first ∈ search sql, ∀ second ∈ search sql, first.name = second.name →
      first = second ∨ first.kind = .named ∧ second.kind = .named := by
  constructor
  · intro differ first one second other same
    cases kind : first.kind with
    | named =>
      cases further : second.kind with
      | named => exact .inr ⟨rfl, rfl⟩
      | positional =>
        exact absurd same (differ.ne (mem_names_iff.mpr ⟨one, kind⟩)
          (mem_questions_iff.mpr ⟨other, further⟩))
    | positional =>
      cases further : second.kind with
      | named =>
        exact absurd same.symm (differ.ne (mem_names_iff.mpr ⟨other, further⟩)
          (mem_questions_iff.mpr ⟨one, kind⟩))
      | positional =>
        exact .inl (List.inj_on_of_nodup_map (nodup_name_questions sql)
          (mem_questions_iff.mpr ⟨one, kind⟩) (mem_questions_iff.mpr ⟨other, further⟩) same)
  · intro alone placeholder listed index within same
    obtain ⟨question, asked, name⟩ :=
      List.mem_map.mp (mem_map_name_questions.mpr ⟨index, within, rfl⟩)
    obtain ⟨one, named⟩ := mem_names_iff.mp listed
    obtain ⟨other, positional⟩ := mem_questions_iff.mp asked
    rcases alone placeholder one question other (same.trans name.symm) with equal | both
    · rw [equal, positional] at named
      contradiction
    · rw [positional] at both
      exact absurd both.2 (by decide)

end Placeholder

namespace Parameter

open QueryComposer.Placeholder

/-- There is one parameter for each name behind a colon, in the order of the first ones, and one for
each question mark, from left to right. -/
structure KeepsApart (sql : String) : Prop where
  names : ((extract sql).filter (fun parameter => parameter.kind = .named)).map Parameter.name =
    distinctBy id [] ((Placeholder.names sql).map Placeholder.name)
  questions :
    ((extract sql).filter (fun parameter => parameter.kind = .positional)).map Parameter.name =
      (Placeholder.questions sql).map Placeholder.name

/-- The parameters of a kind are those of the first placeholders of that kind. -/
theorem map_name_filter_extract (sql : String) (kind : ParameterKind) :
    ((extract sql).filter (fun parameter => parameter.kind = kind)).map Parameter.name =
      ((distinctBy Placeholder.name [] (search sql)).filter
        (fun placeholder => placeholder.kind = kind)).map Placeholder.name := by
  rw [extract_eq, search_eq_scan, List.filter_map, List.map_map]
  rfl

theorem KeepsApart.namesDiffer {sql : String} (apart : KeepsApart sql) : NamesDiffer sql := by
  intro placeholder listed index within same
  -- otherwise one name belongs to a parameter of either kind
  have named : placeholder.name ∈
      ((extract sql).filter (fun parameter => parameter.kind = .named)).map Parameter.name := by
    rw [apart.names, mem_distinctBy_id]
    exact ⟨List.mem_map_of_mem listed, List.not_mem_nil⟩
  have asked : placeholder.name ∈
      ((extract sql).filter (fun parameter => parameter.kind = .positional)).map
        Parameter.name := by
    rw [apart.questions, mem_map_name_questions]
    exact ⟨index, within, same⟩
  obtain ⟨first, one, firstName⟩ := List.mem_map.mp named
  obtain ⟨second, other, secondName⟩ := List.mem_map.mp asked
  obtain ⟨one, firstKind⟩ := List.mem_filter.mp one
  obtain ⟨other, secondKind⟩ := List.mem_filter.mp other
  have equal : first = second := List.inj_on_of_nodup_map (names_extract_nodup sql) one other
    (firstName.trans secondName.symm)
  rw [decide_eq_true_eq] at firstKind secondKind
  rw [equal, secondKind] at firstKind
  contradiction

theorem keepsApart_of_namesDiffer {sql : String} (differ : NamesDiffer sql) : KeepsApart sql := by
  have isQuestion : (fun placeholder : Placeholder => decide (placeholder.kind = .positional)) =
      fun placeholder => !isNamed placeholder := by
    funext placeholder
    cases kind : placeholder.kind <;> simp [isNamed, kind]
  have named : ∀ first ∈ search sql, ∀ second ∈ search sql, isNamed first = true →
      isNamed second = false → first.name ≠ second.name := by
    intro first one second other colon question
    exact differ.ne (List.mem_filter.mpr ⟨one, colon⟩)
      (List.mem_filter.mpr ⟨other, by simp [question]⟩)
  have asked : ∀ first ∈ search sql, ∀ second ∈ search sql, (!isNamed first) = true →
      (!isNamed second) = false → first.name ≠ second.name := by
    intro first one second other question colon
    exact (named second other first one (by simpa using colon) (by simpa using question)).symm
  constructor
  · rw [map_name_filter_extract]
    exact (congrArg (List.map Placeholder.name) (filter_distinctBy named [])).trans
      (map_distinctBy Placeholder.name [] (Placeholder.names sql))
  · have single := distinctBy_eq_self (nodup_name_questions sql)
      (fun _ _ => List.not_mem_nil)
    rw [map_name_filter_extract, isQuestion, filter_distinctBy asked]
    exact congrArg (List.map Placeholder.name) single

/-- The parameters of a text are those of the first placeholders of each name, in the order in which
these appear and of their kinds, and no two have one name; question marks go under their numbers. A
text has one named parameter for each name behind a colon and one positional parameter for each
question mark exactly when none of these names is the one of a question mark, and that is when two
placeholders share a parameter only if both write its name. -/
theorem extract_keepsApart_iff (sql : String) :
    (extract sql).map (fun parameter => (parameter.kind, parameter.name)) =
      (distinctBy Placeholder.name [] (search sql)).map
        (fun placeholder => (placeholder.kind, placeholder.name)) ∧
    ((extract sql).map Parameter.name).Nodup ∧
    (Placeholder.questions sql).map Placeholder.name =
      (List.range (Placeholder.questions sql).length).map (fun index => s!"param{index + 1}") ∧
    (KeepsApart sql ↔ ∀ placeholder ∈ search sql, placeholder.kind = .named →
      ∀ index < (Placeholder.questions sql).length, placeholder.name ≠ s!"param{index + 1}") ∧
    (KeepsApart sql ↔ ∀ first ∈ search sql, ∀ second ∈ search sql, first.name = second.name →
      first = second ∨ first.kind = .named ∧ second.kind = .named) := by
  have differ : KeepsApart sql ↔ NamesDiffer sql :=
    ⟨KeepsApart.namesDiffer, keepsApart_of_namesDiffer⟩
  refine ⟨?_, names_extract_nodup sql, map_name_questions sql, ?_, differ.trans namesDiffer_iff⟩
  · rw [extract_eq, search_eq_scan, List.map_map]
    rfl
  · rw [differ]
    constructor
    · intro names placeholder listed named
      exact names placeholder (mem_names_iff.mpr ⟨listed, named⟩)
    · intro names placeholder listed
      obtain ⟨found, named⟩ := mem_names_iff.mp listed
      exact names placeholder found named

/-- A name that looks like the one of a question mark but is none here, written twice. -/
theorem thirdName_keepsApart :
    (∀ placeholder ∈ search "a = ? AND b = :param3 AND c = ? OR d = :param3",
      placeholder.kind = .named →
      ∀ index < (Placeholder.questions "a = ? AND b = :param3 AND c = ? OR d = :param3").length,
        placeholder.name ≠ s!"param{index + 1}") ∧
    KeepsApart "a = ? AND b = :param3 AND c = ? OR d = :param3" := by
  have differ : ∀ placeholder ∈ search "a = ? AND b = :param3 AND c = ? OR d = :param3",
      placeholder.kind = .named →
      ∀ index < (Placeholder.questions "a = ? AND b = :param3 AND c = ? OR d = :param3").length,
        placeholder.name ≠ s!"param{index + 1}" := by
    simp only [Placeholder.questions, search_eq_scan]
    decide +kernel
  obtain ⟨-, -, -, apart, -⟩ :=
    extract_keepsApart_iff "a = ? AND b = :param3 AND c = ? OR d = :param3"
  exact ⟨differ, apart.mpr differ⟩

/-- A name behind a colon that is the one of the question mark takes its parameter. -/
theorem firstName_takes_question :
    (search "a = :param1 AND b = ?").map Placeholder.kind = [.named, .positional] ∧
    (extract "a = :param1 AND b = ?").map (fun parameter => (parameter.kind, parameter.name)) =
      [(.named, "param1")] ∧
    ¬ KeepsApart "a = :param1 AND b = ?" := by
  refine ⟨?_, by decide +kernel, ?_⟩
  · rw [search_eq_scan]
    decide +kernel
  · intro apart
    have asked := apart.questions
    rw [Placeholder.questions, search_eq_scan] at asked
    revert asked
    decide +kernel

end Parameter

end QueryComposer
