import QueryComposer.Proofs.Literal.Values
import QueryComposer.Proofs.Template.Seams
import QueryComposer.Template.Basic

set_option autoImplicit false

/-!
Applying a template keeps what the bytes around its placeholders belong to exactly where no value
forms a mark with its neighbours, and then leaves no placeholder exactly where no colon of the text
comes to begin a name.
-/

namespace QueryComposer.Template

open QueryComposer.Lexical QueryComposer.Literal QueryComposer.Placeholder QueryComposer.Text

variable (template : Template) (values : ParameterValues) (policy : LiteralPolicy)

/-- What the bytes outside of the placeholders belong to in the text of the template. -/
def keptBefore : List Bool :=
  outside (spansFrom tokenSize 0 (template.replacements values policy))
    (covered template.sql.toList)

/-- What the same bytes belong to in the text with the values. -/
def keptAfter (output : String) : List Bool :=
  outside (spansFrom textSize 0 (template.replacements values policy)) (covered output.toList)

/-- The text of the template cut at its placeholders, with the literals of the values. -/
def pieces : List Char × List (List Char × List Char) :=
  cutFrom 0 (template.replacements values policy) template.sql.toList

/-- No literal forms a mark with what stands next to it, and no two pieces do. -/
def isSeamless : Bool :=
  seamless [] [] (template.pieces values policy).1 (template.pieces values policy).2

/-- No colon next to a literal comes to begin a name. -/
def isUnexposed : Bool :=
  unexposed none (template.pieces values policy).1 (template.pieces values policy).2

variable {template values policy}

theorem lastMissing?_eq_none_iff :
    template.lastMissing? values = none ↔ ∀ placeholder ∈ Placeholder.scan template.sql,
      (template.valueFor? values placeholder).isSome = true := by
  rw [lastMissing?, List.getLast?_eq_none_iff, List.filter_eq_nil_iff]
  simp only [Option.isNone_iff_eq_none, Option.isSome_iff_ne_none, ne_eq]

theorem replacements_places
    (valued : ∀ placeholder ∈ Placeholder.scan template.sql,
      (template.valueFor? values placeholder).isSome = true) :
    (template.replacements values policy).map Prod.fst = Placeholder.scan template.sql := by
  rw [replacements, List.map_filterMap]
  generalize Placeholder.scan template.sql = placeholders at valued
  induction placeholders with
  | nil => rfl
  | cons placeholder others inner =>
    obtain ⟨value, chosen⟩ :=
      Option.isSome_iff_exists.mp (valued placeholder List.mem_cons_self)
    have tail := inner (fun other mem => valued other (List.mem_cons_of_mem _ mem))
    rw [List.filterMap_cons_some (by rw [chosen]; rfl), tail]

theorem mem_replacements {placeholder : Placeholder} {text : String}
    (mem : (placeholder, text) ∈ template.replacements values policy) :
    placeholder ∈ Placeholder.scan template.sql ∧
      ∃ value, template.valueFor? values placeholder = some value ∧
        text = Literal.ofValue policy value := by
  obtain ⟨found, scanned, written⟩ := List.mem_filterMap.mp mem
  obtain ⟨value, chosen, same⟩ := Option.map_eq_some_iff.mp written
  obtain ⟨rfl, rfl⟩ := Prod.mk.inj same
  exact ⟨scanned, value, chosen, rfl⟩

/-- A template that is applied has a value for every placeholder, and each is replaced. -/
theorem apply_eq_ok {output : String} (applied : template.apply values policy = .ok output) :
    (template.replacements values policy).map Prod.fst = Placeholder.scan template.sql ∧
      output = Placeholder.replace (template.replacements values policy) template.sql := by
  cases missing : template.lastMissing? values with
  | some placeholder => simp [apply, missing] at applied
  | none =>
    rw [apply, missing] at applied
    cases applied
    exact ⟨replacements_places (lastMissing?_eq_none_iff.mp missing), rfl⟩

variable (template values policy)

/-- Where no value names a parameter, the bytes around the placeholders belong to what they belonged
to exactly when the template is seamless, and no placeholder is left exactly when no colon is
exposed. -/
theorem apply_reads_as_before_iff (output : String)
    (plain : ∀ placeholder ∈ Placeholder.scan template.sql, ∀ value,
      template.valueFor? values placeholder = some value → value.refers = false)
    (applied : template.apply values policy = .ok output) :
    (template.keptAfter values policy output = template.keptBefore values policy ↔
        template.isSeamless values policy = true) ∧
      (template.isSeamless values policy = true →
        (Placeholder.scan output = [] ↔ template.isUnexposed values policy = true)) := by
  obtain ⟨whole, rfl⟩ := apply_eq_ok applied
  have sliced : Slices 0 none template.sql.toList
      ((template.replacements values policy).map Prod.fst) := by
    rw [whole]
    exact slices_scan template.sql
  have contained : ∀ entry ∈ (template.pieces values policy).2,
      selfContained false entry.1 = true := by
    intro entry mem
    obtain ⟨⟨placeholder, text⟩, listed, same⟩ := mem_cutFrom mem
    obtain ⟨found, value, chosen, rfl⟩ := mem_replacements listed
    rw [same]
    exact selfContained_ofValue policy value (plain placeholder found value chosen)
  have output : (Placeholder.replace (template.replacements values policy) template.sql).toList =
      (template.pieces values policy).1 ++ spliced (template.pieces values policy).2 := by
    rw [Placeholder.replace, String.toList_ofList, replaceFrom_eq, pieces]
  constructor
  · rw [keptBefore, keptAfter, sliced.outside_covered, sliced.spans, output]
    exact outside_covered_all_iff sliced.pieces contained
  · intro fit
    rw [Placeholder.scan, output]
    exact ofMasked_spliced_iff sliced.pieces contained fit

/-- A minus sign, a blank and a negative number stay apart. -/
theorem minus_blank_reads_as_before :
    (ofSql "SELECT 5 - :x").apply [("x", .int (-1))] .permissive = .ok "SELECT 5 - -1" ∧
      (ofSql "SELECT 5 - :x").keptAfter [("x", .int (-1))] .permissive "SELECT 5 - -1" =
        (ofSql "SELECT 5 - :x").keptBefore [("x", .int (-1))] .permissive ∧
      Placeholder.scan "SELECT 5 - -1" = [] := by
  have found : Placeholder.scan (ofSql "SELECT 5 - :x").sql = [namedAt 11 ['x']] := by
    decide +kernel
  have applied : (ofSql "SELECT 5 - :x").apply [("x", .int (-1))] .permissive =
      .ok "SELECT 5 - -1" := rfl
  have seamless : (ofSql "SELECT 5 - :x").isSeamless [("x", .int (-1))] .permissive = true := by
    decide +kernel
  have unexposed : (ofSql "SELECT 5 - :x").isUnexposed [("x", .int (-1))] .permissive = true := by
    decide +kernel
  have read := apply_reads_as_before_iff (ofSql "SELECT 5 - :x") [("x", .int (-1))] .permissive
    "SELECT 5 - -1" (by
      rw [found]
      intro placeholder mem value chosen
      cases List.mem_singleton.mp mem
      cases chosen
      rfl) applied
  exact ⟨applied, read.1.mpr seamless, (read.2 seamless).mpr unexposed⟩

/-- Without the blank the two minus signs begin a comment, and a colon before a placeholder begins a
name together with the value. -/
theorem minus_reads_as_comment :
    (ofSql "SELECT 5 -:x").apply [("x", .int (-1))] .permissive = .ok "SELECT 5 --1" ∧
      (ofSql "SELECT 5 -:x").keptAfter [("x", .int (-1))] .permissive "SELECT 5 --1" ≠
        (ofSql "SELECT 5 -:x").keptBefore [("x", .int (-1))] .permissive ∧
      (ofSql "SELECT :?").apply [("param1", .bool true)] .permissive = .ok "SELECT :TRUE" ∧
      Placeholder.scan "SELECT :TRUE" ≠ [] := by
  refine ⟨rfl, ?_, rfl, ?_⟩
  · decide +kernel
  · decide +kernel

end QueryComposer.Template
