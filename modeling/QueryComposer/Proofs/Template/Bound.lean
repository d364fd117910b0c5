import QueryComposer.Proofs.Parameter.Binding
import QueryComposer.Proofs.Session.Parameters
import QueryComposer.Proofs.Template.Filling
import QueryComposer.Template.Record

set_option autoImplicit false

/-!
Values that pass their checks fill a template. However a template came about, its parameters are
named by the placeholders of its text, so that each placeholder finds a bound value.
-/

namespace QueryComposer

namespace Template

/-! ### How templates come about -/

/-- The templates that come about: of a text, of a query or of a stored record, whatever parameters
that one lists, then with other texts, and with anything decided about the parameters. -/
inductive Obtained : Template → Prop
  | ofSql (sql : String) : Obtained (ofSql sql)
  | ofQuery {query : Query} {settings : CompilerSettings} {template : Template}
      (made : ofQuery query settings = .ok template) : Obtained template
  | ofRecord (record : TemplateRecord) : Obtained record.template
  | setSql {template : Template} (earlier : Obtained template) (sql : String) :
      Obtained (template.setSql sql)
  | override {template : Template} (earlier : Obtained template) {parameters : List Parameter}
      (same : parameters.map Parameter.name = template.parameters.map Parameter.name) :
      Obtained { template with parameters }

/-- The parameters are named by the placeholders, in the order of the first ones. -/
def NamedByPlaceholders (template : Template) : Prop :=
  template.parameters.map Parameter.name =
    distinctBy id [] ((Placeholder.scan template.sql).map Placeholder.name)

theorem namedByPlaceholders_reextract (sql : String) (previous : List Parameter) :
    NamedByPlaceholders { sql, parameters := Parameter.reextract sql previous } :=
  (Parameter.names_reextract sql previous).trans (Parameter.names_extract sql)

theorem Obtained.namedByPlaceholders {template : Template} (obtained : Obtained template) :
    template.NamedByPlaceholders := by
  induction obtained with
  | ofSql sql => exact namedByPlaceholders_reextract sql []
  | @ofQuery query settings template made =>
    unfold Template.ofQuery at made
    cases compiled : (query.compile settings).sql? with
    | error error =>
      rw [compiled] at made
      contradiction
    | ok sql =>
      rw [compiled] at made
      cases made
      exact namedByPlaceholders_reextract sql []
  | ofRecord record => exact namedByPlaceholders_reextract record.sql record.parameters
  | @setSql template earlier sql _ => exact namedByPlaceholders_reextract sql template.parameters
  -- the text stays, and so do the names
  | override earlier same inner => exact same.trans inner

section Named

variable {template : Template} (named : template.NamedByPlaceholders)
include named

theorem NamedByPlaceholders.nodup : (template.parameters.map Parameter.name).Nodup := by
  rw [named]
  simpa using nodup_distinctBy id [] ((Placeholder.scan template.sql).map Placeholder.name)

theorem NamedByPlaceholders.exists_parameter {placeholder : Placeholder}
    (scanned : placeholder ∈ Placeholder.scan template.sql) :
    ∃ parameter ∈ template.parameters, parameter.name = placeholder.name := by
  have listed : placeholder.name ∈ template.parameters.map Parameter.name := by
    rw [named, mem_distinctBy_id]
    exact ⟨List.mem_map_of_mem scanned, List.not_mem_nil⟩
  exact List.mem_map.mp listed

/-- Each placeholder finds the value bound to the parameter of its name. -/
theorem NamedByPlaceholders.exists_bound {binder : Binder} {values : ParameterValues}
    {bound : List BoundParameter} (done : binder.bind template.parameters values = .ok bound)
    {placeholder : Placeholder} (scanned : placeholder ∈ Placeholder.scan template.sql) :
    ∃ parameter ∈ template.parameters, parameter.name = placeholder.name ∧
      (BoundParameter.toValues bound).get? placeholder.name =
        some (Binder.boundValue parameter values) := by
  obtain ⟨parameter, listed, same⟩ := named.exists_parameter scanned
  refine ⟨parameter, listed, same, ?_⟩
  obtain ⟨-, rfl⟩ := Binder.bind_eq_ok_iff.mp done
  rw [← same]
  exact Binder.get?_toValues named.nodup listed

theorem NamedByPlaceholders.applyValidated_of_valid {binder : Binder} {values : ParameterValues}
    (policy : LiteralPolicy)
    (valid : (binder.validateAll template.parameters values).errors = []) :
    ∃ sql, template.applyValidated binder values policy = .ok sql := by
  obtain ⟨bound, done⟩ : ∃ bound, binder.bind template.parameters values = .ok bound :=
    ⟨_, Binder.bind_eq_ok_iff.mpr ⟨valid, rfl⟩⟩
  have supplied : ∀ placeholder ∈ Placeholder.scan template.sql,
      ((BoundParameter.toValues bound).get? placeholder.name).isSome = true := by
    intro placeholder scanned
    obtain ⟨parameter, _, _, found⟩ := named.exists_bound done scanned
    rw [found]
    rfl
  unfold applyValidated
  rw [done]
  exact ⟨_, apply_of_supplied policy supplied⟩

end Named

theorem applyValidated_of_failures {template : Template} {binder : Binder}
    {values : ParameterValues} (policy : LiteralPolicy)
    (failures : (binder.validateAll template.parameters values).errors ≠ []) :
    template.applyValidated binder values policy =
      .error (.validation (binder.validateAll template.parameters values).toError) := by
  unfold applyValidated
  rw [Binder.bind_eq_error_iff.mpr ⟨failures, rfl⟩]

/-- However a template came about, values fill it exactly when none of them fails its checks, and
otherwise those failures are the error. No value is ever missing then: each placeholder of the text
finds the value that is bound to the parameter of its name. -/
theorem Obtained.applyValidated_fails_only_in_checks {template : Template}
    (obtained : Obtained template) (binder : Binder) (values : ParameterValues)
    (policy : LiteralPolicy) :
    ((∃ sql, template.applyValidated binder values policy = .ok sql) ↔
      (binder.validateAll template.parameters values).errors = []) ∧
    (∀ error, template.applyValidated binder values policy = .error error →
      error = .validation (binder.validateAll template.parameters values).toError) ∧
    (∀ name, template.applyValidated binder values policy ≠ .error (.missingValue name)) ∧
    ∀ bound, binder.bind template.parameters values = .ok bound →
      ∀ placeholder ∈ Placeholder.scan template.sql,
        ∃ parameter ∈ template.parameters, parameter.name = placeholder.name ∧
          (BoundParameter.toValues bound).get? placeholder.name =
            some (Binder.boundValue parameter values) := by
  have named := obtained.namedByPlaceholders
  have fails : ∀ error, template.applyValidated binder values policy = .error error →
      error = .validation (binder.validateAll template.parameters values).toError := by
    intro error failed
    by_cases valid : (binder.validateAll template.parameters values).errors = []
    · obtain ⟨sql, applied⟩ := named.applyValidated_of_valid policy valid
      rw [applied] at failed
      contradiction
    · rw [applyValidated_of_failures policy valid] at failed
      cases failed
      rfl
  refine ⟨⟨?_, named.applyValidated_of_valid policy⟩, fails, ?_, ?_⟩
  · rintro ⟨sql, applied⟩
    by_contra failures
    rw [applyValidated_of_failures policy failures] at applied
    contradiction
  · intro name missing
    cases fails _ missing
  · intro bound done placeholder scanned
    exact named.exists_bound done scanned

/-! ### A record that lists other parameters than its text -/

def staleRecord : TemplateRecord :=
  { name := "orders"
    sql := "SELECT :id"
    parameters := [{ name := "state", type := .string, required := false, kind := .named }] }

/-- The template of the record with another text, in which one parameter needs no value. -/
def revised : Template :=
  let template := staleRecord.template.setSql "SELECT ':id', ?, :state, :id"
  { template with parameters := template.parameters.map (fun parameter =>
      if parameter.name = "state" then parameter.optional none else parameter) }

theorem obtained_revised : revised.Obtained := by
  refine .override (.setSql (.ofRecord staleRecord) _) ?_
  decide +kernel

/-- A required value is missing at first; the one that needs no value is never supplied. -/
theorem revised_fails_only_in_checks :
    revised.Obtained ∧
    (∃ failure, revised.applyValidated {} [("param1", .int 1)] .permissive =
      .error (.validation failure)) ∧
    ∃ sql,
      revised.applyValidated {} [("param1", .int 1), ("id", .int 7)] .permissive = .ok sql := by
  refine ⟨obtained_revised, ?_, ?_⟩
  · have checks := obtained_revised.applyValidated_fails_only_in_checks {} [("param1", .int 1)]
      .permissive
    cases applied : revised.applyValidated {} [("param1", .int 1)] .permissive with
    | ok sql => exact absurd (checks.1.mp ⟨sql, applied⟩) (by decide +kernel)
    | error error => exact ⟨_, by rw [checks.2.1 error applied]⟩
  · exact (obtained_revised.applyValidated_fails_only_in_checks {}
      [("param1", .int 1), ("id", .int 7)] .permissive).1.mpr (by decide +kernel)

end Template

end QueryComposer
