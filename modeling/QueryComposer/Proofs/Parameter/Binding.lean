import Mathlib.Data.List.Forall2
import QueryComposer.Parameter.Binder

set_option autoImplicit false

/-!
Values that are bound to parameters. A supplied value is bound as one of its parameter's type, and
to bind it again changes nothing. Defaults are bound as they are.
-/

namespace QueryComposer

/-- The value is one of the type. Any value passes for a text or a truth value. -/
inductive Value.IsOf : ValueType → Value → Prop
  | int (number : Int64) : IsOf .number (.int number)
  | float {number : Number.Binary64} (finite : number.isFinite = true) :
      IsOf .number (.float number)
  | date (day : Calendar.Date) : IsOf .date (.date day)
  | moment (time : Calendar.DateTime) : IsOf .date (.moment time)
  | list (items : List Value) : IsOf .array (.list items)
  | text (value : Value) : IsOf .string value
  | truth (value : Value) : IsOf .boolean value

namespace Parameter

/-! ### Values in their types -/

/-- The value of the type that a text reads as. -/
def readAs? (type : ValueType) (text : String) : Option Value :=
  match type with
  | .number => Value.readNumber? text
  | .date => Value.readDate? text
  | .boolean => (Value.readBool? text).map Value.bool
  | _ => none

theorem coerce_string (type : ValueType) (text : String) :
    coerce type (.string text) = (readAs? type text).getD (.string text) := by
  cases type <;> rfl

theorem isOf_of_readNumber? {text : String} {value : Value}
    (read : Value.readNumber? text = some value) : Value.IsOf .number value := by
  unfold Value.readNumber? at read
  simp only at read
  split at read
  · cases read
    exact .int _
  · obtain ⟨number, finite, rfl⟩ := Option.map_eq_some_iff.mp read
    exact .float (Option.filter_eq_some_iff.mp finite).2

theorem isOf_of_readDate? {text : String} {value : Value}
    (read : Value.readDate? text = some value) : Value.IsOf .date value := by
  simp only [Value.readDate?, Option.or_eq_some_iff, Option.map_eq_some_iff] at read
  rcases read with ⟨time, _, rfl⟩ | ⟨_, ⟨time, _, rfl⟩ | ⟨_, day, _, rfl⟩⟩
  · exact .moment time
  · exact .moment time
  · exact .date day

theorem settled_number {value : Value} (isOf : Value.IsOf .number value) :
    value.isEmpty = false ∧ coerce .number value = value := by
  cases isOf with
  | int number => exact ⟨rfl, rfl⟩
  | float finite => exact ⟨rfl, rfl⟩

theorem settled_date {value : Value} (isOf : Value.IsOf .date value) :
    value.isEmpty = false ∧ coerce .date value = value := by
  cases isOf with
  | date day => exact ⟨rfl, rfl⟩
  | moment time => exact ⟨rfl, rfl⟩

/-- What a text reads as is not empty and of the type, and to turn it into one of the type changes
nothing. -/
theorem settled_of_readAs? {type : ValueType} {text : String} {value : Value}
    (read : readAs? type text = some value) :
    value.isEmpty = false ∧ Value.IsOf type value ∧ coerce type value = value := by
  cases type with
  | string => contradiction
  | array => contradiction
  | boolean =>
    simp only [readAs?, Option.map_eq_some_iff] at read
    obtain ⟨flag, -, rfl⟩ := read
    exact ⟨rfl, .truth _, rfl⟩
  | number =>
    have isOf := isOf_of_readNumber? read
    exact ⟨(settled_number isOf).1, isOf, (settled_number isOf).2⟩
  | date =>
    have isOf := isOf_of_readDate? read
    exact ⟨(settled_date isOf).1, isOf, (settled_date isOf).2⟩

/-- A value is kept, or it is a text that is read, or an integer that stands for a truth value. -/
theorem coerce_cases (type : ValueType) (value : Value) :
    coerce type value = value ∨
      (∃ text, value = .string text ∧ readAs? type text = some (coerce type value)) ∨
      ∃ flag, type = .boolean ∧ coerce type value = .bool flag := by
  cases value with
  | string text =>
    rw [coerce_string]
    cases read : readAs? type text with
    | none => exact .inl rfl
    | some value => exact .inr (.inl ⟨text, rfl, read⟩)
  | int number =>
    cases type with
    | boolean => exact .inr (.inr ⟨_, rfl, rfl⟩)
    | _ => exact .inl rfl
  | _ => cases type <;> exact .inl rfl

theorem coerce_coerce (type : ValueType) (value : Value) :
    coerce type (coerce type value) = coerce type value := by
  rcases coerce_cases type value with same | ⟨text, -, read⟩ | ⟨flag, rfl, made⟩
  · rw [same, same]
  · exact (settled_of_readAs? read).2.2
  · rw [made]
    rfl

theorem isEmpty_coerce {value : Value} (filled : value.isEmpty = false) (type : ValueType) :
    (coerce type value).isEmpty = false := by
  rcases coerce_cases type value with same | ⟨text, -, read⟩ | ⟨flag, rfl, made⟩
  · rwa [same]
  · exact (settled_of_readAs? read).1
  · rw [made]
    rfl

/-- A value that passes the check of its type is turned into one of the type. -/
theorem isOf_coerce {type : ValueType} {value : Value} (fits : fitsType type value = true) :
    Value.IsOf type (coerce type value) := by
  cases type with
  | string => exact .text _
  | boolean => exact .truth _
  | array =>
    cases value with
    | list items => exact .list items
    | _ => contradiction
  | number =>
    cases value with
    | int number => exact .int number
    | float number => exact .float fits
    | string text =>
      obtain ⟨number, read⟩ := Option.isSome_iff_exists.mp fits
      rw [coerce_string, readAs?, read]
      exact isOf_of_readNumber? read
    | _ => contradiction
  | date =>
    cases value with
    | date day => exact .date day
    | moment time => exact .moment time
    | string text =>
      obtain ⟨day, read⟩ := Option.isSome_iff_exists.mp fits
      rw [coerce_string, readAs?, read]
      exact isOf_of_readDate? read
    | _ => contradiction

theorem fitsType_of_isOf {type : ValueType} {value : Value} (isOf : Value.IsOf type value) :
    fitsType type value = true := by
  cases isOf with
  | float finite => exact finite
  | _ => rfl

end Parameter

namespace Binder

open QueryComposer.Parameter

variable {binder : Binder} {parameters : List Parameter} {values : ParameterValues}

/-! ### Supplied values -/

theorem supplied?_eq_some_iff {value : Option Value} {content : Value} :
    supplied? value = some content ↔ value = some content ∧ content.isEmpty = false := by
  simp [supplied?, Option.filter_eq_some_iff]

theorem validate_missing {parameter : Parameter} {value : Option Value}
    (missing : supplied? value = none) :
    binder.validate parameter value = none ↔ parameter.required = false := by
  simp [validate, missing]

theorem validate_supplied {parameter : Parameter} {value : Option Value} {content : Value}
    (supplied : supplied? value = some content) :
    binder.validate parameter value = none ↔ fitsType parameter.type content = true ∧
      binder.customFailure? parameter.name content = none := by
  cases fits : fitsType parameter.type content <;> simp [validate, supplied, fits]

theorem boundValue_missing {parameter : Parameter}
    (missing : supplied? (values.get? parameter.name) = none) :
    boundValue parameter values = parameter.defaultValue.getD .null := by
  rw [boundValue, missing]

theorem boundValue_supplied {parameter : Parameter} {content : Value}
    (supplied : supplied? (values.get? parameter.name) = some content) :
    boundValue parameter values = coerce parameter.type content := by
  rw [boundValue, supplied]

/-! ### Lists of parameters -/

theorem errors_validateAll_eq_nil_iff :
    (binder.validateAll parameters values).errors = [] ↔
      ∀ parameter ∈ parameters, binder.validate parameter (values.get? parameter.name) = none := by
  simp [validateAll, Entries.ofList_eq_nil_iff]

/-- Values are bound when none of them fails, each to its parameter. -/
theorem bind_eq_ok_iff {bound : List BoundParameter} :
    binder.bind parameters values = .ok bound ↔
      (binder.validateAll parameters values).errors = [] ∧
      bound = parameters.map (fun parameter =>
        { name := parameter.name, value := boundValue parameter values }) := by
  rw [← List.isEmpty_iff]
  unfold bind
  simp only
  split
  · rename_i valid
    simp only [Except.ok.injEq]
    exact ⟨fun same => ⟨valid, same.symm⟩, fun both => both.2.symm⟩
  · rename_i failed
    simp only [reduceCtorEq, false_iff]
    exact fun both => failed both.1

/-- Otherwise the failures are the error. -/
theorem bind_eq_error_iff {error : Error} :
    binder.bind parameters values = .error error ↔
      (binder.validateAll parameters values).errors ≠ [] ∧
      error = .validation (binder.validateAll parameters values).toError := by
  rw [Ne, ← List.isEmpty_iff]
  unfold bind
  simp only
  split
  · rename_i valid
    simp only [reduceCtorEq, false_iff]
    exact fun both => both.1 valid
  · rename_i failed
    simp only [Except.error.injEq]
    exact ⟨fun same => ⟨failed, same.symm⟩, fun both => both.2.symm⟩

/-! ### Bound values -/

theorem names_bound (parameters : List Parameter) (values : ParameterValues) :
    (parameters.map (fun parameter => BoundParameter.mk parameter.name
        (boundValue parameter values))).map BoundParameter.name =
      parameters.map Parameter.name := by
  rw [List.map_map]
  rfl

/-- A bound value is found under the name of its parameter. -/
theorem get?_toValues (distinct : (parameters.map Parameter.name).Nodup) {parameter : Parameter}
    (listed : parameter ∈ parameters) :
    (BoundParameter.toValues (parameters.map (fun parameter =>
        { name := parameter.name, value := boundValue parameter values }))).get? parameter.name =
      some (boundValue parameter values) := by
  unfold BoundParameter.toValues
  rw [List.map_map]
  apply Entries.get?_ofList_of_mem
  · rwa [List.map_map]
  · exact List.mem_map_of_mem (f := fun parameter : Parameter =>
      (parameter.name, boundValue parameter values)) listed

theorem forall₂_bound_iff {holds : Parameter → BoundParameter → Prop} :
    List.Forall₂ holds parameters (parameters.map (fun parameter =>
        { name := parameter.name, value := boundValue parameter values })) ↔
      ∀ parameter ∈ parameters,
        holds parameter { name := parameter.name, value := boundValue parameter values } := by
  rw [List.forall₂_map_right_iff, List.forall₂_same]

/-- The value of a parameter without a default passes its checks, and is bound as it is, where it is
supplied once more. -/
theorem validate_boundValue {parameter : Parameter} (undefaulted : parameter.defaultValue = none)
    (passes : ({} : Binder).validate parameter (values.get? parameter.name) = none)
    {again : ParameterValues}
    (supplied : again.get? parameter.name = some (boundValue parameter values)) :
    ({} : Binder).validate parameter (again.get? parameter.name) = none ∧
      boundValue parameter again = boundValue parameter values := by
  cases found : supplied? (values.get? parameter.name) with
  | none =>
    have null : boundValue parameter values = .null := by
      rw [boundValue_missing found, undefaulted]
      rfl
    have missing : supplied? (again.get? parameter.name) = none := by
      rw [supplied, null]
      rfl
    rw [validate_missing missing, boundValue_missing missing, boundValue_missing found]
    exact ⟨(validate_missing found).mp passes, rfl⟩
  | some content =>
    obtain ⟨-, filled⟩ := supplied?_eq_some_iff.mp found
    have fits := ((validate_supplied found).mp passes).1
    rw [boundValue_supplied found] at supplied ⊢
    have further : supplied? (again.get? parameter.name) =
        some (coerce parameter.type content) :=
      supplied?_eq_some_iff.mpr ⟨supplied, isEmpty_coerce filled parameter.type⟩
    rw [validate_supplied further, boundValue_supplied further, coerce_coerce]
    exact ⟨⟨fitsType_of_isOf (isOf_coerce fits), rfl⟩, rfl⟩

/-- Where values are bound to parameters with different names, without defaults and without further
checks, there is one of them for each parameter, in their order. To bind the bound values succeeds
and changes nothing, and a supplied value that is not empty is not null when it is bound. -/
theorem bind_toValues_of_bind {parameters : List Parameter} {values : ParameterValues}
    {bound : List BoundParameter} (distinct : (parameters.map Parameter.name).Nodup)
    (undefaulted : ∀ parameter ∈ parameters, parameter.defaultValue = none)
    (done : ({} : Binder).bind parameters values = .ok bound) :
    bound.map BoundParameter.name = parameters.map Parameter.name ∧
    ({} : Binder).bind parameters (BoundParameter.toValues bound) = .ok bound ∧
    ∀ parameter ∈ parameters, ∀ content, values.get? parameter.name = some content →
      content.isEmpty = false →
      ∃ value, (BoundParameter.toValues bound).get? parameter.name = some value ∧
        value.isNull = false := by
  obtain ⟨valid, rfl⟩ := bind_eq_ok_iff.mp done
  have passes := errors_validateAll_eq_nil_iff.mp valid
  have again (parameter : Parameter) (listed : parameter ∈ parameters) :=
    validate_boundValue (undefaulted parameter listed) (passes parameter listed)
      (get?_toValues distinct listed)
  refine ⟨names_bound parameters values, ?_, ?_⟩
  · rw [bind_eq_ok_iff, errors_validateAll_eq_nil_iff]
    refine ⟨fun parameter listed => (again parameter listed).1, ?_⟩
    apply List.map_congr_left
    intro parameter listed
    rw [(again parameter listed).2]
  · intro parameter listed content found filled
    refine ⟨_, get?_toValues distinct listed, ?_⟩
    rw [boundValue_supplied (supplied?_eq_some_iff.mpr ⟨found, filled⟩)]
    have kept := isEmpty_coerce filled parameter.type
    cases value : coerce parameter.type content with
    | null =>
      rw [value] at kept
      contradiction
    | _ => rfl

/-- A parameter of each type, and one that needs no value. -/
def orderForm : List Parameter :=
  [ { name := "total", type := .number, kind := .named },
    { name := "since", type := .date, kind := .named },
    { name := "paid", type := .boolean, kind := .named },
    { name := "open", type := .boolean, kind := .named },
    { name := "states", type := .array, kind := .named },
    { name := "note", type := .string, kind := .named },
    { name := "param1", type := .number, required := false, kind := .positional } ]

/-- Values as people enter them; a truth value in a word that stands for none. -/
def orderEntries : ParameterValues :=
  [ ("param1", .string " "), ("note", .string " 42 "), ("states", .list [.string "new", .null]),
    ("open", .string "maybe"), ("paid", .int 0), ("since", .string "2024-03-01T10:00:00+02:00"),
    ("total", .string " 42 ") ]

theorem orderForm_bound_again :
    (orderForm.map Parameter.name).Nodup ∧
    (∀ parameter ∈ orderForm, parameter.defaultValue = none) ∧
    ∃ bound, ({} : Binder).bind orderForm orderEntries = .ok bound ∧
      ({} : Binder).bind orderForm (BoundParameter.toValues bound) = .ok bound := by
  have distinct : (orderForm.map Parameter.name).Nodup := by decide
  have undefaulted : ∀ parameter ∈ orderForm, parameter.defaultValue = none := by decide
  have done : ({} : Binder).bind orderForm orderEntries = .ok _ :=
    bind_eq_ok_iff.mpr ⟨errors_validateAll_eq_nil_iff.mpr (by decide +kernel), rfl⟩
  exact ⟨distinct, undefaulted, _, done, (bind_toValues_of_bind distinct undefaulted done).2.1⟩

/-- Where values are bound, a supplied one that is not empty is bound as one of its parameter's
type, and without one the default is bound, or null. So all bound values are null or of the types of
their parameters exactly when the defaults are that come to be used. -/
theorem bind_types_supplied_values {binder : Binder} {parameters : List Parameter}
    {values : ParameterValues} {bound : List BoundParameter}
    (done : binder.bind parameters values = .ok bound) :
    List.Forall₂ (fun parameter entry => entry.name = parameter.name ∧
      match supplied? (values.get? parameter.name) with
      | some _ => Value.IsOf parameter.type entry.value
      | none => entry.value = parameter.defaultValue.getD .null) parameters bound ∧
    (List.Forall₂ (fun parameter entry => entry.value = .null ∨
        Value.IsOf parameter.type entry.value) parameters bound ↔
      ∀ parameter ∈ parameters, supplied? (values.get? parameter.name) = none →
        ∀ content, parameter.defaultValue = some content →
          content = .null ∨ Value.IsOf parameter.type content) := by
  obtain ⟨valid, rfl⟩ := bind_eq_ok_iff.mp done
  have passes := errors_validateAll_eq_nil_iff.mp valid
  have typed (parameter : Parameter) (listed : parameter ∈ parameters) {content : Value}
      (found : supplied? (values.get? parameter.name) = some content) :
      Value.IsOf parameter.type (boundValue parameter values) := by
    rw [boundValue_supplied found]
    exact isOf_coerce ((validate_supplied found).mp (passes parameter listed)).1
  rw [forall₂_bound_iff, forall₂_bound_iff]
  refine ⟨?_, ?_⟩
  · intro parameter listed
    refine ⟨rfl, ?_⟩
    cases found : supplied? (values.get? parameter.name) with
    | none => exact boundValue_missing found
    | some content => exact typed parameter listed found
  · apply forall₂_congr
    intro parameter listed
    cases found : supplied? (values.get? parameter.name) with
    | some content =>
      exact iff_of_true (.inr (typed parameter listed found)) (fun missing => nomatch missing)
    | none =>
      rw [boundValue_missing found]
      cases parameter.defaultValue with
      | none => exact iff_of_true (.inl rfl) (fun _ _ used => nomatch used)
      | some content => simp

/-- A number of rows with a default, and a day. -/
def pageForm (rows : Value) : List Parameter :=
  [ { name := "rows", type := .number, required := false, defaultValue := some rows,
      kind := .named },
    { name := "day", type := .date, kind := .named } ]

theorem pageForm_typed :
    ∃ bound, ({} : Binder).bind (pageForm (.int 10)) [("day", .string "2024/02/29")] = .ok bound ∧
      List.Forall₂ (fun parameter entry => entry.value = .null ∨
        Value.IsOf parameter.type entry.value) (pageForm (.int 10)) bound := by
  have done : ({} : Binder).bind (pageForm (.int 10)) [("day", .string "2024/02/29")] = .ok _ :=
    bind_eq_ok_iff.mpr ⟨errors_validateAll_eq_nil_iff.mpr (by decide +kernel), rfl⟩
  refine ⟨_, done, (bind_types_supplied_values done).2.mpr ?_⟩
  intro parameter listed _ content used
  rcases List.mem_cons.mp listed with rfl | listed
  · cases used
    exact .inr (.int 10)
  · cases List.mem_singleton.mp listed
    contradiction

/-- A text that reads as a number is bound as a text where it is a default. -/
theorem pageForm_binds_text :
    ∃ bound, ({} : Binder).bind (pageForm (.string "10")) [("day", .string "2024/02/29")] =
        .ok bound ∧
      ¬ List.Forall₂ (fun parameter entry => entry.value = .null ∨
        Value.IsOf parameter.type entry.value) (pageForm (.string "10")) bound := by
  refine ⟨_, bind_eq_ok_iff.mpr ⟨errors_validateAll_eq_nil_iff.mpr (by decide +kernel), rfl⟩, ?_⟩
  rw [forall₂_bound_iff]
  intro typed
  rcases typed _ List.mem_cons_self with null | isOf
  · cases null
  · cases isOf

end Binder

end QueryComposer
