import QueryComposer.Command.Run
import QueryComposer.Proofs.Json.Nesting
import QueryComposer.Proofs.Layout.Filled
import QueryComposer.Proofs.Template.Between
import QueryComposer.Proofs.Template.Bound

set_option autoImplicit false

/-!
Lists that are given as one text with commas. The command that renders a template turns such a text
into a list value, which is checked, bound and written for a placeholder; a condition of a query is
written from the text itself. Both cut, trim and quote alike, and a text without any item is refused
by both.
-/

namespace QueryComposer

open QueryComposer.Text

/-! ### Items of a text -/

namespace Literal

theorem ofValues_string (policy : LiteralPolicy) (texts : List String) :
    ofValues policy (texts.map Value.string) = texts.map (ofText policy) := by
  induction texts with
  | nil => rfl
  | cons text texts inner => rw [List.map_cons, ofValues, ofValue, inner, List.map_cons]

end Literal

namespace Comparison

variable {comparison : Comparison} {raw : String}

/-- An IN condition on a column, whose list is held as one text. -/
structure IsTextList (comparison : Comparison) (tables : List Table) (column raw : String) :
    Prop where
  operator : comparison.operator = .among
  value : comparison.value = .scalar (.string raw)
  bound : comparison.isBound = true
  shown : comparison.columnText tables = .ok column

/-- Such a condition is refused exactly when the text has no items, and else written with their
literals. -/
theorem IsTextList.atom_eq {tables : List Table} {column : String}
    (isList : comparison.IsTextList tables column raw) (policy : LiteralPolicy) :
    comparison.atom tables policy =
      if textPieces raw = [] then .error (.emptyList .among comparison.column)
      else .ok
        { column, operator := .among
          operands := .list ((textPieces raw).map (Literal.ofText policy)) } := by
  have items : listItems policy comparison.value =
      (textPieces raw).map (Literal.ofText policy) := by
    rw [isList.value]
    exact List.append_nil _
  have operands : comparison.operands policy =
      if textPieces raw = [] then .error (.emptyList .among comparison.column)
      else .ok (.list ((textPieces raw).map (Literal.ofText policy))) := by
    unfold Comparison.operands
    rw [isList.operator]
    simp only [Operator.arity, items, List.isEmpty_iff, List.map_eq_nil_iff]
  unfold atom
  simp only [isList.bound, isList.shown, operands, isList.operator]
  split
  · contradiction
  · split <;> rfl

theorem IsTextList.atom_cases {tables : List Table} {column : String}
    (isList : comparison.IsTextList tables column raw) (policy : LiteralPolicy) :
    (∃ shown, comparison.atom tables policy = .ok shown) ∨
      comparison.atom tables policy = .error (.emptyList .among comparison.column) := by
  rw [isList.atom_eq]
  split
  · exact Or.inr rfl
  · exact Or.inl ⟨_, rfl⟩

theorem IsTextList.atom_eq_error_iff {tables : List Table} {column : String}
    (isList : comparison.IsTextList tables column raw) (policy : LiteralPolicy) :
    comparison.atom tables policy = .error (.emptyList .among comparison.column) ↔
      textPieces raw = [] := by
  rw [isList.atom_eq]
  split
  · rename_i nothing
    exact iff_of_true rfl nothing
  · rename_i items
    exact iff_of_false (fun same => by cases same) items

/-- What is written is the column with the literals of the items in parentheses. -/
theorem IsTextList.text_of_atom {tables : List Table} {column : String} {policy : LiteralPolicy}
    (isList : comparison.IsTextList tables column raw) {shown : Atom}
    (written : comparison.atom tables policy = .ok shown) :
    textPieces raw ≠ [] ∧
      shown.text =
        column ++ " IN (" ++ join ", " ((textPieces raw).map (Literal.ofText policy)) ++ ")" := by
  rw [isList.atom_eq] at written
  split at written
  · contradiction
  · rename_i items
    cases written
    refine ⟨items, ?_⟩
    rw [← String.toList_inj]
    simp [Atom.text, Operator.symbol]

end Comparison

/-! ### One check among all -/

namespace Binder

/-- Where names are distinct, the failure of each parameter is found under its name. -/
theorem get?_errors_validateAll {binder : Binder} {parameters : List Parameter}
    {values : ParameterValues} (distinct : (parameters.map Parameter.name).Nodup)
    {parameter : Parameter} (listed : parameter ∈ parameters) :
    (binder.validateAll parameters values).errors.get? parameter.name =
      binder.validate parameter (values.get? parameter.name) := by
  have names : ((parameters.filterMap (fun parameter =>
      (binder.validate parameter (values.get? parameter.name)).map (fun error =>
        (parameter.name, error)))).map Prod.fst).Sublist (parameters.map Parameter.name) := by
    clear distinct listed
    induction parameters with
    | nil => exact List.Sublist.slnil
    | cons first parameters inner =>
      rw [List.filterMap_cons, List.map_cons]
      cases binder.validate first (values.get? first.name) with
      | none => exact inner.cons first.name
      | some error => exact inner.cons_cons first.name
  cases failed : binder.validate parameter (values.get? parameter.name) with
  | some error =>
    refine Entries.get?_ofList_of_mem (distinct.sublist names) ?_
    exact List.mem_filterMap.mpr ⟨parameter, listed, by rw [failed]; rfl⟩
  | none =>
    rw [validateAll, Entries.get?_ofList, List.lookup_eq_none_iff]
    intro entry member
    obtain ⟨other, present, made⟩ := List.mem_filterMap.mp (List.mem_reverse.mp member)
    obtain ⟨error, fails, rfl⟩ := Option.map_eq_some_iff.mp made
    rw [bne_iff_ne]
    intro same
    -- another parameter with a failure has another name
    obtain rfl := List.inj_on_of_nodup_map distinct listed present same
    rw [failed] at fails
    contradiction

end Binder

theorem Entries.get?_map {α β : Type} (make : α → β) (entries : Entries α) (name : String) :
    Entries.get? (entries.map (fun (other, value) => (other, make value))) name =
      (entries.get? name).map make := by
  induction entries with
  | nil => rfl
  | cons entry entries inner =>
    obtain ⟨other, value⟩ := entry
    rw [List.map_cons, get?_cons, get?_cons, inner]
    split <;> rfl

theorem ValidationError.report_inj {fields others : List (String × List ValidationError)}
    (same : report fields = report others) : fields = others :=
  congrArg ValidationError.fields same

/-! ### Assigned texts -/

namespace Command

variable {record : TemplateRecord} {template : Template} {values : ParameterValues}

theorem parseAssignment_of_isName {name : String} (named : Literal.isName name.toList = true)
    (raw : String) : parseAssignment (name ++ "=" ++ raw) = .ok (name, raw) := by
  have continues : ∀ c ∈ name.toList, Literal.continuesName c = true :=
    List.all_eq_true.mp (Layout.continuesName_of_isName named)
  have before : ∀ c ∈ name.toList, decide (c ≠ '=') = true := by
    intro c member
    rw [decide_eq_true_eq]
    rintro rfl
    cases continues '=' member
  have whole : (name ++ "=" ++ raw).toList = name.toList ++ '=' :: raw.toList := by
    simp
  have trimmed : trimChars name.toList = name.toList :=
    trimChars_of_visible (fun c member => Literal.isBlank_continuesName (continues c member))
  have cut : splitOnce? '=' (name ++ "=" ++ raw) = some (name, raw) := by
    have stops : ∀ c, ('=' :: raw.toList).head? = some c → decide (c ≠ '=') = false := by simp
    obtain ⟨taken, dropped⟩ := takeWhile_run before stops
    rw [splitOnce?, whole, taken, dropped]
    simp only [String.ofList_toList]
  have filled : isBlankText name = false := by
    rw [isBlankText, trimmed]
    cases chars : name.toList with
    | nil =>
      rw [chars] at named
      contradiction
    | cons c rest => rfl
  rw [parseAssignment, cut]
  simp only [filled, trim, trimmed, String.ofList_toList]
  rfl

theorem get?_assignedValues_of_absent {assignments : List (String × String)} {name : String}
    {start : ParameterValues} (absent : ∀ other ∈ assignments, other.1 ≠ name)
    (assigned : assignedValues record template start assignments = .ok values) :
    values.get? name = start.get? name := by
  induction assignments generalizing start with
  | nil =>
    cases assigned
    rfl
  | cons assignment assignments inner =>
    obtain ⟨other, text⟩ := assignment
    rw [assignedValues] at assigned
    split at assigned
    · contradiction
    · rw [inner (fun later member => absent later (List.mem_cons_of_mem _ member)) assigned,
        Entries.get?_set, if_neg (absent _ List.mem_cons_self).symm]

/-- The value that is assigned last to a parameter is the one there is. -/
theorem get?_assignedValues {earlier later : List (String × String)} {name raw : String}
    {start : ParameterValues} {parameter : Parameter}
    (found : Parameter.find? template.parameters name = some parameter)
    (last : ∀ other ∈ later, other.1 ≠ name)
    (assigned : assignedValues record template start (earlier ++ (name, raw) :: later) =
      .ok values) :
    values.get? name = some (assignedValue parameter.type raw) := by
  induction earlier generalizing start with
  | nil =>
    rw [List.nil_append, assignedValues, found] at assigned
    rw [get?_assignedValues_of_absent last assigned, Entries.get?_set, if_pos rfl]
  | cons assignment earlier inner =>
    rw [List.cons_append, assignedValues] at assigned
    split at assigned
    · contradiction
    · exact inner assigned

theorem assignedValue_array (raw : String) :
    assignedValue .array raw = .list ((Comparison.textPieces raw).map .string) :=
  rfl

theorem isEmpty_assignedValue_array (raw : String) :
    (assignedValue .array raw).isEmpty = true ↔ Comparison.textPieces raw = [] := by
  rw [assignedValue_array, Value.isEmpty, List.isEmpty_iff, List.map_eq_nil_iff]

/-- A text for a required list passes the checks when it has items, and else it is missing. -/
theorem validate_assignedValue {parameter : Parameter} (required : parameter.required = true)
    (isList : parameter.type = .array) (raw : String) :
    ({} : Binder).validate parameter (some (assignedValue parameter.type raw)) =
      if Comparison.textPieces raw = [] then some Parameter.missingFailure else none := by
  rw [isList, Binder.validate]
  by_cases nothing : Comparison.textPieces raw = []
  · have empty := (isEmpty_assignedValue_array raw).mpr nothing
    have missing : Binder.supplied? (some (assignedValue .array raw)) = none := by
      simp [Binder.supplied?, empty]
    simp only [missing, required, if_pos nothing, if_true]
  · have filled : (assignedValue .array raw).isEmpty = false := by
      rw [← Bool.not_eq_true, isEmpty_assignedValue_array]
      exact nothing
    have supplied := Binder.supplied?_eq_some_iff.mpr ⟨rfl, filled⟩
    simp only [supplied, isList, if_neg nothing]
    rfl

/-- A text with items for a list is bound as the list of them. -/
theorem boundValue_assignedValue {parameter : Parameter} (isList : parameter.type = .array)
    {raw : String} (items : Comparison.textPieces raw ≠ [])
    (assigned : values.get? parameter.name = some (assignedValue parameter.type raw)) :
    Binder.boundValue parameter values = .list ((Comparison.textPieces raw).map .string) := by
  have filled : (assignedValue parameter.type raw).isEmpty = false := by
    rw [isList, ← Bool.not_eq_true, isEmpty_assignedValue_array]
    exact items
  rw [Binder.boundValue_supplied (Binder.supplied?_eq_some_iff.mpr ⟨assigned, filled⟩), isList]
  rfl

/-! ### The command and the compiler -/

/-- The file holds a template whose text has `IN (:name)` between two other texts, for a list that
is required. -/
structure AsksForList (files : Files) (path : String) (record : TemplateRecord) (name : String)
    (before after : List Char) : Prop where
  file : ∃ contents, files path = some contents ∧ TemplateRecord.read? contents = some record
  text : record.sql.toList = before ++ "IN (:".toList ++ (name.toList ++ ')' :: after)
  scanned : Placeholder.namedAt (byteLength before + 4) name.toList ∈ Placeholder.scan record.sql
  parameter : ∃ parameter ∈ record.template.parameters,
    parameter.name = name ∧ parameter.type = .array ∧ parameter.required = true

theorem renderFile_eq_applyValidated {files : Files} {path contents : String}
    {assignments : List (String × String)} (settings : Settings)
    (found : files path = some contents) (read : TemplateRecord.read? contents = some record)
    (assigned : assignedValues record record.template [] assignments = .ok values) :
    renderFile files path assignments settings =
      record.template.applyValidated {} values settings.compiler.literalPolicy := by
  unfold renderFile readFile
  simp only [found, read, assigned]

/-- The failures of a template's values that are reported, each under the name of its parameter. -/
theorem get?_reported {template : Template} (values : ParameterValues)
    (named : template.NamedByPlaceholders) {parameter : Parameter}
    (listed : parameter ∈ template.parameters) :
    Entries.get? ((({} : Binder).validateAll template.parameters values).errors.map
        (fun (name, error) => (name, [error]))) parameter.name =
      (({} : Binder).validate parameter (values.get? parameter.name)).map
        (fun error => [error]) := by
  rw [Entries.get?_map (fun error => [error]), Binder.get?_errors_validateAll named.nodup listed]

/-- The text that a template becomes with a list for one of its placeholders. -/
theorem applyValidated_list {template : Template} {policy : LiteralPolicy}
    (named : template.NamedByPlaceholders) {parameter : Parameter}
    (listed : parameter ∈ template.parameters) {items : List String}
    (value : Binder.boundValue parameter values = .list (items.map .string))
    {before after : List Char}
    (text : template.sql.toList =
      before ++ "IN (:".toList ++ (parameter.name.toList ++ ')' :: after))
    (scanned : Placeholder.namedAt (byteLength before + 4) parameter.name.toList ∈
      Placeholder.scan template.sql)
    {sql : String} (applied : template.applyValidated {} values policy = .ok sql) :
    ∃ earlier later start stop,
      earlier.map Prod.fst ++
          Placeholder.namedAt (byteLength before + 4) parameter.name.toList ::
            later.map Prod.fst = Placeholder.scan template.sql ∧
      Placeholder.Splices 0 earlier (before ++ "IN ".toList) start ∧
      Placeholder.Splices
        ((Placeholder.namedAt (byteLength before + 4) parameter.name.toList).stop + 1) later after
        stop ∧
      sql.toList = start ++ '(' ::
        ((join ", " (items.map (Literal.ofText policy))).toList ++ ')' :: stop) := by
  unfold Template.applyValidated at applied
  split at applied
  · contradiction
  · rename_i bound done
    have place : byteLength before + 4 = byteLength (before ++ "IN ".toList ++ ['(']) := by
      rw [Lexical.byteLength_append, Lexical.byteLength_append]
      rfl
    have whole : template.sql.toList = before ++ "IN ".toList ++ ['('] ++
        (Placeholder.namedAt (byteLength before + 4) parameter.name.toList).token ++
          ')' :: after := by
      rw [text, Placeholder.token_namedAt]
      simp
    have absent (other : Placeholder) (found : other ∈ Placeholder.scan template.sql) :
        '(' ∉ other.token ∧ ')' ∉ other.token := by
      refine ⟨fun mem => ?_, fun mem => ?_⟩
      · rcases Placeholder.mem_token_cases found mem with wrong | wrong | wrong <;>
          revert wrong <;> decide
      · rcases Placeholder.mem_token_cases found mem with wrong | wrong | wrong <;>
          revert wrong <;> decide
    obtain ⟨taken, earlier, later, start, stop, chosen, places, opened, closed, written⟩ :=
      Template.apply_between applied scanned whole place absent
    obtain ⟨-, rfl⟩ := Binder.bind_eq_ok_iff.mp done
    have name : (Placeholder.namedAt (byteLength before + 4) parameter.name.toList).name =
        parameter.name := String.ofList_toList
    rw [Template.valueFor?, name, Binder.get?_toValues named.nodup listed, Option.some_or,
      Option.some.injEq, value] at chosen
    subst chosen
    rw [Literal.ofValue, Literal.ofValues_string] at written
    exact ⟨earlier, later, start, stop, places, opened, closed, written⟩

/-- Where values are checked, the report has an entry for a parameter exactly when its value
fails. -/
theorem applyValidated_reports_iff {template : Template} {policy : LiteralPolicy}
    (named : template.NamedByPlaceholders) {parameter : Parameter}
    (listed : parameter ∈ template.parameters) (error : ValidationError) :
    (∃ failures, template.applyValidated {} values policy =
        .error (.validation (.report failures)) ∧
      Entries.get? failures parameter.name = some [error]) ↔
      ({} : Binder).validate parameter (values.get? parameter.name) = some error := by
  have reported := get?_reported values named listed
  by_cases valid : (({} : Binder).validateAll template.parameters values).errors = []
  · have passes := Binder.errors_validateAll_eq_nil_iff.mp valid parameter listed
    obtain ⟨sql, applied⟩ := named.applyValidated_of_valid policy valid
    rw [applied, passes]
    simp
  · rw [Template.applyValidated_of_failures policy valid]
    constructor
    · rintro ⟨failures, same, entry⟩
      rw [← ValidationError.report_inj (Error.validation.inj (Except.error.inj same)), reported]
        at entry
      obtain ⟨failure, fails, alone⟩ := Option.map_eq_some_iff.mp entry
      rw [fails, List.singleton_inj.mp alone]
    · intro fails
      refine ⟨_, rfl, ?_⟩
      rw [reported, fails, Option.map_some]

/-- A template can be filled when one parameter passes its check and so do those of other names. -/
theorem applyValidated_of_others {template : Template} {policy : LiteralPolicy}
    (named : template.NamedByPlaceholders) {parameter : Parameter}
    (listed : parameter ∈ template.parameters)
    (passes : ({} : Binder).validate parameter (values.get? parameter.name) = none)
    (others : ∀ other ∈ template.parameters, other.name ≠ parameter.name →
      ({} : Binder).validate other (values.get? other.name) = none) :
    ∃ sql, template.applyValidated {} values policy = .ok sql := by
  refine named.applyValidated_of_valid policy (Binder.errors_validateAll_eq_nil_iff.mpr ?_)
  intro other member
  by_cases same : other.name = parameter.name
  · rwa [List.inj_on_of_nodup_map named.nodup member listed same]
  · exact others other member same

/-- A required list that is assigned as one text to a parameter of a template, and an IN condition
that holds the same text, whatever the text is and whichever texts are written without quotes. The
condition is refused for an empty list exactly when the command reports that the parameter needs a
value. Else the condition is the column with a list in parentheses, the command fails only for other
parameters, and what it prints is the text of the template, filled, with exactly that list between
the parentheses. -/
theorem renderFile_list_iff_atom {files : Files} {path name : String} {before after : List Char}
    (asks : AsksForList files path record name before after)
    {earlier later : List (String × String)} {raw : String}
    (assigned : assignedValues record record.template [] (earlier ++ (name, raw) :: later) =
      .ok values)
    (last : ∀ other ∈ later, other.1 ≠ name) (settings : Settings)
    {comparison : Comparison} {tables : List Table} {column : String}
    (isList : comparison.IsTextList tables column raw) :
    let atom := comparison.atom tables settings.compiler.literalPolicy
    let rendered := renderFile files path (earlier ++ (name, raw) :: later) settings
    parseAssignment (name ++ "=" ++ raw) = .ok (name, raw) ∧
    (atom = .error (.emptyList .among comparison.column) ↔
      ∃ failures, rendered = .error (.validation (.report failures)) ∧
        Entries.get? failures name = some [Parameter.missingFailure]) ∧
    ((∃ shown, atom = .ok shown) ∨ atom = .error (.emptyList .among comparison.column)) ∧
    ∀ shown, atom = .ok shown → ∃ list : String,
      shown.text = column ++ " IN (" ++ list ++ ")" ∧
      ((∀ other ∈ record.template.parameters, other.name ≠ name →
          ({} : Binder).validate other (values.get? other.name) = none) →
        ∃ sql, rendered = .ok sql) ∧
      ∀ sql, rendered = .ok sql → ∃ front back start stop,
        front.map Prod.fst ++ Placeholder.namedAt (byteLength before + 4) name.toList ::
          back.map Prod.fst = Placeholder.scan record.sql ∧
        Placeholder.Splices 0 front (before ++ "IN ".toList) start ∧
        Placeholder.Splices ((Placeholder.namedAt (byteLength before + 4) name.toList).stop + 1)
          back after stop ∧
        sql.toList = start ++ '(' :: (list.toList ++ ')' :: stop) := by
  obtain ⟨⟨contents, found, read⟩, text, scanned, parameter, listed, rfl, isArray, required⟩ := asks
  have named : record.template.NamedByPlaceholders :=
    (Template.Obtained.ofRecord record).namedByPlaceholders
  have value : values.get? parameter.name = some (assignedValue parameter.type raw) :=
    get?_assignedValues (Parameter.find?_of_mem named.nodup listed) last assigned
  have checked := validate_assignedValue required isArray raw
  rw [← value] at checked
  intro atom rendered
  have rendering : rendered =
      record.template.applyValidated {} values settings.compiler.literalPolicy :=
    renderFile_eq_applyValidated settings found read assigned
  refine ⟨parseAssignment_of_isName (Placeholder.isName_of_mem_scan scanned) raw, ?_,
    isList.atom_cases settings.compiler.literalPolicy, ?_⟩
  · rw [isList.atom_eq_error_iff, rendering, applyValidated_reports_iff named listed, checked]
    simp
  · intro shown written
    obtain ⟨items, shownText⟩ := isList.text_of_atom written
    rw [if_neg items] at checked
    refine ⟨_, shownText, fun others => ?_, fun sql done => ?_⟩
    · rw [rendering]
      exact applyValidated_of_others named listed checked others
    · rw [rendering] at done
      exact applyValidated_list named listed (boundValue_assignedValue isArray items value) text
        scanned done

/-! ### Shops in three towns -/

def shopsRecord : TemplateRecord :=
  { name := "shops", sql := "SELECT :day, name FROM shop WHERE town IN (:towns)" }

def shopsFiles : Files := fun path =>
  if path = "shops.json" then some shopsRecord.toJson.render else none

/-- A blank item, an item with a quote, a numeral and a reference. -/
def townsText : String := " L'Aquila ,, 12, town.name"

def townsCondition : Comparison :=
  { column := "town", operator := .among, value := .scalar (.string townsText) }

theorem isTextList_townsCondition : townsCondition.IsTextList [] "town" townsText :=
  { operator := rfl, value := rfl, bound := by decide +kernel, shown := rfl }

theorem read?_shopsRecord : TemplateRecord.read? shopsRecord.toJson.render = some shopsRecord := by
  rw [TemplateRecord.read?, Json.parse?_render (by simp [shopsRecord, TemplateRecord.toJson])]
  rfl

theorem parameters_shopsRecord :
    ∃ day towns, shopsRecord.template.parameters = [day, towns] ∧
      (day.name = "day" ∧ day.type = .date) ∧
      towns.name = "towns" ∧ towns.type = .array ∧ towns.required = true := by
  have known : shopsRecord.template.parameters.map (fun parameter =>
      (parameter.name, parameter.type, parameter.required)) =
        [("day", .date, true), ("towns", .array, true)] := by
    decide +kernel
  obtain ⟨day, others, listed, dayIs, rest⟩ := List.map_eq_cons_iff.mp known
  obtain ⟨towns, last, rfl, townsIs, nothing⟩ := List.map_eq_cons_iff.mp rest
  obtain rfl := List.map_eq_nil_iff.mp nothing
  simp only [Prod.mk.injEq] at dayIs townsIs
  exact ⟨day, towns, listed, ⟨dayIs.1, dayIs.2.1⟩, townsIs⟩

theorem shopsFiles_asks : AsksForList shopsFiles "shops.json" shopsRecord "towns"
    "SELECT :day, name FROM shop WHERE town ".toList [] := by
  obtain ⟨day, towns, listed, -, townsIs⟩ := parameters_shopsRecord
  exact
    { file := ⟨_, rfl, read?_shopsRecord⟩
      text := by decide +kernel
      scanned := by decide +kernel
      parameter := ⟨towns, by simp [listed], townsIs⟩ }

theorem assignedValues_shopsRecord :
    assignedValues shopsRecord shopsRecord.template []
        ([("day", "2024-03-05")] ++ ("towns", townsText) :: []) =
      .ok [("day", .string "2024-03-05"), ("towns", assignedValue .array townsText)] := by
  obtain ⟨day, towns, listed, dayIs, townsIs⟩ := parameters_shopsRecord
  have dayFound : Parameter.find? shopsRecord.template.parameters "day" = some day := by
    simp [Parameter.find?, listed, dayIs.1]
  have townsFound : Parameter.find? shopsRecord.template.parameters "towns" = some towns := by
    simp [Parameter.find?, listed, dayIs.1, townsIs.1]
  simp only [List.cons_append, List.nil_append, assignedValues, dayFound, dayIs.2, townsFound,
    townsIs.2.1]
  rfl

theorem validate_day {day : Parameter} (isDate : day.type = .date) :
    ({} : Binder).validate day (some (.string "2024-03-05")) = none := by
  have fits : Parameter.fitsType .date (.string "2024-03-05") = true := by decide +kernel
  have supplied := Binder.supplied?_eq_some_iff.mpr
    ⟨rfl, (rfl : (Value.string "2024-03-05").isEmpty = false)⟩
  simp only [Binder.validate, supplied, isDate, if_pos fits]
  rfl

theorem townsCondition_agrees :
    ∃ shown list sql start stop,
      townsCondition.atom [] ({} : Settings).compiler.literalPolicy = .ok shown ∧
      shown.text = "town IN (" ++ list ++ ")" ∧
      renderFile shopsFiles "shops.json" [("day", "2024-03-05"), ("towns", townsText)] {} =
        .ok sql ∧
      sql.toList = start ++ '(' :: (list.toList ++ ')' :: stop) := by
  obtain ⟨-, -, -, agree⟩ := renderFile_list_iff_atom shopsFiles_asks assignedValues_shopsRecord
    (by simp) {} isTextList_townsCondition
  obtain ⟨shown, written⟩ : ∃ shown,
      townsCondition.atom [] ({} : Settings).compiler.literalPolicy = .ok shown := by
    rw [isTextList_townsCondition.atom_eq, if_neg (by decide +kernel)]
    exact ⟨_, rfl⟩
  obtain ⟨list, text, fills, places⟩ := agree shown written
  obtain ⟨day, towns, listed, ⟨dayName, dayType⟩, townsName, -⟩ := parameters_shopsRecord
  obtain ⟨sql, rendered⟩ := fills (by
    rw [listed]
    simp only [List.forall_mem_cons, dayName, townsName]
    exact ⟨fun _ => validate_day dayType, fun other => absurd rfl other, List.forall_mem_nil _⟩)
  obtain ⟨front, back, start, stop, -, -, -, filled⟩ := places sql rendered
  exact ⟨shown, list, sql, start, stop, written, text, rendered, filled⟩

end Command

end QueryComposer
