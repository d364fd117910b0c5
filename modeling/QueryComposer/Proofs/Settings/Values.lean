import QueryComposer.Proofs.Json.Records
import QueryComposer.Settings.Basic

set_option autoImplicit false

/-!
Settings out of their data values: what has to be there for a value to be settings, field by field,
and that settings are what their own value stands for.
-/

namespace QueryComposer

theorem LiteralPolicy.ofJson?_name (policy : LiteralPolicy) :
    ofJson? (.string policy.name) = some policy := by
  cases policy <;> decide

theorem DuplicateJoinPolicy.ofJson?_name (policy : DuplicateJoinPolicy) :
    ofJson? (.string policy.name) = some policy := by
  cases policy <;> decide

namespace CompilerSettings

variable {json : Json} {settings : CompilerSettings}

theorem ofJson?_eq_some_iff : ofJson? json = some settings ↔
    ∃ fields, json.fields? ["literal_policy", "duplicate_joins"] = some fields ∧
      fields.required "literal_policy" LiteralPolicy.ofJson? = some settings.literalPolicy ∧
      fields.required "duplicate_joins" DuplicateJoinPolicy.ofJson? =
        some settings.duplicateJoins := by
  obtain ⟨literalPolicy, duplicateJoins⟩ := settings
  simp [ofJson?, Option.bind_eq_some_iff]

theorem ofJson?_toJson (settings : CompilerSettings) :
    ofJson? settings.toJson = some settings := by
  refine ofJson?_eq_some_iff.mpr ⟨_, Json.fields?_members (by simp) (by simp), ?_, ?_⟩
  · exact Json.Fields.required_eq_some rfl (LiteralPolicy.ofJson?_name _)
  · exact Json.Fields.required_eq_some rfl (DuplicateJoinPolicy.ofJson?_name _)

end CompilerSettings

namespace PreviewSettings

variable {json : Json} {settings : PreviewSettings}

theorem ofJson?_eq_some_iff : ofJson? json = some settings ↔
    ∃ fields, json.fields? ["debounce_ms"] = some fields ∧
      fields.required "debounce_ms" Json.asUInt64? = some settings.debounceMs := by
  obtain ⟨debounceMs⟩ := settings
  simp [ofJson?, Option.bind_eq_some_iff]

theorem ofJson?_toJson (settings : PreviewSettings) : ofJson? settings.toJson = some settings := by
  refine ofJson?_eq_some_iff.mpr ⟨_, Json.fields?_members (by simp) (by simp), ?_⟩
  exact Json.Fields.required_eq_some rfl (Json.asUInt64?_ofNat _)

end PreviewSettings

namespace ExecutionSettings

variable {json : Json} {settings : ExecutionSettings}

theorem ofJson?_eq_some_iff : ofJson? json = some settings ↔
    ∃ fields, json.fields? ["page_size", "timeout_ms", "poll_interval_ms", "max_poll_attempts"] =
        some fields ∧
      fields.required "page_size" Json.asUInt32? = some settings.pageSize ∧
      fields.required "timeout_ms" Json.asUInt64? = some settings.timeoutMs ∧
      fields.required "poll_interval_ms" Json.asUInt64? = some settings.pollIntervalMs ∧
      fields.required "max_poll_attempts" Json.asUInt32? = some settings.maxPollAttempts := by
  obtain ⟨pageSize, timeoutMs, pollIntervalMs, maxPollAttempts⟩ := settings
  simp [ofJson?, Option.bind_eq_some_iff]

theorem ofJson?_toJson (settings : ExecutionSettings) :
    ofJson? settings.toJson = some settings := by
  refine ofJson?_eq_some_iff.mpr ⟨_, Json.fields?_members (by simp) (by simp), ?_, ?_, ?_, ?_⟩
  · exact Json.Fields.required_eq_some rfl (Json.asUInt32?_ofNat _)
  · exact Json.Fields.required_eq_some rfl (Json.asUInt64?_ofNat _)
  · exact Json.Fields.required_eq_some rfl (Json.asUInt64?_ofNat _)
  · exact Json.Fields.required_eq_some rfl (Json.asUInt32?_ofNat _)

end ExecutionSettings

namespace SuggestionSettings

variable {json : Json} {settings : SuggestionSettings}

theorem ofJson?_eq_some_iff : ofJson? json = some settings ↔
    ∃ fields, json.fields? ["auto_apply", "min_confidence"] = some fields ∧
      fields.required "auto_apply" Json.asBool? = some settings.autoApply ∧
      fields.required "min_confidence" Json.asBinary64? = some settings.minConfidence := by
  obtain ⟨autoApply, minConfidence⟩ := settings
  simp [ofJson?, Option.bind_eq_some_iff]

theorem ofJson?_toJson (finite : settings.minConfidence.isFinite = true) :
    ofJson? settings.toJson = some settings := by
  refine ofJson?_eq_some_iff.mpr ⟨_, Json.fields?_members (by simp) (by simp), ?_, ?_⟩
  · exact Json.Fields.required_eq_some rfl (Json.asBool?_bool _)
  · exact Json.Fields.required_eq_some rfl (Json.asBinary64?_ofBinary64 finite)

end SuggestionSettings

namespace Settings

variable {json : Json} {settings : Settings}

theorem ofJson?_eq_some_iff : ofJson? json = some settings ↔
    ∃ fields, json.fields?
        [ "debug", "log_level", "data_source_id", "compiler", "preview", "execution",
          "suggestion", "extra" ] = some fields ∧
      fields.required "debug" Json.asBool? = some settings.debug ∧
      fields.required "log_level" Json.asString? = some settings.logLevel ∧
      fields.required "data_source_id" Json.asString? = some settings.dataSourceId ∧
      fields.required "compiler" CompilerSettings.ofJson? = some settings.compiler ∧
      fields.required "preview" PreviewSettings.ofJson? = some settings.preview ∧
      fields.required "execution" ExecutionSettings.ofJson? = some settings.execution ∧
      fields.required "suggestion" SuggestionSettings.ofJson? = some settings.suggestion ∧
      fields.required "extra" Json.asMembers? = some settings.extra := by
  obtain ⟨debug, logLevel, dataSourceId, compiler, preview, execution, suggestion, extra⟩ :=
    settings
  simp [ofJson?, Option.bind_eq_some_iff, -Bool.exists_bool]

theorem ofJson?_toJson (finite : settings.suggestion.minConfidence.isFinite = true) :
    ofJson? settings.toJson = some settings := by
  refine ofJson?_eq_some_iff.mpr
    ⟨_, Json.fields?_members (by simp) (by simp), ?_, ?_, ?_, ?_, ?_, ?_, ?_, ?_⟩
  · exact Json.Fields.required_eq_some rfl (Json.asBool?_bool _)
  · exact Json.Fields.required_eq_some rfl (Json.asString?_string _)
  · exact Json.Fields.required_eq_some rfl (Json.asString?_string _)
  · exact Json.Fields.required_eq_some rfl settings.compiler.ofJson?_toJson
  · exact Json.Fields.required_eq_some rfl settings.preview.ofJson?_toJson
  · exact Json.Fields.required_eq_some rfl settings.execution.ofJson?_toJson
  · exact Json.Fields.required_eq_some rfl (SuggestionSettings.ofJson?_toJson finite)
  · exact Json.Fields.required_eq_some rfl rfl

end Settings

end QueryComposer
