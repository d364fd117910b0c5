import QueryComposer.Json.Decode
import QueryComposer.Query.Suggestion
import QueryComposer.Sql.Statement

set_option autoImplicit false

/-!
The settings of the composer, with their defaults, as data values and back.
-/

namespace QueryComposer

/-- When the preview of a query is compiled anew. -/
structure PreviewSettings where
  debounceMs : UInt64 := 400
deriving DecidableEq, Repr

/-- How queries are executed. -/
structure ExecutionSettings where
  pageSize : UInt32 := 100
  timeoutMs : UInt64 := 30000
  pollIntervalMs : UInt64 := 1000
  maxPollAttempts : UInt32 := 30
deriving DecidableEq, Repr

/-- All settings, with values for other purposes under names of their own. -/
structure Settings where
  debug : Bool := true
  logLevel : String := "info"
  dataSourceId : String := "default"
  compiler : CompilerSettings := {}
  preview : PreviewSettings := {}
  execution : ExecutionSettings := {}
  suggestion : SuggestionSettings := {}
  extra : List (String × Json) := []
deriving Repr

/-! ### Data values -/

namespace LiteralPolicy

def ofJson? : Json → Option LiteralPolicy :=
  Json.asChoice? (all.map (fun policy => (policy.name, policy)))

end LiteralPolicy

namespace DuplicateJoinPolicy

def ofJson? : Json → Option DuplicateJoinPolicy :=
  Json.asChoice? (all.map (fun policy => (policy.name, policy)))

end DuplicateJoinPolicy

namespace CompilerSettings

def toJson (settings : CompilerSettings) : Json :=
  .object [("literal_policy", .string settings.literalPolicy.name),
    ("duplicate_joins", .string settings.duplicateJoins.name)]

def ofJson? (json : Json) : Option CompilerSettings := do
  let fields ← json.fields? ["literal_policy", "duplicate_joins"]
  let literalPolicy ← fields.required "literal_policy" LiteralPolicy.ofJson?
  let duplicateJoins ← fields.required "duplicate_joins" DuplicateJoinPolicy.ofJson?
  some { literalPolicy, duplicateJoins }

end CompilerSettings

namespace PreviewSettings

def toJson (settings : PreviewSettings) : Json :=
  .object [("debounce_ms", .ofNat settings.debounceMs.toNat)]

def ofJson? (json : Json) : Option PreviewSettings := do
  let fields ← json.fields? ["debounce_ms"]
  let debounceMs ← fields.required "debounce_ms" Json.asUInt64?
  some { debounceMs }

end PreviewSettings

namespace ExecutionSettings

def toJson (settings : ExecutionSettings) : Json :=
  .object [("page_size", .ofNat settings.pageSize.toNat),
    ("timeout_ms", .ofNat settings.timeoutMs.toNat),
    ("poll_interval_ms", .ofNat settings.pollIntervalMs.toNat),
    ("max_poll_attempts", .ofNat settings.maxPollAttempts.toNat)]

def ofJson? (json : Json) : Option ExecutionSettings := do
  let fields ← json.fields? ["page_size", "timeout_ms", "poll_interval_ms", "max_poll_attempts"]
  let pageSize ← fields.required "page_size" Json.asUInt32?
  let timeoutMs ← fields.required "timeout_ms" Json.asUInt64?
  let pollIntervalMs ← fields.required "poll_interval_ms" Json.asUInt64?
  let maxPollAttempts ← fields.required "max_poll_attempts" Json.asUInt32?
  some { pageSize, timeoutMs, pollIntervalMs, maxPollAttempts }

end ExecutionSettings

namespace SuggestionSettings

def toJson (settings : SuggestionSettings) : Json :=
  .object [("auto_apply", .bool settings.autoApply),
    ("min_confidence", .ofBinary64 settings.minConfidence)]

def ofJson? (json : Json) : Option SuggestionSettings := do
  let fields ← json.fields? ["auto_apply", "min_confidence"]
  let autoApply ← fields.required "auto_apply" Json.asBool?
  let minConfidence ← fields.required "min_confidence" Json.asBinary64?
  some { autoApply, minConfidence }

end SuggestionSettings

namespace Settings

def toJson (settings : Settings) : Json :=
  .object [("debug", .bool settings.debug), ("log_level", .string settings.logLevel),
    ("data_source_id", .string settings.dataSourceId), ("compiler", settings.compiler.toJson),
    ("preview", settings.preview.toJson), ("execution", settings.execution.toJson),
    ("suggestion", settings.suggestion.toJson), ("extra", .object settings.extra)]

def ofJson? (json : Json) : Option Settings := do
  let fields ← json.fields?
    [ "debug", "log_level", "data_source_id", "compiler", "preview", "execution", "suggestion",
      "extra" ]
  let debug ← fields.required "debug" Json.asBool?
  let logLevel ← fields.required "log_level" Json.asString?
  let dataSourceId ← fields.required "data_source_id" Json.asString?
  let compiler ← fields.required "compiler" CompilerSettings.ofJson?
  let preview ← fields.required "preview" PreviewSettings.ofJson?
  let execution ← fields.required "execution" ExecutionSettings.ofJson?
  let suggestion ← fields.required "suggestion" SuggestionSettings.ofJson?
  let extra ← fields.required "extra" Json.asMembers?
  some
    { debug, logLevel, dataSourceId, compiler, preview, execution, suggestion, extra }

end Settings

end QueryComposer
