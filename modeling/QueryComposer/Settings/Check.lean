import QueryComposer.Settings.Basic
import QueryComposer.Text.Basic

set_option autoImplicit false

/-!
Checks of settings for values with which the composer would not work as meant.
-/

namespace QueryComposer

open QueryComposer.Number

/-- How serious a finding is. -/
inductive FindingLevel
  | warning
  | error
deriving DecidableEq, Repr

namespace FindingLevel

def name : FindingLevel → String
  | .warning => "WARNING"
  | .error => "ERROR"

end FindingLevel

/-- A finding about settings, and what to do about it. -/
structure Finding where
  level : FindingLevel
  id : String
  message : String
  hint : String
deriving DecidableEq, Repr

namespace Finding

def toJson (finding : Finding) : Json :=
  .object [("level", .string finding.level.name), ("msg", .string finding.message),
    ("hint", .string finding.hint), ("id", .string finding.id)]

end Finding

namespace Settings

/-- The shortest time after which previews should be compiled. -/
def shortestDebounce : UInt64 := 50

/-- The longest time after which previews should be compiled. -/
def longestDebounce : UInt64 := 5000

/-- A finding if the condition holds. -/
def findingIf (condition : Bool) (finding : Finding) : List Finding :=
  if condition then [finding] else []

/-- The value lies between zero and one. -/
def isConfidence (value : Binary64) : Bool :=
  (Binary64.zero false).le value && value.le (.ofInt 1)

/-- The findings about how queries are executed. -/
def executionFindings (settings : ExecutionSettings) : List Finding :=
  findingIf (settings.pollIntervalMs = 0)
    { level := .error, id := "execution.E001", message := "poll_interval_ms is 0",
      hint := "Status polling would spin without waiting; use at least a few hundred milliseconds" }
  ++ findingIf (settings.maxPollAttempts = 0)
    { level := .error, id := "execution.E002", message := "max_poll_attempts is 0",
      hint := "Every execution would time out before its first status check" }
  ++ findingIf (settings.pageSize = 0)
    { level := .error, id := "execution.E003", message := "page_size is 0",
      hint := "Set a positive page size" }

/-- The findings about previews. -/
def previewFindings (settings : PreviewSettings) : List Finding :=
  let delay := settings.debounceMs
  findingIf (delay < shortestDebounce || longestDebounce < delay)
    { level := .warning, id := "preview.W001",
      message :=
        s!"debounce_ms is {delay.toNat}, outside " ++
          s!"{shortestDebounce.toNat}..={longestDebounce.toNat}",
      hint := "Previews either recompile on every edit or feel unresponsive" }

/-- The findings about suggestions. -/
def suggestionFindings (settings : SuggestionSettings) : List Finding :=
  findingIf (!isConfidence settings.minConfidence)
    { level := .error, id := "suggestion.E001",
      message := s!"min_confidence is {settings.minConfidence.display}, outside [0, 1]",
      hint := "Confidence scores range from 0 to 1" }

/-- All findings about settings. -/
def findings (settings : Settings) : List Finding :=
  executionFindings settings.execution ++ previewFindings settings.preview ++
    suggestionFindings settings.suggestion ++
    findingIf (Text.isBlankText settings.dataSourceId)
      { level := .warning, id := "core.W001", message := "data_source_id is empty",
        hint := "Metadata, suggestion and execution calls need a data source" }

/-- How many findings are errors. -/
def errorCount (findings : List Finding) : Nat :=
  (findings.filter (fun finding => finding.level = .error)).length

end Settings

end QueryComposer
