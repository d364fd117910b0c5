import QueryComposer.Number.Decimal
import QueryComposer.Settings.Basic

set_option autoImplicit false

/-!
Settings from the environment. A variable that does not read as a value of its setting leaves the
setting as it is.
-/

namespace QueryComposer.Settings

open QueryComposer.Text QueryComposer.Number

/-- The variables of the environment under their names. -/
abbrev Environment := List (String × String)

/-- The value of a variable. -/
def setting? (environment : Environment) (name : String) : Option String :=
  List.lookup ("QUERYCRAFT_" ++ name) environment

/-- The words for a setting that is on, in any case. -/
def isOnWord (text : String) : Bool :=
  ["true", "1", "yes", "on"].contains (toLower text)

/-- A whole number in a variable, no larger than the bound, with white space around it. -/
def number? (environment : Environment) (name : String) (bound : Nat) : Option Nat :=
  (setting? environment name).bind (fun text => readUnsigned? bound (trimChars text.toList))

/-- The literal policy in a variable. -/
def policy? (environment : Environment) : Option LiteralPolicy :=
  (setting? environment "LITERAL_POLICY").bind (fun text => (LiteralPolicy.parse text).toOption)

/-- How queries are executed, with the environment's say. -/
def executionWith (settings : ExecutionSettings) (environment : Environment) :
    ExecutionSettings :=
  let small (name : String) (default : UInt32) : UInt32 :=
    ((number? environment name (UInt32.size - 1)).map UInt32.ofNat).getD default
  let large (name : String) (default : UInt64) : UInt64 :=
    ((number? environment name (UInt64.size - 1)).map UInt64.ofNat).getD default
  { pageSize := small "PAGE_SIZE" settings.pageSize
    timeoutMs := large "TIMEOUT_MS" settings.timeoutMs
    pollIntervalMs := large "POLL_INTERVAL_MS" settings.pollIntervalMs
    maxPollAttempts := small "MAX_POLL_ATTEMPTS" settings.maxPollAttempts }

/-- The settings with the environment's say. -/
def withEnvironment (settings : Settings) (environment : Environment) : Settings :=
  let debounceMs :=
    ((number? environment "DEBOUNCE_MS" (UInt64.size - 1)).map UInt64.ofNat).getD
      settings.preview.debounceMs
  let literalPolicy := (policy? environment).getD settings.compiler.literalPolicy
  { settings with
    debug := ((setting? environment "DEBUG").map isOnWord).getD settings.debug
    logLevel := (setting? environment "LOG_LEVEL").getD settings.logLevel
    dataSourceId := (setting? environment "DATA_SOURCE").getD settings.dataSourceId
    compiler := { settings.compiler with literalPolicy }
    preview := { debounceMs }
    execution := executionWith settings.execution environment }

end QueryComposer.Settings
