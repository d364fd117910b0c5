import QueryComposer.Command.Run

set_option autoImplicit false

/-!
The program: it takes its arguments, the environment and the files that the arguments name, and
prints what the run gives.
-/

namespace QueryComposer.Program

/-- The settings that the environment may have a say in. -/
def variableNames : List String :=
  [ "DEBUG", "LOG_LEVEL", "DATA_SOURCE", "LITERAL_POLICY", "DEBOUNCE_MS", "PAGE_SIZE", "TIMEOUT_MS",
    "POLL_INTERVAL_MS", "MAX_POLL_ATTEMPTS" ]

/-- The variables that are set. -/
def readEnvironment : IO Settings.Environment := do
  let found ← variableNames.mapM (fun name => do
    let value ← IO.getEnv ("QUERYCRAFT_" ++ name)
    pure (value.map (fun text => ("QUERYCRAFT_" ++ name, text))))
  pure (found.filterMap id)

/-- The contents of a file, if it can be read. -/
def readContents (path : String) : IO (Option String) := do
  try
    let contents ← IO.FS.readFile path
    pure (some contents)
  catch _ => pure none

/-- The contents of the files that the arguments name. -/
def readFiles (arguments : List String) : IO (List (String × String)) := do
  match Invocation.ofArguments arguments with
  | .error _ => pure []
  | .ok invocation =>
    let found ← invocation.filesNeeded.mapM (fun path => do
      let contents ← readContents path
      pure (contents.map (fun text => (path, text))))
    pure (found.filterMap id)

/-- Print what a run gives. -/
def report (result : RunResult) : IO UInt32 := do
  (← IO.getStdout).putStr result.output
  match result.failure with
  | none => pure ()
  | some failure => (← IO.getStderr).putStrLn ("querycraft: " ++ failure)
  pure result.exitCode

end QueryComposer.Program

/-- Run the program. -/
def main (arguments : List String) : IO UInt32 := do
  let files ← QueryComposer.Program.readFiles arguments
  let environment ← QueryComposer.Program.readEnvironment
  QueryComposer.Program.report
    (QueryComposer.runProgram arguments (fun path => files.lookup path) environment)
