import QueryComposer.Command.Arguments
import QueryComposer.Query.Snapshot
import QueryComposer.Settings.Check
import QueryComposer.Settings.Environment
import QueryComposer.Settings.Layer
import QueryComposer.Template.Record

set_option autoImplicit false

/-!
The commands: compiling a query, listing the parameters of an SQL text, rendering a template and
checking settings. They are functions of the arguments, the environment and the contents of files.
-/

namespace QueryComposer

open QueryComposer.Text

/-- The contents of the files that there are. -/
abbrev Files := String → Option String

/-- What a command prints, and why it fails if it does. -/
structure CommandResult where
  output : String := ""
  failure : Option Error := none
deriving Repr

/-- How a run of the program ends. -/
structure RunResult where
  exitCode : UInt32
  output : String
  failure : Option String
deriving DecidableEq, Repr

namespace Command

/-- A text as a line of its own. -/
def line (text : String) : String :=
  text ++ "\n"

/-- A data value in lines of its own. -/
def jsonLines (json : Json) : String :=
  line json.renderPretty

/-- The contents of a file that has to be there. -/
def readFile (files : Files) (path : String) : Except Error String :=
  match files path with
  | some contents => .ok contents
  | none => .error (.missingFile path)

/-! ### Compiling -/

def compileFile (files : Files) (path : String) (settings : Settings) :
    Except Error CompiledQuery :=
  match readFile files path with
  | .error error => .error error
  | .ok text =>
    match Query.restore text with
    | .error error => .error (.invalidSnapshot error)
    | .ok query => .ok (query.compile settings.compiler)

/-- Print the SQL of the query in a file. -/
def runCompile (files : Files) (path : String) (asJson : Bool) (settings : Settings) :
    CommandResult :=
  match compileFile files path settings with
  | .error error => { failure := some error }
  | .ok compiled =>
    { output :=
        if asJson then jsonLines compiled.toJson
        else if compiled.sql = "" then "" else line compiled.sql
      failure := if compiled.isValid then none else some (.notCompiled compiled.faults) }

/-! ### Parameters -/

/-- A text with blanks after it up to a width. -/
def padRight (width : Nat) (text : String) : String :=
  text ++ String.ofList (List.replicate (width - text.length) ' ')

/-- One line for each parameter, with its name, type and kind below each other. -/
def parameterTable (parameters : List Parameter) : String :=
  let width := parameters.foldl (fun widest parameter =>
    max widest (byteLength parameter.name.toList)) 0
  join "\n" (parameters.map (fun parameter =>
    padRight width parameter.name ++ "  " ++ padRight 7 parameter.type.name ++ "  " ++
      parameter.kind.name))

/-- Print the parameters of the SQL text in a file. -/
def runParameters (files : Files) (path : String) (asJson : Bool) : CommandResult :=
  match readFile files path with
  | .error error => { failure := some error }
  | .ok sql =>
    let parameters := Parameter.extract sql
    { output :=
        if asJson then jsonLines (.array (parameters.map Parameter.toJson))
        else if parameters.isEmpty then "" else line (parameterTable parameters) }

/-! ### Rendering -/

/-- A name and a value with an equals sign between them. The name has no white space around it. -/
def parseAssignment (text : String) : Except Error (String × String) :=
  match splitOnce? '=' text with
  | some (name, value) =>
    if isBlankText name then .error (.malformedAssignment text) else .ok (trim name, value)
  | none => .error (.malformedAssignment text)

/-- The value that a text is for a parameter: for a list, the pieces between commas that are not
blank. -/
def assignedValue (type : ValueType) (text : String) : Value :=
  if type = .array then
    .ofList .string (((split ',' text).map trim).filter (fun piece => piece ≠ ""))
  else .string text

def assignedValues (record : TemplateRecord) (template : Template) (values : ParameterValues) :
    List (String × String) → Except Error ParameterValues
  | [] => .ok values
  | (name, text) :: assignments =>
    match Parameter.find? template.parameters name with
    | none => .error (.unknownTemplateParameter record.name name)
    | some parameter =>
      assignedValues record template (values.set name (assignedValue parameter.type text))
        assignments

/-- Render the template of a file with assigned values. -/
def renderFile (files : Files) (path : String) (assignments : List (String × String))
    (settings : Settings) : Except Error String :=
  match readFile files path with
  | .error error => .error error
  | .ok text =>
    match TemplateRecord.read? text with
    | none => .error .malformedTemplate
    | some record =>
      let template := record.template
      match assignedValues record template [] assignments with
      | .error error => .error error
      | .ok values => template.applyValidated {} values settings.compiler.literalPolicy

/-- Print the template of a file with assigned values. -/
def runRender (files : Files) (path : String) (assignments : List String) (settings : Settings) :
    CommandResult :=
  let rendered : Except Error String :=
    match assignments.mapM parseAssignment with
    | .error error => .error error
    | .ok assigned => renderFile files path assigned settings
  match rendered with
  | .error error => { failure := some error }
  | .ok sql => { output := line sql }

/-! ### Checking -/

/-- Print the findings about the settings. -/
def runCheck (asJson : Bool) (settings : Settings) : CommandResult :=
  let findings := settings.findings
  let errors := Settings.errorCount findings
  { output := if asJson then jsonLines (.array (findings.map Finding.toJson)) else ""
    failure := if errors = 0 then none else some (.failedChecks errors) }

def run (files : Files) (settings : Settings) : Command → CommandResult
  | .compile file asJson => runCompile files file asJson settings
  | .parameters file asJson => runParameters files file asJson
  | .render file assignments => runRender files file assignments settings
  | .check asJson => runCheck asJson settings

end Command

namespace Invocation

/-- The settings of an invocation: those of its settings file, if it names one, with the
environment's say. -/
def settings (invocation : Invocation) (files : Files) (environment : Settings.Environment) :
    Except Error Settings :=
  let base : Except Error Settings :=
    match invocation.settingsFile with
    | none => .ok {}
    | some path => Settings.ofFile (.ofPath path) path (files path)
  base.map (fun settings => settings.withEnvironment environment)

/-- The files that an invocation may read. -/
def filesNeeded (invocation : Invocation) : List String :=
  let input := match invocation.command with
    | .compile file _ => [file]
    | .parameters file _ => [file]
    | .render file _ => [file]
    | .check _ => []
  invocation.settingsFile.toList ++ input

/-- Run what the command line asks for. -/
def run (invocation : Invocation) (files : Files) (environment : Settings.Environment) :
    RunResult :=
  match invocation.settings files environment with
  | .error error => { exitCode := 1, output := "", failure := some error.message }
  | .ok settings =>
    let result := invocation.command.run files settings
    { exitCode := if result.failure.isNone then 0 else 1
      output := result.output
      failure := result.failure.map Error.message }

end Invocation

namespace UsageStop

/-- How a run ends for which there is nothing to do. -/
def toResult : UsageStop → RunResult
  | .help => { exitCode := 0, output := "", failure := none }
  | .misuse => { exitCode := 2, output := "", failure := none }

end UsageStop

def runProgram (arguments : List String) (files : Files) (environment : Settings.Environment) :
    RunResult :=
  match Invocation.ofArguments arguments with
  | .error stop => stop.toResult
  | .ok invocation => invocation.run files environment

end QueryComposer
