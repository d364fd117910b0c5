import QueryComposer.Text.Basic

set_option autoImplicit false

/-!
The arguments of the command line: one of four commands with its options, and an option for the
settings file that may stand before or after the command.
-/

namespace QueryComposer

/-- A command with its arguments. -/
inductive Command
  | compile (file : String) (asJson : Bool)
  | parameters (file : String) (asJson : Bool)
  | render (file : String) (assignments : List String)
  | check (asJson : Bool)
deriving DecidableEq, Repr

/-- What the command line asks for. -/
structure Invocation where
  command : Command
  settingsFile : Option String
deriving DecidableEq, Repr

/-- Why there is nothing to do: help was asked for, or the arguments are not understood. -/
inductive UsageStop
  | help
  | misuse
deriving DecidableEq, Repr

namespace Invocation

open QueryComposer.Text

/-- The names of the commands. -/
inductive CommandName
  | compile
  | parameters
  | render
  | check
deriving DecidableEq, Repr

namespace CommandName

def ofText? (text : String) : Option CommandName :=
  List.lookup text
    [("compile", .compile), ("params", .parameters), ("render", .render), ("check", .check)]

def takesFile : CommandName → Bool
  | .check => false
  | _ => true

/-- The command can give its answer as data. -/
def hasJson : CommandName → Bool
  | .render => false
  | _ => true

end CommandName

/-- The options. -/
inductive Flag
  | config
  | param
  | json
  | help
deriving DecidableEq, Repr

def longFlag? (name : String) : Option Flag :=
  List.lookup name [("config", .config), ("param", .param), ("json", .json), ("help", .help)]

def shortFlag? (letter : Char) : Option Flag :=
  List.lookup letter [('c', .config), ('p', .param), ('h', .help)]

/-- The option can be given where the command is as said, or not named yet. -/
def Flag.isKnown (flag : Flag) (command : Option CommandName) : Bool :=
  match flag with
  | .config => true
  | .help => true
  | .param => command = some .render
  | .json => command.any CommandName.hasJson

/-- An argument as it is written. -/
inductive Word
  | long (name : String) (value : Option String)
  | short (letter : Char) (rest : List Char)
  | plain (text : String)
  | endOfOptions
deriving DecidableEq, Repr

/-- The way in which an argument is written. -/
def Word.ofText (text : String) : Word :=
  match text.toList with
  | ['-', '-'] => .endOfOptions
  | '-' :: '-' :: rest =>
    match splitOnce? '=' (String.ofList rest) with
    | some (name, value) => .long name (some value)
    | none => .long (String.ofList rest) none
  | '-' :: letter :: rest => .short letter rest
  | _ => .plain text

/-- What was taken from the arguments so far. The settings file may be given once before and once
after the command's name. An option that takes a value and has none yet awaits the next argument;
after the end of the options every argument is an operand. -/
structure Progress where
  command : Option CommandName := none
  outerSettings : Option String := none
  innerSettings : Option String := none
  file : Option String := none
  asJson : Bool := false
  assignments : List String := []
  awaiting : Option Flag := none
  operandsOnly : Bool := false
deriving DecidableEq, Repr

namespace Progress

/-- The value of an option that takes one. -/
def takeValue (progress : Progress) (flag : Flag) (value : String) :
    Except UsageStop Progress :=
  match flag with
  | .config =>
    if progress.command.isNone then
      if progress.outerSettings.isSome then .error .misuse
      else .ok { progress with outerSettings := some value }
    else if progress.innerSettings.isSome then .error .misuse
    else .ok { progress with innerSettings := some value }
  | .param => .ok { progress with assignments := progress.assignments ++ [value] }
  | _ => .error .misuse

/-- An option that takes no value. -/
def takeSwitch (progress : Progress) : Except UsageStop Progress :=
  if progress.asJson then .error .misuse else .ok { progress with asJson := true }

/-- An argument that is no option: the name of the command, or its file. -/
def takePlain (progress : Progress) (text : String) : Except UsageStop Progress :=
  match progress.command with
  | none =>
    if text = "help" then .error .help
    else
      match CommandName.ofText? text with
      | some command => .ok { progress with command := some command }
      | none => .error .misuse
  | some command =>
    if command.takesFile && progress.file.isNone then .ok { progress with file := some text }
    else .error .misuse

/-- An argument after the end of the options. -/
def takeOperand (progress : Progress) (text : String) : Except UsageStop Progress :=
  if progress.command.isNone then .error .misuse else progress.takePlain text

/-- The value that an option has in its own argument, if it has one there. A letter's value may
follow an equals sign. -/
def attachedValue? (rest : List Char) : Option String :=
  match rest with
  | [] => none
  | '=' :: value => some (String.ofList value)
  | value => some (String.ofList value)

/-- An option as it is given: its name, and the value written in the same argument. -/
def takeFlag (progress : Progress) (flag? : Option Flag) (attached : Option String) :
    Except UsageStop Progress :=
  match flag?.filter (fun flag => flag.isKnown progress.command), attached with
  | none, _ => .error .misuse
  | some .help, none => .error .help
  | some .json, none => progress.takeSwitch
  | some flag, some value => progress.takeValue flag value
  | some flag, none => .ok { progress with awaiting := some flag }

/-- The next argument. The argument after an option that awaits its value is that value, unless it
looks like an option itself. -/
def take (progress : Progress) (argument : String) : Except UsageStop Progress :=
  if progress.operandsOnly then progress.takeOperand argument
  else
    match progress.awaiting, Word.ofText argument with
    | some flag, .plain value => { progress with awaiting := none }.takeValue flag value
    | some _, _ => .error .misuse
    | none, .endOfOptions => .ok { progress with operandsOnly := true }
    | none, .long name value => progress.takeFlag (longFlag? name) value
    | none, .short 'h' _ => .error .help
    | none, .short letter rest => progress.takeFlag (shortFlag? letter) (attachedValue? rest)
    | none, .plain text => progress.takePlain text

/-- The invocation, when everything that is needed is there. -/
def finish (progress : Progress) : Except UsageStop Invocation :=
  if progress.awaiting.isSome then .error .misuse
  else
  let settingsFile := progress.innerSettings.or progress.outerSettings
  match progress.command, progress.file with
  | some .check, none => .ok { command := .check progress.asJson, settingsFile }
  | some .compile, some file => .ok { command := .compile file progress.asJson, settingsFile }
  | some .parameters, some file =>
    .ok { command := .parameters file progress.asJson, settingsFile }
  | some .render, some file => .ok { command := .render file progress.assignments, settingsFile }
  | _, _ => .error .misuse

end Progress

/-- What the arguments ask for. -/
def ofArguments (arguments : List String) : Except UsageStop Invocation := do
  let progress ← arguments.foldlM Progress.take {}
  progress.finish

end Invocation

end QueryComposer
