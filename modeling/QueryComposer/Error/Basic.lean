import QueryComposer.Error.Validation
import QueryComposer.Query.Join
import QueryComposer.Sql.Diagnostic

set_option autoImplicit false

/-!
The ways in which an operation can fail, as causes, and the one function that words them.
-/

namespace QueryComposer

open QueryComposer.Text

/-! ### Kinds -/

/-- The kinds of failure. -/
inductive ErrorKind
  | invalidJoin
  | unknownTable
  | unknownColumn
  | unknownJoin
  | unknownCondition
  | invalidCondition
  | compile
  | template
  | validation
  | service
  | timeout
  | configuration
  | serialization
  | io
deriving DecidableEq, Repr

namespace ErrorKind

def all : List ErrorKind :=
  [ .invalidJoin, .unknownTable, .unknownColumn, .unknownJoin, .unknownCondition, .invalidCondition,
    .compile, .template, .validation, .service, .timeout, .configuration, .serialization, .io ]

/-- The words that introduce a failure of the kind. -/
def heading : ErrorKind → String
  | .invalidJoin => "Invalid join"
  | .unknownTable => "Unknown table"
  | .unknownColumn => "Unknown column"
  | .unknownJoin => "Unknown join"
  | .unknownCondition => "Unknown condition"
  | .invalidCondition => "Invalid condition"
  | .compile => "Compile error"
  | .template => "Template error"
  | .validation => "Validation error"
  | .service => "Service error"
  | .timeout => "Timed out"
  | .configuration => "Configuration error"
  | .serialization => "Serialization error"
  | .io => "IO error"

/-- A change of what was entered can help. -/
def isRecoverable : ErrorKind → Bool
  | .validation | .invalidJoin | .invalidCondition | .compile | .template => true
  | _ => false

/-- A failure of the kind, with what is particular about it. -/
def describe (kind : ErrorKind) (detail : String) : String :=
  kind.heading ++ ": " ++ detail

end ErrorKind

/-! ### Causes -/

/-- The formats of settings files. -/
inductive SettingsFormat
  | toml
  | json
deriving DecidableEq, Repr

namespace SettingsFormat

def name : SettingsFormat → String
  | .toml => "TOML"
  | .json => "JSON"

end SettingsFormat

/-- The cause of a failure. -/
inductive Error
  | selfJoin
  | columnBeforeTable (side : JoinSide)
  | unknownTable (id : TableId)
  | unknownColumn (table column : String)
  | noGroupByEntry (index : Nat)
  | noOrderByEntry (index : Nat)
  | unknownJoin (id : JoinId)
  | conditionOutOfRange (index size : Nat)
  | conditionNotLeaf (index : Nat)
  | conditionNotGroup (index : Nat)
  | operatorNotApplicable (operator : Operator) (type : ValueType) (column : String)
  | wrongShape (operator : Operator)
  | notCompiled (faults : List QueryFault)
  | nothingToExecute
  | missingValue (parameter : String)
  | unknownParameter (parameter : String)
  | unknownTemplate (id : Uuid)
  | unknownTemplateParameter (template parameter : String)
  | validation (report : ValidationError)
  | serviceFailed (reason : String)
  | pollingStopped
  | stillRunning (checks : UInt32)
  | malformedSettings (format : SettingsFormat)
  | unfitSettings (format : SettingsFormat)
  | missingSettings (format : SettingsFormat) (path : String)
  | malformedAssignment (text : String)
  | failedChecks (count : Nat)
  | malformedData
  | repeatedTable (id : TableId)
  | repeatedJoin (id : JoinId)
  | malformedTemplate
  | invalidSnapshot (cause : Error)
  | missingFile (path : String)
deriving Repr

namespace Error

/-- The kind that a cause belongs to. -/
def kind : Error → ErrorKind
  | .selfJoin | .columnBeforeTable _ => .invalidJoin
  | .unknownTable _ => .unknownTable
  | .unknownColumn .. | .noGroupByEntry _ | .noOrderByEntry _ => .unknownColumn
  | .unknownJoin _ => .unknownJoin
  | .conditionOutOfRange .. | .conditionNotLeaf _ | .conditionNotGroup _ => .unknownCondition
  | .operatorNotApplicable .. | .wrongShape _ => .invalidCondition
  | .notCompiled _ | .nothingToExecute => .compile
  | .missingValue _ | .unknownParameter _ | .unknownTemplate _ | .unknownTemplateParameter .. =>
    .template
  | .validation _ => .validation
  | .serviceFailed _ | .pollingStopped => .service
  | .stillRunning _ => .timeout
  | .malformedSettings _ | .unfitSettings _ | .missingSettings .. | .malformedAssignment _
  | .failedChecks _ => .configuration
  | .malformedData | .repeatedTable _ | .repeatedJoin _ | .malformedTemplate
  | .invalidSnapshot _ => .serialization
  | .missingFile _ => .io

/-- A change of what was entered can help. -/
def isRecoverable (error : Error) : Bool :=
  error.kind.isRecoverable

/-- The name of an arity in a text for a reader. -/
def arityWord : Arity → String
  | .none => "None"
  | .single => "Single"
  | .list => "List"
  | .range => "Range"

/-- Why a file that is not there cannot be read. -/
def noSuchFile : String := "No such file or directory (os error 2)"

/-- What went wrong, for a reader. -/
def message : Error → String
  | .selfJoin => ErrorKind.invalidJoin.describe "a table cannot be joined to itself"
  | .columnBeforeTable side =>
    ErrorKind.invalidJoin.describe s!"choose the {side.name} table before its column"
  | .unknownTable id => ErrorKind.unknownTable.describe id.render
  | .unknownColumn table column => ErrorKind.unknownColumn.describe (table ++ "." ++ column)
  | .noGroupByEntry index => ErrorKind.unknownColumn.describe s!"group-by entry {index}"
  | .noOrderByEntry index => ErrorKind.unknownColumn.describe s!"order-by entry {index}"
  | .unknownJoin id => ErrorKind.unknownJoin.describe id.render
  | .conditionOutOfRange index size =>
    ErrorKind.unknownCondition.describe s!"index {index} out of range for a group of {size}"
  | .conditionNotLeaf index =>
    ErrorKind.unknownCondition.describe s!"condition {index} is a group, not a leaf"
  | .conditionNotGroup index =>
    ErrorKind.unknownCondition.describe s!"condition {index} is a leaf, not a group"
  | .operatorNotApplicable operator type column =>
    ErrorKind.invalidCondition.describe
      s!"operator {operator.symbol} does not apply to {type.name} column '{column}'"
  | .wrongShape operator =>
    ErrorKind.invalidCondition.describe
      s!"operator {operator.symbol} expects a {arityWord operator.arity} value"
  | .notCompiled faults =>
    ErrorKind.compile.describe (join "; " (faults.map QueryFault.message))
  | .nothingToExecute => ErrorKind.compile.describe "no SQL to execute"
  | .missingValue parameter =>
    ErrorKind.template.describe s!"no value for parameter '{parameter}'"
  | .unknownParameter parameter => ErrorKind.template.describe s!"no parameter named '{parameter}'"
  | .unknownTemplate id => ErrorKind.template.describe s!"no template with id {id.render}"
  | .unknownTemplateParameter template parameter =>
    ErrorKind.template.describe s!"template '{template}' has no parameter '{parameter}'"
  | .validation report => ErrorKind.validation.describe report.message
  | .serviceFailed reason => ErrorKind.service.describe reason
  | .pollingStopped => ErrorKind.service.describe "polling stopped"
  | .stillRunning checks =>
    ErrorKind.timeout.describe s!"query still running after {checks.toNat} status checks"
  | .malformedSettings format =>
    ErrorKind.configuration.describe s!"invalid {format.name} settings"
  | .unfitSettings format =>
    ErrorKind.configuration.describe s!"{format.name} settings do not fit"
  | .missingSettings format path =>
    ErrorKind.configuration.describe s!"cannot read {format.name} settings '{path}': {noSuchFile}"
  | .malformedAssignment text =>
    ErrorKind.configuration.describe s!"expected name=value, got '{text}'"
  | .failedChecks count =>
    ErrorKind.configuration.describe s!"configuration check found {count} error(s)"
  | .malformedData => ErrorKind.serialization.heading
  | .repeatedTable id =>
    ErrorKind.serialization.describe s!"snapshot lists table {id.render} twice"
  | .repeatedJoin id => ErrorKind.serialization.describe s!"snapshot lists join {id.render} twice"
  | .malformedTemplate => ErrorKind.serialization.describe "invalid template"
  | .invalidSnapshot cause =>
    ErrorKind.serialization.describe s!"invalid model snapshot: {cause.message}"
  | .missingFile path => ErrorKind.io.describe s!"failed to read {path}: {noSuchFile}"

end Error

end QueryComposer
