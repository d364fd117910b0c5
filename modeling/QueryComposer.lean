import QueryComposer.Calendar.Date
import QueryComposer.Calendar.Reader
import QueryComposer.CharSet.Basic
import QueryComposer.CharSet.Category
import QueryComposer.CharSet.Fold
import QueryComposer.CharSet.Named
import QueryComposer.CharSet.Property
import QueryComposer.CharSet.Script
import QueryComposer.CharSet.Table
import QueryComposer.Command.Arguments
import QueryComposer.Command.Run
import QueryComposer.Entries
import QueryComposer.Error.Basic
import QueryComposer.Error.Validation
import QueryComposer.Execution.Poller
import QueryComposer.Execution.Preview
import QueryComposer.Execution.Status
import QueryComposer.FirstMatch
import QueryComposer.Json.Basic
import QueryComposer.Json.Decode
import QueryComposer.Json.Reader
import QueryComposer.Json.Token
import QueryComposer.Json.Writer
import QueryComposer.Main
import QueryComposer.Number.Binary64
import QueryComposer.Number.Decimal
import QueryComposer.Number.Shortest
import QueryComposer.Number.Stepwise
import QueryComposer.Number.Word
import QueryComposer.Operator
import QueryComposer.Parameter.Binder
import QueryComposer.Parameter.Descriptor
import QueryComposer.Parameter.Inference
import QueryComposer.Parameter.Reading
import QueryComposer.Parameter.Validator
import QueryComposer.Pattern.Basic
import QueryComposer.Pattern.Bracket
import QueryComposer.Pattern.Escape
import QueryComposer.Pattern.Mode
import QueryComposer.Pattern.Reader
import QueryComposer.Pattern.Size
import QueryComposer.Query.Basic
import QueryComposer.Query.Codec
import QueryComposer.Query.Condition
import QueryComposer.Query.ConditionEdit
import QueryComposer.Query.InPlace
import QueryComposer.Query.Join
import QueryComposer.Query.JoinEdit
import QueryComposer.Query.Snapshot
import QueryComposer.Query.Suggestion
import QueryComposer.Query.Table
import QueryComposer.Session.Basic
import QueryComposer.Session.Call
import QueryComposer.Session.Execution
import QueryComposer.Session.Services
import QueryComposer.Settings.Basic
import QueryComposer.Settings.Check
import QueryComposer.Settings.Environment
import QueryComposer.Settings.Layer
import QueryComposer.Sql.Diagnostic
import QueryComposer.Sql.JoinPlan
import QueryComposer.Sql.Lexical
import QueryComposer.Sql.Literal
import QueryComposer.Sql.Placeholder
import QueryComposer.Sql.Search
import QueryComposer.Sql.Statement
import QueryComposer.Sql.Where
import QueryComposer.Template.Basic
import QueryComposer.Template.InPlace
import QueryComposer.Template.Record
import QueryComposer.Template.Store
import QueryComposer.Text.Basic
import QueryComposer.Text.Case
import QueryComposer.Text.CaseRun
import QueryComposer.Text.Property
import QueryComposer.Toml.Document
import QueryComposer.Toml.Moment
import QueryComposer.Toml.Reader
import QueryComposer.Toml.Value
import QueryComposer.UnknownName
import QueryComposer.Uuid
import QueryComposer.Value.Basic
import QueryComposer.Value.Codec
import QueryComposer.Value.ColumnType
import QueryComposer.Proofs.JoinPlan.Step
import QueryComposer.Proofs.JoinPlan.Predicates
import QueryComposer.Proofs.JoinPlan.Scope
import QueryComposer.Proofs.JoinPlan.Closed
import QueryComposer.Proofs.JoinPlan.Components
import QueryComposer.Proofs.JoinPlan.Schedule
import QueryComposer.Proofs.JoinPlan.Rows
import QueryComposer.Proofs.JoinPlan.Rearranged
import QueryComposer.Proofs.JoinPlan.Meaning
import QueryComposer.Proofs.Where.Reading
import QueryComposer.Proofs.Where.Meaning
import QueryComposer.Proofs.Lexical.Regions
import QueryComposer.Proofs.Literal.SelfContained
import QueryComposer.Proofs.Literal.Usual
import QueryComposer.Proofs.Literal.Singular
import QueryComposer.Proofs.Placeholder.Slices
import QueryComposer.Proofs.Template.Seams
import QueryComposer.Proofs.Template.Apply
import QueryComposer.Proofs.Change.Basic
import QueryComposer.Proofs.Change.Writing
import QueryComposer.Proofs.Change.Effect
import QueryComposer.Proofs.Change.Retained
import QueryComposer.Proofs.Change.References
import QueryComposer.Proofs.Change.Removal
import QueryComposer.Proofs.Change.InPlace
import QueryComposer.Proofs.Change.Joins
import QueryComposer.Proofs.Suggestion.Merge
import QueryComposer.Proofs.Suggestion.Inquiry
import QueryComposer.Proofs.Suggestion.Stored
import QueryComposer.Proofs.Layout.Fragments
import QueryComposer.Proofs.Layout.Detached
import QueryComposer.Proofs.Layout.Operands
import QueryComposer.Proofs.Where.Pieces
import QueryComposer.Proofs.Layout.Names
import QueryComposer.Proofs.Layout.Statement
import QueryComposer.Proofs.Where.Complete
import QueryComposer.Proofs.Template.Parameters
import QueryComposer.Proofs.Layout.Filled
import QueryComposer.Proofs.Template.Filling
import QueryComposer.Proofs.Session.Operation
import QueryComposer.Proofs.Session.Submission
import QueryComposer.Proofs.Session.Parameters
import QueryComposer.Proofs.Session.SharedStore
import QueryComposer.Proofs.Template.Bound
import QueryComposer.Proofs.Template.InPlace
import QueryComposer.Proofs.Number.Digits
import QueryComposer.Proofs.Text.Split
import QueryComposer.Proofs.Json.Scan
import QueryComposer.Proofs.Json.Tokens
import QueryComposer.Proofs.Json.Nesting
import QueryComposer.Proofs.Json.Records
import QueryComposer.Proofs.Snapshot.Identity
import QueryComposer.Proofs.Snapshot.Dates
import QueryComposer.Proofs.Snapshot.Values
import QueryComposer.Proofs.Snapshot.Parts
import QueryComposer.Proofs.Snapshot.Conditions
import QueryComposer.Proofs.Snapshot.Restore
import QueryComposer.Proofs.Diagnostic.Joins
import QueryComposer.Proofs.Diagnostic.Comparisons
import QueryComposer.Proofs.Diagnostic.Complete
import QueryComposer.Proofs.Diagnostic.Qualifiers
import QueryComposer.Proofs.Condition.Edited
import QueryComposer.Proofs.Condition.Shapes
import QueryComposer.Proofs.Renaming.Plan
import QueryComposer.Proofs.Renaming.Query
import QueryComposer.Proofs.Change.Sides
import QueryComposer.Proofs.Change.Columns
import QueryComposer.Proofs.Change.Repeats
import QueryComposer.Proofs.Session.Failure
import QueryComposer.Proofs.Preview.Settled
import QueryComposer.Proofs.Preview.Task
import QueryComposer.Proofs.Polling.Answers
import QueryComposer.Proofs.Polling.Task
import QueryComposer.Proofs.Polling.Outcome
import QueryComposer.Proofs.Text.Bytes
import QueryComposer.Proofs.Placeholder.Search
import QueryComposer.Proofs.Placeholder.Places
import QueryComposer.Proofs.Pattern.Breaks
import QueryComposer.Proofs.Lexical.Masked
import QueryComposer.Proofs.Parameter.Outline
import QueryComposer.Proofs.Literal.Quoted
import QueryComposer.Proofs.Literal.Forms
import QueryComposer.Proofs.Parameter.Extraction
import QueryComposer.Proofs.Parameter.Apart
import QueryComposer.Proofs.Parameter.Binding
import QueryComposer.Proofs.Template.Revision
import QueryComposer.Proofs.Condition.Path
import QueryComposer.Proofs.Literal.Dates
import QueryComposer.Proofs.Where.Simplified
import QueryComposer.Proofs.Where.WorkList
import QueryComposer.Proofs.Template.Between
import QueryComposer.Proofs.Command.TextLists
import QueryComposer.Proofs.Json.Names
import QueryComposer.Proofs.Toml.Names
import QueryComposer.Proofs.Settings.Overlay
import QueryComposer.Proofs.Settings.Values
import QueryComposer.Proofs.Settings.Unnamed
import QueryComposer.Proofs.Settings.Reload
