import QueryComposer.Error.Basic
import QueryComposer.Json.Decode

set_option autoImplicit false

/-!
The states of a query that was submitted for execution.
-/

namespace QueryComposer

/-- The state of a submitted query. -/
inductive ExecutionStatus
  | pending
  | running
  | complete
  | error (message : String)
deriving DecidableEq, Repr

namespace ExecutionStatus

/-- The state does not change any more. -/
def isTerminal : ExecutionStatus → Bool
  | .pending => false
  | .running => false
  | .complete => true
  | .error _ => true

/-- The kinds of state. -/
inductive State
  | pending
  | running
  | complete
  | error
deriving DecidableEq, Repr

/-- The names of the kinds. -/
def stateNames : List (String × State) :=
  [("pending", .pending), ("running", .running), ("complete", .complete), ("error", .error)]

def toJson : ExecutionStatus → Json
  | .pending => .object [("state", .string "pending")]
  | .running => .object [("state", .string "running")]
  | .complete => .object [("state", .string "complete")]
  | .error message => .object [("state", .string "error"), ("message", .string message)]

/-- The state of a kind with the given content. -/
def ofState? (state : State) (content : Option Json.Content) : Option ExecutionStatus :=
  match state with
  | .pending => if Json.isAbsent content then some .pending else none
  | .running => if Json.isAbsent content then some .running else none
  | .complete => if Json.isAbsent content then some .complete else none
  | .error => (content.bind (fun inner => inner.value.asString?)).map .error

def ofJson? (json : Json) : Option ExecutionStatus :=
  (json.asTagged? .direct "state" "message" stateNames).bind (fun (state, content) =>
    ofState? state content)

end ExecutionStatus

end QueryComposer
