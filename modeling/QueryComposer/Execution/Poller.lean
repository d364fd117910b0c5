import QueryComposer.Execution.Status
import QueryComposer.Settings.Basic

set_option autoImplicit false

/-!
Waiting for a query by checking its status at intervals, until it is done, the checks are used up or
the waiting is stopped. Times are counted in milliseconds from the start of the waiting.
-/

namespace QueryComposer

/-- How the waiting ended. -/
inductive PollOutcome
  | finished (status : ExecutionStatus)
  | timeout (checks : UInt32)
  | stopped
deriving DecidableEq, Repr

namespace PollOutcome

/-- The last status of the query, unless the query failed or it is not known. -/
def toResult : PollOutcome → Except Error ExecutionStatus
  | .finished (.error message) => .error (.serviceFailed message)
  | .finished status => .ok status
  | .timeout checks => .error (.stillRunning checks)
  | .stopped => .error .pollingStopped

def toJson : PollOutcome → Json
  | .finished status => .object [("finished", status.toJson)]
  | .timeout checks => .object [("timeout", .ofNat checks.toNat)]
  | .stopped => .string "stopped"

end PollOutcome

/-- The time between two checks, and how many checks there are at most. -/
structure Poller where
  interval : UInt64
  maxAttempts : UInt32
deriving DecidableEq, Repr

/-- How the waiting went: its end, the number of checks and the time it took. -/
structure PollRun where
  outcome : PollOutcome
  checks : Nat
  elapsed : Nat
deriving DecidableEq, Repr

namespace Poller

def ofSettings (settings : ExecutionSettings) : Poller :=
  { interval := settings.pollIntervalMs, maxAttempts := settings.maxPollAttempts }

/-- The waiting is stopped before the given time. -/
def stopsBefore (stopAt : Option Nat) (time : Nat) : Option Nat :=
  stopAt.filter (fun stop => stop < time)

/-- The rest of the waiting after some checks. Each check comes after one interval and has the
answer of its number; a check that fails tells nothing. -/
def runFrom (poller : Poller) (answer : Nat → Except Error ExecutionStatus)
    (stopAt : Option Nat) (checks : Nat) : Nat → PollRun
  | 0 =>
    { outcome := .timeout poller.maxAttempts, checks, elapsed := checks * poller.interval.toNat }
  | left + 1 =>
    let start := checks * poller.interval.toNat
    let due := start + poller.interval.toNat
    match stopsBefore stopAt (max due (start + 1)) with
    | some stop => { outcome := .stopped, checks, elapsed := max stop start }
    | none =>
      match answer checks with
      | .ok status =>
        if status.isTerminal then
          { outcome := .finished status, checks := checks + 1, elapsed := due }
        else runFrom poller answer stopAt (checks + 1) left
      | .error _ => runFrom poller answer stopAt (checks + 1) left

/-- Wait for a query, given the answers to the checks and when the waiting is stopped, if it is. -/
def run (poller : Poller) (answer : Nat → Except Error ExecutionStatus) (stopAt : Option Nat) :
    PollRun :=
  poller.runFrom answer stopAt 0 poller.maxAttempts.toNat

/-- How many of the checks of a run were made before a time. Checks without an interval are all
made at the start. -/
def checksBefore (poller : Poller) (finished : PollRun) (time : Nat) : Nat :=
  if time = 0 then 0
  else if poller.interval = 0 then finished.checks
  else min finished.checks ((time - 1) / poller.interval.toNat)

end Poller

end QueryComposer
