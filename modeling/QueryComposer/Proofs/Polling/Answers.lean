import Mathlib.Order.Monotone.Basic
import QueryComposer.Execution.Poller

set_option autoImplicit false

/-!
The answers to the checks of a query's status, the first terminal one among them, and the time that
the checks take with the waits before them. The waiting for a query is taken up check by check.
-/

namespace QueryComposer

/-- The terminal status that an answer tells, if it tells one. -/
def terminal? : Except Error ExecutionStatus → Option ExecutionStatus
  | .ok status => if status.isTerminal then some status else none
  | .error _ => none

/-- What the checks are answered, by their number from zero, and the time until each answer. -/
structure StatusScript where
  answer : Nat → Except Error ExecutionStatus
  delay : Nat → Nat := fun _ => 0

namespace StatusScript

/-- The first terminal status that some first checks tell. -/
def firstTerminal? (script : StatusScript) (checks : Nat) : Option ExecutionStatus :=
  (List.range checks).findSome? (fun check => terminal? (script.answer check))

/-- The time that some first checks take with the waits before them. -/
def spent (script : StatusScript) (poller : Poller) : Nat → Nat
  | 0 => 0
  | checks + 1 => spent script poller checks + poller.interval.toNat + script.delay checks

/-- The time of a check: the end of the wait before it. -/
def askedAt (script : StatusScript) (poller : Poller) (check : Nat) : Nat :=
  script.spent poller check + poller.interval.toNat

variable {script : StatusScript} {poller : Poller} {check checks : Nat}

theorem firstTerminal?_succ (script : StatusScript) (checks : Nat) :
    script.firstTerminal? (checks + 1) =
      (script.firstTerminal? checks).or (terminal? (script.answer checks)) := by
  rw [firstTerminal?, List.range_succ, List.findSome?_append, List.findSome?_singleton]
  rfl

theorem firstTerminal?_eq_none_iff :
    script.firstTerminal? checks = none ↔
      ∀ check < checks, terminal? (script.answer check) = none := by
  simp only [firstTerminal?, List.findSome?_eq_none_iff, List.mem_range]

theorem spent_mono (script : StatusScript) (poller : Poller) : Monotone (script.spent poller) := by
  refine monotone_nat_of_le_succ (fun checks => ?_)
  rw [spent, Nat.add_assoc]
  exact Nat.le_add_right _ _

/-- A check comes before all are through that come after it. -/
theorem askedAt_le_spent (before : check < checks) :
    script.askedAt poller check ≤ script.spent poller checks :=
  (Nat.le_add_right _ _).trans (script.spent_mono poller before)

theorem spent_of_prompt (poller : Poller) (prompt : ∀ check, script.delay check = 0)
    (checks : Nat) : script.spent poller checks = checks * poller.interval.toNat := by
  induction checks with
  | zero => exact (Nat.zero_mul _).symm
  | succ checks inner => rw [spent, inner, prompt, Nat.add_zero, Nat.succ_mul]

end StatusScript

namespace Poller

variable {poller : Poller} {answer : Nat → Except Error ExecutionStatus} {stopAt : Option Nat}
  {stop checks left : Nat}

/-- The waiting is stopped before the next check. -/
theorem runFrom_of_stop
    (early : stop <
      max ((checks + 1) * poller.interval.toNat) (checks * poller.interval.toNat + 1)) :
    poller.runFrom answer (some stop) checks (left + 1) =
      { outcome := .stopped, checks, elapsed := max stop (checks * poller.interval.toNat) } := by
  rw [Nat.succ_mul] at early
  have stops : stopsBefore (some stop) (max (checks * poller.interval.toNat +
      poller.interval.toNat) (checks * poller.interval.toNat + 1)) = some stop :=
    Option.filter_some_pos (decide_eq_true early)
  simp only [runFrom, stops]

/-- The waiting goes on to the next check, which ends it with a terminal answer. -/
theorem runFrom_of_check (later : ∀ stop ∈ stopAt, (checks + 1) * poller.interval.toNat < stop) :
    poller.runFrom answer stopAt checks (left + 1) =
      (terminal? (answer checks)).elim (poller.runFrom answer stopAt (checks + 1) left)
        (fun status =>
          { outcome := .finished status
            checks := checks + 1
            elapsed := (checks + 1) * poller.interval.toNat }) := by
  rw [Nat.succ_mul] at later ⊢
  have none : stopsBefore stopAt (max (checks * poller.interval.toNat +
      poller.interval.toNat) (checks * poller.interval.toNat + 1)) = none := by
    refine Option.filter_eq_none_iff.mpr (fun stop found => ?_)
    have after := later stop found
    rw [decide_eq_true_eq]
    omega
  simp only [runFrom, none]
  cases answer checks with
  | error _ => rfl
  | ok status =>
    cases ends : status.isTerminal with
    | true => simp [terminal?, ends]
    | false => simp [terminal?, ends]

end Poller

end QueryComposer
