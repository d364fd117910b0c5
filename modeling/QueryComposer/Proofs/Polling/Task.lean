import Mathlib.Data.List.Induction
import QueryComposer.Proofs.Polling.Answers

set_option autoImplicit false

/-!
The waiting for a query as a task beside a stop signal. At the head of each attempt the task looks
at the signal; then it waits for the interval to pass or for the signal, whichever it comes upon
first; then it asks for the status and waits for the answer. The signal may be given at any time and
again.
The steps that are possible at one time come in any order, and time only goes on when there is none,
at most to the end of the wait or of the check that goes on.

However the steps come, the waiting ends, and as its checks say.
-/

namespace QueryComposer

/-- Where a waiting is: at the head of an attempt; in the wait before a check, until a time; in a
check, until the time of its answer; or at its end, since a time. -/
inductive PollPhase
  | begins
  | waits (due : Nat)
  | asks (check due : Nat)
  | ended (outcome : PollOutcome) (time : Nat)

namespace PollPhase

/-- The time at which the phase is over, if time ends it. -/
def due? : PollPhase → Option Nat
  | .begins => none
  | .waits due => some due
  | .asks _ due => some due
  | .ended _ _ => none

/-- How many steps there are to the next check or to the end, at most. -/
def rank : PollPhase → Nat
  | .begins => 2
  | .waits _ => 1
  | .asks _ _ => 3
  | .ended _ _ => 0

end PollPhase

/-- A waiting: where it is, the times of its checks, last first, and whether a stop was
requested. -/
structure PollTask where
  phase : PollPhase := .begins
  asked : List Nat := []
  stopped : Bool := false

namespace PollTask

def checks (task : PollTask) : Nat :=
  task.asked.length

def stop (task : PollTask) : PollTask :=
  { task with stopped := true }

def finish (task : PollTask) (outcome : PollOutcome) (now : Nat) : PollTask :=
  { task with phase := .ended outcome now }

def ask (task : PollTask) (script : StatusScript) (now : Nat) : PollTask :=
  { task with
    phase := .asks task.checks (now + script.delay task.checks)
    asked := now :: task.asked }

variable {poller : Poller} {script : StatusScript} {task next : PollTask} {stops : List Nat}
  {now later : Nat}

/-- What the task may do at a time. When a wait is over and a stop was requested, it may do
either. -/
inductive Step (poller : Poller) (script : StatusScript) (now : Nat) : PollTask → PollTask → Prop
  | giveUp {task : PollTask} (phase : task.phase = .begins)
    (used : task.checks = poller.maxAttempts.toNat) :
    Step poller script now task (task.finish (.timeout poller.maxAttempts) now)
  | halt {task : PollTask} (phase : task.phase = .begins)
    (left : task.checks < poller.maxAttempts.toNat) (stopped : task.stopped = true) :
    Step poller script now task (task.finish .stopped now)
  | wait {task : PollTask} (phase : task.phase = .begins)
    (left : task.checks < poller.maxAttempts.toNat) (going : task.stopped = false) :
    Step poller script now task { task with phase := .waits (now + poller.interval.toNat) }
  | interrupt {task : PollTask} {due : Nat} (phase : task.phase = .waits due)
    (stopped : task.stopped = true) : Step poller script now task (task.finish .stopped now)
  | ask {task : PollTask} {due : Nat} (phase : task.phase = .waits due) (ripe : due ≤ now) :
    Step poller script now task (task.ask script now)
  | finish {task : PollTask} {check due : Nat} {status : ExecutionStatus}
    (phase : task.phase = .asks check due) (ripe : due ≤ now)
    (last : terminal? (script.answer check) = some status) :
    Step poller script now task (task.finish (.finished status) now)
  | goOn {task : PollTask} {check due : Nat} (phase : task.phase = .asks check due)
    (ripe : due ≤ now) (unfinished : terminal? (script.answer check) = none) :
    Step poller script now task { task with phase := .begins }

def Rests (poller : Poller) (script : StatusScript) (task : PollTask) (now : Nat) : Prop :=
  ∀ next, ¬ Step poller script now task next

/-- A course of events: the times at which a stop was requested, the time that has come and the task
as it is then. -/
inductive Course (poller : Poller) (script : StatusScript) : List Nat → Nat → PollTask → Prop
  | start : Course poller script [] 0 {}
  | stop {stops : List Nat} {now : Nat} {task : PollTask}
    (before : Course poller script stops now task) :
    Course poller script (stops ++ [now]) now task.stop
  | step {stops : List Nat} {now : Nat} {task next : PollTask}
    (before : Course poller script stops now task) (stepped : Step poller script now task next) :
    Course poller script stops now next
  | wait {stops : List Nat} {now later : Nat} {task : PollTask}
    (before : Course poller script stops now task) (rests : task.Rests poller script now)
    (order : now ≤ later) (within : ∀ due, task.phase.due? = some due → later ≤ due) :
    Course poller script stops later task

/-! ### Steps at one time -/

theorem exists_step_of_begins (script : StatusScript)
    (bounded : task.checks ≤ poller.maxAttempts.toNat) (phase : task.phase = .begins) (now : Nat) :
    ∃ next, Step poller script now task next := by
  rcases bounded.lt_or_eq with left | used
  · cases signal : task.stopped with
    | true => exact ⟨_, .halt phase left signal⟩
    | false => exact ⟨_, .wait phase left signal⟩
  · exact ⟨_, .giveUp phase used⟩

theorem exists_step_of_due (poller : Poller) (script : StatusScript) {due : Nat}
    (ends : task.phase.due? = some due) (ripe : due ≤ now) :
    ∃ next, Step poller script now task next := by
  cases phase : task.phase with
  | begins => simp [phase, PollPhase.due?] at ends
  | ended _ _ => simp [phase, PollPhase.due?] at ends
  | waits other =>
    have same : other = due := by simpa [phase, PollPhase.due?] using ends
    exact ⟨_, .ask phase (same ▸ ripe)⟩
  | asks check other =>
    have same : other = due := by simpa [phase, PollPhase.due?] using ends
    cases answered : terminal? (script.answer check) with
    | some status => exact ⟨_, .finish phase (same ▸ ripe) answered⟩
    | none => exact ⟨_, .goOn phase (same ▸ ripe) answered⟩

theorem Rests.lt_of_due (rests : task.Rests poller script now) {due : Nat}
    (ends : task.phase.due? = some due) : now < due := by
  by_contra ripe
  obtain ⟨next, stepped⟩ := exists_step_of_due poller script ends (Nat.not_lt.mp ripe)
  exact rests next stepped

theorem Rests.going (rests : task.Rests poller script now) {due : Nat}
    (phase : task.phase = .waits due) : task.stopped = false :=
  Bool.eq_false_iff.mpr (fun stopped => rests _ (.interrupt phase stopped))

/-! ### What holds along every course -/

structure Waiting (poller : Poller) (script : StatusScript) (stops : List Nat)
    (now checks due : Nat) : Prop where
  begun : script.spent poller checks ≤ now
  ahead : now ≤ due
  ends : due = script.askedAt poller checks
  left : checks < poller.maxAttempts.toNat
  unfinished : script.firstTerminal? checks = none
  unstopped : ∀ stop ∈ stops, now ≤ stop

structure Asking (poller : Poller) (script : StatusScript) (now checks check due : Nat) :
    Prop where
  ahead : now ≤ due
  ends : due = script.spent poller checks
  count : checks = check + 1

/-- What holds in a phase after some checks. -/
def Holds (poller : Poller) (script : StatusScript) (stops : List Nat) (now checks : Nat) :
    PollPhase → Prop
  | .begins => now = script.spent poller checks ∧ script.firstTerminal? checks = none
  | .waits due => Waiting poller script stops now checks due
  | .asks check due => Asking poller script now checks check due
  | .ended (.finished status) _ => script.firstTerminal? checks = some status
  | .ended (.timeout attempts) _ =>
    attempts = poller.maxAttempts ∧ checks = attempts.toNat ∧ script.firstTerminal? checks = none
  | .ended .stopped _ => stops ≠ [] ∧ script.firstTerminal? checks = none

namespace Holds

variable {checks : Nat} {phase : PollPhase} {others : List Nat}

theorem le_due (holds : Holds poller script stops now checks phase) {due : Nat}
    (ends : phase.due? = some due) : now ≤ due := by
  cases phase with
  | begins => contradiction
  | ended _ _ => contradiction
  | waits other =>
    obtain rfl : other = due := Option.some.inj ends
    exact Waiting.ahead holds
  | asks check other =>
    obtain rfl : other = due := Option.some.inj ends
    exact Asking.ahead holds

/-- What holds in a phase still does when time goes on or a stop is requested. -/
theorem onward (holds : Holds poller script stops now checks phase) (order : now ≤ later)
    (requested : stops ≠ [] → others ≠ []) (begins : phase = .begins → later = now)
    (within : ∀ due, phase.due? = some due → later ≤ due)
    (waits : ∀ due, phase = .waits due → ∀ stop ∈ others, later ≤ stop) :
    Holds poller script others later checks phase := by
  cases phase with
  | begins => exact begins rfl ▸ holds
  | waits due =>
    have waiting : Waiting poller script stops now checks due := holds
    exact { waiting with
      begun := waiting.begun.trans order
      ahead := within due rfl
      unstopped := waits due rfl }
  | asks check due =>
    have asking : Asking poller script now checks check due := holds
    exact { asking with ahead := within due rfl }
  | ended outcome time =>
    cases outcome with
    | finished status => exact holds
    | timeout attempts => exact holds
    | stopped => exact ⟨requested holds.1, holds.2⟩

end Holds

/-- What holds of the task in every course: the checks are made at their times, not more than there
may be, and none of them after a terminal answer or after a stop was requested; and what its phase
says. -/
structure Regular (poller : Poller) (script : StatusScript) (stops : List Nat) (now : Nat)
    (task : PollTask) : Prop where
  bounded : task.checks ≤ poller.maxAttempts.toNat
  times : task.asked.reverse = (List.range task.checks).map (script.askedAt poller)
  past : ∀ asked ∈ task.asked, asked ≤ now
  unstopped : ∀ asked ∈ task.asked, ∀ stop ∈ stops, asked ≤ stop
  unfinished : script.firstTerminal? (task.checks - 1) = none
  requested : task.stopped = true ↔ stops ≠ []
  holds : Holds poller script stops now task.checks task.phase

namespace Regular

theorem waiting (regular : Regular poller script stops now task) {due : Nat}
    (phase : task.phase = .waits due) : Waiting poller script stops now task.checks due := by
  have holds := regular.holds
  rwa [phase] at holds

theorem asking (regular : Regular poller script stops now task) {check due : Nat}
    (phase : task.phase = .asks check due) : Asking poller script now task.checks check due := by
  have holds := regular.holds
  rwa [phase] at holds

theorem beginning (regular : Regular poller script stops now task) (phase : task.phase = .begins) :
    now = script.spent poller task.checks ∧ script.firstTerminal? task.checks = none := by
  have holds := regular.holds
  rwa [phase] at holds

theorem stops_eq_nil (regular : Regular poller script stops now task)
    (going : task.stopped = false) : stops = [] := by
  by_contra some
  exact Bool.false_ne_true (going.symm.trans (regular.requested.mpr some))

/-- In a check, the first terminal status is what its own answer tells. -/
theorem firstTerminal?_of_asking (regular : Regular poller script stops now task) {check due : Nat}
    (phase : task.phase = .asks check due) :
    script.firstTerminal? task.checks = terminal? (script.answer check) := by
  have before := regular.unfinished
  rw [(regular.asking phase).count] at before ⊢
  rw [script.firstTerminal?_succ, ← Nat.add_sub_cancel (n := check) (m := 1), before]
  rfl

theorem stop (regular : Regular poller script stops now task) :
    Regular poller script (stops ++ [now]) now task.stop := by
  have some : stops ++ [now] ≠ [] := List.append_ne_nil_of_right_ne_nil _ (List.cons_ne_nil _ _)
  have both {asked : Nat} (before : ∀ stop ∈ stops, asked ≤ stop) (past : asked ≤ now) :
      ∀ stop ∈ stops ++ [now], asked ≤ stop :=
    List.forall_mem_append.mpr ⟨before, List.forall_mem_singleton.mpr past⟩
  exact { regular with
    unstopped := fun asked member =>
      both (regular.unstopped asked member) (regular.past asked member)
    requested := iff_of_true rfl some
    holds := regular.holds.onward (Nat.le_refl _) (fun _ => some) (fun _ => rfl)
      (fun _ => regular.holds.le_due)
      (fun _ phase => both (regular.waiting phase).unstopped (Nat.le_refl _)) }

theorem wait (regular : Regular poller script stops now task) (rests : task.Rests poller script now)
    (order : now ≤ later) (within : ∀ due, task.phase.due? = some due → later ≤ due) :
    Regular poller script stops later task := by
  have began : task.phase ≠ .begins := by
    intro phase
    obtain ⟨next, stepped⟩ := exists_step_of_begins script regular.bounded phase now
    exact rests next stepped
  have none {due : Nat} (phase : task.phase = .waits due) : stops = [] :=
    regular.stops_eq_nil (rests.going phase)
  exact { regular with
    past := fun asked member => (regular.past asked member).trans order
    holds := regular.holds.onward order id (fun phase => absurd phase began) within
      (fun _ phase _ requested => absurd (none phase ▸ requested) List.not_mem_nil) }

theorem beginWait (regular : Regular poller script stops now task) (phase : task.phase = .begins)
    (left : task.checks < poller.maxAttempts.toNat) (going : task.stopped = false) :
    Regular poller script stops now
      { task with phase := .waits (now + poller.interval.toNat) } := by
  obtain ⟨time, unfinished⟩ := regular.beginning phase
  have waiting : Waiting poller script stops now task.checks (now + poller.interval.toNat) :=
    { begun := time.ge
      ahead := Nat.le_add_right _ _
      ends := congrArg (fun time => time + poller.interval.toNat) time
      left
      unfinished
      unstopped := fun _ requested =>
        absurd (regular.stops_eq_nil going ▸ requested) List.not_mem_nil }
  exact { regular with holds := waiting }

theorem ask (regular : Regular poller script stops now task) {due : Nat}
    (phase : task.phase = .waits due) (ripe : due ≤ now) :
    Regular poller script stops now (task.ask script now) := by
  obtain ⟨_, ahead, ends, left, unfinished, unstopped⟩ := regular.waiting phase
  -- a stop that was requested before this time would have ended the wait then
  have time : now = script.askedAt poller task.checks := (ahead.antisymm ripe).trans ends
  have asking : Asking poller script now (task.checks + 1) task.checks
      (now + script.delay task.checks) :=
    { ahead := Nat.le_add_right _ _
      ends := congrArg (fun time => time + script.delay task.checks) time
      count := rfl }
  have times : (now :: task.asked).reverse =
      (List.range (task.checks + 1)).map (script.askedAt poller) := by
    rw [List.reverse_cons, regular.times, List.range_succ, List.map_append, List.map_singleton,
      ← time]
  exact {
    bounded := left
    times
    past := List.forall_mem_cons.mpr ⟨Nat.le_refl _, regular.past⟩
    unstopped := List.forall_mem_cons.mpr ⟨unstopped, regular.unstopped⟩
    unfinished
    requested := regular.requested
    holds := asking }

theorem step (regular : Regular poller script stops now task)
    (stepped : Step poller script now task next) : Regular poller script stops now next := by
  cases stepped with
  | giveUp phase used =>
    exact { regular with holds := ⟨rfl, used, (regular.beginning phase).2⟩ }
  | halt phase left stopped =>
    exact { regular with holds := ⟨regular.requested.mp stopped, (regular.beginning phase).2⟩ }
  | interrupt phase stopped =>
    exact { regular with
      holds := ⟨regular.requested.mp stopped, (regular.waiting phase).unfinished⟩ }
  | wait phase left going => exact regular.beginWait phase left going
  | ask phase ripe => exact regular.ask phase ripe
  | finish phase ripe last =>
    exact { regular with holds := (regular.firstTerminal?_of_asking phase).trans last }
  | goOn phase ripe nothing =>
    obtain ⟨ahead, ends, _⟩ := regular.asking phase
    -- time does not go past the answer, so that the next attempt begins at its time
    exact { regular with
      holds := ⟨(ahead.antisymm ripe).trans ends,
        (regular.firstTerminal?_of_asking phase).trans nothing⟩ }

end Regular

theorem Course.regular (course : Course poller script stops now task) :
    Regular poller script stops now task := by
  induction course with
  | start =>
    exact {
      bounded := Nat.zero_le _
      times := rfl
      past := fun _ member => absurd member List.not_mem_nil
      unstopped := fun _ member => absurd member List.not_mem_nil
      unfinished := rfl
      requested := iff_of_false Bool.false_ne_true (fun some => some rfl)
      holds := ⟨rfl, rfl⟩ }
  | stop _ inner => exact inner.stop
  | step _ stepped inner => exact inner.step stepped
  | wait _ rests order within inner => exact inner.wait rests order within

/-! ### The waiting comes to its end -/

/-- A bound of the steps that are left. -/
def stepsLeft (poller : Poller) (task : PollTask) : Nat :=
  3 * (poller.maxAttempts.toNat - task.checks) + task.phase.rank

theorem Step.stepsLeft_lt (regular : Regular poller script stops now task)
    (stepped : Step poller script now task next) :
    next.stepsLeft poller < task.stepsLeft poller := by
  have fewer {phase : PollPhase} (lower : phase.rank < task.phase.rank) :
      stepsLeft poller { task with phase } < task.stepsLeft poller :=
    Nat.add_lt_add_left lower _
  cases stepped with
  | giveUp phase _ => exact fewer (by simp [phase, PollPhase.rank])
  | halt phase _ _ => exact fewer (by simp [phase, PollPhase.rank])
  | wait phase _ _ => exact fewer (by simp [phase, PollPhase.rank])
  | interrupt phase _ => exact fewer (by simp [phase, PollPhase.rank])
  | finish phase _ _ => exact fewer (by simp [phase, PollPhase.rank])
  | goOn phase _ _ => exact fewer (by simp [phase, PollPhase.rank])
  | ask phase _ =>
    have left := (regular.waiting phase).left
    change 3 * (poller.maxAttempts.toNat - (task.checks + 1)) + 3 < 3 * _ + task.phase.rank
    rw [phase, PollPhase.rank]
    omega

theorem Rests.at_later (rests : task.Rests poller script now)
    (unripe : ∀ due, task.phase.due? = some due → later < due) :
    task.Rests poller script later := by
  intro next stepped
  cases stepped with
  | giveUp phase used => exact rests _ (.giveUp phase used)
  | halt phase left stopped => exact rests _ (.halt phase left stopped)
  | wait phase left going => exact rests _ (.wait phase left going)
  | interrupt phase stopped => exact rests _ (.interrupt phase stopped)
  | ask phase ripe => exact absurd ripe (Nat.not_le.mpr (unripe _ (congrArg _ phase)))
  | finish phase ripe _ => exact absurd ripe (Nat.not_le.mpr (unripe _ (congrArg _ phase)))
  | goOn phase ripe _ => exact absurd ripe (Nat.not_le.mpr (unripe _ (congrArg _ phase)))

namespace Course

/-- Time goes on to any later time, by way of the ends of waits and checks. -/
theorem exists_later (course : Course poller script stops now task) (order : now ≤ later) :
    ∃ next, Course poller script stops later next ∧ next.Rests poller script later := by
  induction left : task.stepsLeft poller using Nat.strong_induction_on generalizing now task with
  | h count inner =>
    subst left
    -- each step leaves fewer, and time only goes on to the next step or to the end
    have onward {now : Nat} {next : PollTask} (course : Course poller script stops now task)
        (order : now ≤ later) (stepped : Step poller script now task next) :=
      inner _ (stepped.stepsLeft_lt course.regular) (course.step stepped) order rfl
    by_cases rests : task.Rests poller script now
    · by_cases first : ∃ due, task.phase.due? = some due ∧ due ≤ later
      · obtain ⟨due, ends, ripe⟩ := first
        obtain ⟨next, stepped⟩ := exists_step_of_due poller script ends (Nat.le_refl due)
        have waited : Course poller script stops due task :=
          course.wait rests (rests.lt_of_due ends).le
            (fun other same => (Option.some.inj (ends.symm.trans same)).le)
        exact onward waited ripe stepped
      · have unripe : ∀ due, task.phase.due? = some due → later < due :=
          fun due ends => Nat.not_le.mp (fun ripe => first ⟨due, ends, ripe⟩)
        exact ⟨task, course.wait rests order (fun due ends => (unripe due ends).le),
          rests.at_later unripe⟩
    · obtain ⟨next, stepped⟩ := not_forall_not.mp rests
      exact onward course order stepped

end Course

/-- However stops are requested, the waiting has a course of events. -/
theorem exists_course (poller : Poller) (script : StatusScript)
    (ordered : stops.Pairwise (fun earlier next => earlier ≤ next))
    (past : ∀ stop ∈ stops, stop ≤ now) :
    ∃ task, Course poller script stops now task ∧ task.Rests poller script now := by
  induction stops using List.reverseRecOn generalizing now with
  | nil => exact Course.start.exists_later (Nat.zero_le now)
  | append_singleton stops stop inner =>
    obtain ⟨before, _, order⟩ := List.pairwise_append.mp ordered
    obtain ⟨task, course, _⟩ := inner before
      (fun earlier member => order earlier member stop List.mem_cons_self)
    exact course.stop.exists_later (past stop (List.mem_append_right _ List.mem_cons_self))

/-- The waiting has ended by the time that all checks take with the waits before them. -/
theorem Regular.exists_ended (regular : Regular poller script stops now task)
    (rests : task.Rests poller script now)
    (through : script.spent poller poller.maxAttempts.toNat ≤ now) :
    ∃ outcome time, task.phase = .ended outcome time := by
  cases phase : task.phase with
  | ended outcome time => exact ⟨outcome, time, rfl⟩
  | begins =>
    obtain ⟨next, stepped⟩ := exists_step_of_begins script regular.bounded phase now
    exact absurd stepped (rests next)
  | waits due =>
    obtain ⟨_, _, ends, left, _, _⟩ := regular.waiting phase
    have ripe : due ≤ now :=
      ends.trans_le ((StatusScript.askedAt_le_spent left).trans through)
    exact absurd (rests.lt_of_due (congrArg _ phase)) (Nat.not_lt.mpr ripe)
  | asks check due =>
    have ripe : due ≤ now := (regular.asking phase).ends.trans_le
      ((script.spent_mono poller regular.bounded).trans through)
    exact absurd (rests.lt_of_due (congrArg _ phase)) (Nat.not_lt.mpr ripe)

end PollTask

end QueryComposer
