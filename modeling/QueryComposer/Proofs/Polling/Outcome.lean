import Mathlib.Order.MinMax
import QueryComposer.Proofs.Polling.Task

set_option autoImplicit false

/-!
How the waiting for a query ends. Every course of events ends as the checks say that were made; and
where checks are answered at once and no stop is requested at the very end of a wait, all courses
end as the poller tells of the first stop.
-/

namespace QueryComposer

namespace PollTask

variable {poller : Poller} {script : StatusScript} {task next : PollTask} {stops : List Nat}
  {now later : Nat}

/-! ### What the waiting comes to -/

/-- What the waiting comes to from a phase on, when checks are answered at once. -/
def comesTo (poller : Poller) (script : StatusScript) (stopAt : Option Nat) (checks : Nat) :
    PollPhase → PollRun
  | .begins => poller.runFrom script.answer stopAt checks (poller.maxAttempts.toNat - checks)
  | .waits _ => poller.runFrom script.answer stopAt checks (poller.maxAttempts.toNat - checks)
  | .asks check due =>
    (terminal? (script.answer check)).elim
      (poller.runFrom script.answer stopAt checks (poller.maxAttempts.toNat - checks))
      (fun status => { outcome := .finished status, checks, elapsed := due })
  | .ended outcome time => { outcome, checks, elapsed := time }

/-- The first stop is the given one: it was requested, or it will not be before the given time. -/
def Foretold (stopAt : Option Nat) (stops : List Nat) (now : Nat) : Prop :=
  stops.head? = stopAt ∨ stops = [] ∧ ∀ stop ∈ stopAt, now ≤ stop

/-- The given stop does not come at the very end of a wait. -/
def Apart (poller : Poller) (script : StatusScript) (stopAt : Option Nat) : Prop :=
  ∀ stop ∈ stopAt, ∀ check < poller.maxAttempts.toNat, script.firstTerminal? check = none →
    stop ≠ script.askedAt poller check

theorem Course.stop_le (course : Course poller script stops now task) :
    ∀ stop ∈ stops, stop ≤ now := by
  induction course with
  | start => exact fun _ member => absurd member List.not_mem_nil
  | step _ _ inner => exact inner
  | wait _ _ order _ inner => exact fun stop requested => (inner stop requested).trans order
  | stop _ inner =>
    intro stop requested
    rcases List.mem_append.mp requested with earlier | this
    · exact inner stop earlier
    · exact (List.mem_singleton.mp this).le

namespace Foretold

variable {stopAt : Option Nat}

theorem exists_stop (foretold : Foretold stopAt stops now) (some : stops ≠ []) :
    ∃ stop ∈ stops, stopAt = .some stop := by
  rcases foretold with first | ⟨none, _⟩
  · exact ⟨stops.head some, List.head_mem some, first.symm.trans (List.head?_eq_some_head some)⟩
  · exact absurd none some

theorem le (foretold : Foretold stopAt stops now) (later : ∀ stop ∈ stops, now ≤ stop) :
    ∀ stop ∈ stopAt, now ≤ stop := by
  rcases foretold with first | ⟨_, ahead⟩
  · exact fun stop found => later stop (List.mem_of_mem_head? (first ▸ found))
  · exact ahead

end Foretold

theorem askedAt_of_prompt (poller : Poller) (prompt : ∀ check, script.delay check = 0)
    (check : Nat) : script.askedAt poller check = (check + 1) * poller.interval.toNat := by
  rw [StatusScript.askedAt, StatusScript.spent_of_prompt poller prompt, Nat.succ_mul]

/-! ### What each step keeps -/

namespace Regular

variable {stopAt : Option Nat} {due : Nat}

theorem comesTo_of_used (regular : Regular poller script stops now task)
    (prompt : ∀ check, script.delay check = 0) (phase : task.phase = .begins)
    (used : task.checks = poller.maxAttempts.toNat) :
    comesTo poller script stopAt task.checks task.phase =
      { outcome := .timeout poller.maxAttempts, checks := task.checks, elapsed := now } := by
  have time := (regular.beginning phase).1
  rw [StatusScript.spent_of_prompt poller prompt] at time
  rw [phase, comesTo, used, Nat.sub_self, Poller.runFrom, ← used, ← time]

/-- Where the next wait would begin, a stop that was requested has come already. -/
theorem comesTo_of_halt (regular : Regular poller script stops now task)
    (prompt : ∀ check, script.delay check = 0) (reached : ∀ stop ∈ stops, stop ≤ now)
    (foretold : Foretold stopAt stops now) (phase : task.phase = .begins)
    (left : task.checks < poller.maxAttempts.toNat) (stopped : task.stopped = true) :
    comesTo poller script stopAt task.checks task.phase =
      { outcome := .stopped, checks := task.checks, elapsed := now } := by
  have time := (regular.beginning phase).1
  rw [StatusScript.spent_of_prompt poller prompt] at time
  obtain ⟨stop, requested, rfl⟩ := foretold.exists_stop (regular.requested.mp stopped)
  have ripe : stop ≤ task.checks * poller.interval.toNat := (reached stop requested).trans time.le
  obtain ⟨rest, count⟩ := Nat.exists_eq_succ_of_ne_zero (Nat.sub_ne_zero_of_lt left)
  rw [phase, comesTo, count, Poller.runFrom_of_stop (lt_max_of_lt_right (Nat.lt_succ_of_le ripe)),
    max_eq_right ripe, ← time]

/-- In a wait, a stop that was requested has come at this very time. -/
theorem comesTo_of_interrupt (regular : Regular poller script stops now task)
    (prompt : ∀ check, script.delay check = 0) (reached : ∀ stop ∈ stops, stop ≤ now)
    (foretold : Foretold stopAt stops now) (apart : Apart poller script stopAt)
    (phase : task.phase = .waits due) (stopped : task.stopped = true) :
    comesTo poller script stopAt task.checks task.phase =
      { outcome := .stopped, checks := task.checks, elapsed := now } := by
  obtain ⟨begun, ahead, ends, left, unfinished, unstopped⟩ := regular.waiting phase
  obtain ⟨stop, requested, rfl⟩ := foretold.exists_stop (regular.requested.mp stopped)
  -- time does not pass between the request and this step
  obtain rfl : stop = now := (reached stop requested).antisymm (unstopped stop requested)
  have early : stop < (task.checks + 1) * poller.interval.toNat :=
    (lt_of_le_of_ne (ahead.trans ends.le) (apart stop rfl _ left unfinished)).trans_eq
      (askedAt_of_prompt poller prompt _)
  rw [StatusScript.spent_of_prompt poller prompt] at begun
  obtain ⟨rest, count⟩ := Nat.exists_eq_succ_of_ne_zero (Nat.sub_ne_zero_of_lt left)
  rw [phase, comesTo, count, Poller.runFrom_of_stop (lt_max_of_lt_left early), max_eq_left begun]

/-- At the end of a wait no stop has come, so that the check is made. -/
theorem comesTo_of_ask (regular : Regular poller script stops now task)
    (prompt : ∀ check, script.delay check = 0) (foretold : Foretold stopAt stops now)
    (apart : Apart poller script stopAt) (phase : task.phase = .waits due) (ripe : due ≤ now) :
    comesTo poller script stopAt (task.checks + 1)
        (.asks task.checks (now + script.delay task.checks)) =
      comesTo poller script stopAt task.checks task.phase := by
  obtain ⟨_, ahead, ends, left, unfinished, unstopped⟩ := regular.waiting phase
  have asked := askedAt_of_prompt poller prompt task.checks
  have time : now = script.askedAt poller task.checks := (ahead.antisymm ripe).trans ends
  have after : ∀ stop ∈ stopAt, (task.checks + 1) * poller.interval.toNat < stop := by
    intro stop found
    rw [← asked]
    exact lt_of_le_of_ne (time.symm.trans_le (foretold.le unstopped stop found))
      (apart stop found _ left unfinished).symm
  have answered : now + script.delay task.checks = (task.checks + 1) * poller.interval.toNat := by
    rw [prompt, Nat.add_zero, time, asked]
  obtain ⟨rest, count⟩ := Nat.exists_eq_succ_of_ne_zero (Nat.sub_ne_zero_of_lt left)
  have fewer : poller.maxAttempts.toNat - (task.checks + 1) = rest := by omega
  rw [phase, comesTo, comesTo, count, Poller.runFrom_of_check after, fewer, answered]

end Regular

/-- No step changes what the waiting comes to. -/
theorem Step.comesTo_eq {stopAt : Option Nat} (prompt : ∀ check, script.delay check = 0)
    (regular : Regular poller script stops now task) (reached : ∀ stop ∈ stops, stop ≤ now)
    (foretold : Foretold stopAt stops now) (apart : Apart poller script stopAt)
    (stepped : Step poller script now task next) :
    comesTo poller script stopAt next.checks next.phase =
      comesTo poller script stopAt task.checks task.phase := by
  cases stepped with
  | wait phase _ _ =>
    rw [phase]
    rfl
  | giveUp phase used => exact (regular.comesTo_of_used prompt phase used).symm
  | halt phase left stopped =>
    exact (regular.comesTo_of_halt prompt reached foretold phase left stopped).symm
  | interrupt phase stopped =>
    exact (regular.comesTo_of_interrupt prompt reached foretold apart phase stopped).symm
  | ask phase ripe => exact regular.comesTo_of_ask prompt foretold apart phase ripe
  | @finish check due status phase ripe last =>
    have ends : comesTo poller script stopAt task.checks (.asks check due) =
        { outcome := .finished status, checks := task.checks, elapsed := due } := by
      rw [comesTo, last, Option.elim_some]
    rw [phase, ends, ← (regular.asking phase).ahead.antisymm ripe]
    rfl
  | @goOn check due phase ripe nothing =>
    have goesOn : comesTo poller script stopAt task.checks (.asks check due) =
        comesTo poller script stopAt task.checks .begins := by
      simp only [comesTo, nothing, Option.elim_none]
    rw [phase]
    exact goesOn.symm

/-- Where checks are answered at once and no stop comes at the very end of a wait, the waiting comes
to what the poller tells. -/
theorem Course.comesTo_eq_run {stopAt : Option Nat} (prompt : ∀ check, script.delay check = 0)
    (apart : Apart poller script stopAt) (course : Course poller script stops now task)
    (foretold : Foretold stopAt stops now) :
    comesTo poller script stopAt task.checks task.phase = poller.run script.answer stopAt := by
  induction course with
  | start => rfl
  | @stop stops now task before inner =>
    refine inner ?_
    cases stops with
    | nil =>
      have first : some now = stopAt := foretold.resolve_right (fun none => nomatch none.1)
      exact .inr ⟨rfl, fun stop found => (Option.some.inj (first.trans found)).le⟩
    | cons first stops => exact .inl (foretold.resolve_right (fun none => nomatch none.1))
  | step before stepped inner =>
    exact (stepped.comesTo_eq prompt before.regular before.stop_le foretold apart).trans
      (inner foretold)
  | wait _ _ order _ inner =>
    exact inner (foretold.imp_right (fun ahead =>
      ⟨ahead.1, fun stop found => order.trans (ahead.2 stop found)⟩))

/-! ### All courses -/

/-- However stops are requested, the waiting has a course of events, and what is said here holds in
each. There are not more checks than there may be, each at the end of the wait before it; none comes
after a terminal answer, and none at the end of a wait that was not over when a stop was requested.
The waiting ends by the time that all checks take. It ends with a status exactly if that is the
first terminal one that a check told; because checks are used up, only after all of them told none;
and because it was stopped, only if a stop was requested and no check told a terminal status. Where
checks are answered at once and no stop comes at the very end of a wait, it ends as the poller tells
of the first stop. -/
theorem courses_end_as_checked (poller : Poller) (script : StatusScript)
    (ordered : stops.Pairwise (fun earlier next => earlier ≤ next))
    (past : ∀ stop ∈ stops, stop ≤ now) :
    (∃ task, Course poller script stops now task ∧ task.Rests poller script now) ∧
    ∀ task, Course poller script stops now task →
      task.checks ≤ poller.maxAttempts.toNat ∧
      task.asked.reverse = (List.range task.checks).map (script.askedAt poller) ∧
      (∀ check, check + 1 < task.checks → terminal? (script.answer check) = none) ∧
      (∀ asked ∈ task.asked, ∀ stop ∈ stops, asked ≤ stop) ∧
      (task.Rests poller script now → script.spent poller poller.maxAttempts.toNat ≤ now →
        ∃ outcome time, task.phase = .ended outcome time) ∧
      ∀ outcome time, task.phase = .ended outcome time →
        (∀ status, outcome = .finished status ↔
          script.firstTerminal? task.checks = some status) ∧
        (∀ attempts, outcome = .timeout attempts → attempts = poller.maxAttempts ∧
          task.checks = attempts.toNat ∧ script.firstTerminal? task.checks = none) ∧
        (outcome = .stopped → stops ≠ [] ∧ script.firstTerminal? task.checks = none) ∧
        ((∀ check, script.delay check = 0) → Apart poller script stops.head? →
          poller.run script.answer stops.head? =
            { outcome, checks := task.checks, elapsed := time }) := by
  refine ⟨exists_course poller script ordered past, fun task course => ?_⟩
  have regular := course.regular
  have early {check : Nat} (early : check + 1 < task.checks) :
      terminal? (script.answer check) = none :=
    StatusScript.firstTerminal?_eq_none_iff.mp regular.unfinished check (Nat.lt_sub_of_add_lt early)
  refine ⟨regular.bounded, regular.times, fun check => early, regular.unstopped,
    regular.exists_ended, fun outcome time ended => ?_⟩
  have alone (prompt : ∀ check, script.delay check = 0) (apart : Apart poller script stops.head?) :
      poller.run script.answer stops.head? =
        { outcome, checks := task.checks, elapsed := time } := by
    rw [← course.comesTo_eq_run prompt apart (.inl rfl), ended]
    rfl
  have holds := regular.holds
  rw [ended] at holds
  cases outcome with
  | finished status =>
    refine ⟨fun other => ?_, nofun, nofun, alone⟩
    rw [show _ = some status from holds, PollOutcome.finished.injEq, Option.some.injEq]
  | timeout attempts =>
    refine ⟨fun other => ?_, fun other same => ?_, nofun, alone⟩
    · rw [holds.2.2]
      exact iff_of_false nofun nofun
    · obtain rfl := PollOutcome.timeout.inj same
      exact holds
  | stopped =>
    refine ⟨fun other => ?_, nofun, fun _ => holds, alone⟩
    rw [holds.2]
    exact iff_of_false nofun nofun

/-- A query that is pending first, cannot be asked for then, and runs on. -/
def slowQuery : StatusScript :=
  { answer := fun check =>
      if check = 1 then .error (.serviceFailed "unavailable")
      else if check = 0 then .ok .pending else .ok .running }

/-- A stop that is requested twice, in the second wait, ends the waiting after one check. -/
theorem slowQuery_stopped :
    let poller : Poller := { interval := 1000, maxAttempts := 5 }
    let stops := [1500, 1500]
    stops.Pairwise (fun earlier next => earlier ≤ next) ∧ (∀ stop ∈ stops, stop ≤ 6000) ∧
    Apart poller slowQuery stops.head? ∧
    ∃ task, Course poller slowQuery stops 6000 task ∧ task.phase = .ended .stopped 1500 ∧
      task.asked = [1000] := by
  intro poller stops
  have ordered : stops.Pairwise (fun earlier next => earlier ≤ next) := by decide
  have past : ∀ stop ∈ stops, stop ≤ 6000 := by decide
  have apart : Apart poller slowQuery stops.head? := by
    intro stop found check _ _
    obtain rfl : 1500 = stop := Option.some.inj found
    rw [StatusScript.askedAt, StatusScript.spent_of_prompt poller (fun _ => rfl)]
    change 1500 ≠ check * 1000 + 1000
    omega
  obtain ⟨⟨task, course, rests⟩, each⟩ := courses_end_as_checked poller slowQuery ordered past
  obtain ⟨_, times, _, _, through, ends⟩ := each task course
  obtain ⟨outcome, time, ended⟩ := through rests (by decide)
  have told := (ends outcome time ended).2.2.2 (fun _ => rfl) apart
  have run : poller.run slowQuery.answer stops.head? = ⟨.stopped, 1, 1500⟩ := by decide +kernel
  obtain ⟨stopped, count, moment⟩ := PollRun.mk.inj (run.symm.trans told)
  rw [← count] at times
  exact ⟨ordered, past, apart, task, course, by rw [ended, ← stopped, ← moment],
    List.reverse_eq_iff.mp times⟩

end PollTask

end QueryComposer
