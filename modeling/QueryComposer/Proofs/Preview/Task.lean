import QueryComposer.Proofs.Preview.Settled

set_option autoImplicit false

/-!
The preview as a task beside a channel. The channel holds the last query that was sent and counts
what was sent; the task counts what it has seen of it. The task waits for a query that it has not
seen, then for the quiet interval to pass, anew with every other query, and publishes what the
channel holds by then. The steps that are possible at one time come in any order, and time only goes
on when there is none, at most to the end of the interval that the task waits for.

However the steps come, what is published is what the preview publishes, as long as no query is sent
at the very end of an interval.
-/

namespace QueryComposer

/-- The channel with the last query and their number, and the task with the number it has seen, the
end of the interval that it waits for, and what it has published, last first. -/
structure PreviewTask where
  compiler : CompilerSettings
  quiet : UInt64
  current : Query
  sent : Nat := 0
  seen : Nat := 0
  timer : Option Nat := none
  published : List Publication := []

namespace PreviewTask

def send (task : PreviewTask) (query : Query) : PreviewTask :=
  { task with current := query, sent := task.sent + 1 }

/-- Note what was sent and wait for the quiet interval to pass. -/
def restart (task : PreviewTask) (now : Nat) : PreviewTask :=
  { task with seen := task.sent, timer := some (now + task.quiet.toNat) }

/-- Publish what the channel holds, and wait for what is sent next. -/
def publish (task : PreviewTask) (now : Nat) : PreviewTask :=
  { task with
    seen := task.sent
    timer := none
    published := ⟨now, task.current.compile task.compiler⟩ :: task.published }

def latest? (task : PreviewTask) : Option CompiledQuery :=
  task.published.head?.map Publication.compiled

/-- What the task may do at a time. When a query was sent and the interval is over, it may do
either. -/
inductive Step (now : Nat) : PreviewTask → PreviewTask → Prop
  | wake {task : PreviewTask} (waits : task.timer = none) (changed : task.seen < task.sent) :
    Step now task (task.restart now)
  | again {task : PreviewTask} {due : Nat} (waits : task.timer = some due)
    (changed : task.seen < task.sent) : Step now task (task.restart now)
  | publish {task : PreviewTask} {due : Nat} (waits : task.timer = some due) (ripe : due ≤ now) :
    Step now task (task.publish now)

def Rests (task : PreviewTask) (now : Nat) : Prop :=
  ∀ next, ¬ Step now task next

/-- A course of events: the queries that were sent with their times, the time that has come and the
task as it is then. -/
inductive Course (start : PreviewTask) : List Notice → Nat → PreviewTask → Prop
  | start : Course start [] 0 start
  | send {notices : List Notice} {now : Nat} {task : PreviewTask} (query : Query)
    (before : Course start notices now task) :
    Course start (notices ++ [⟨now, query⟩]) now (task.send query)
  | step {notices : List Notice} {now : Nat} {task next : PreviewTask}
    (before : Course start notices now task) (stepped : Step now task next) :
    Course start notices now next
  | wait {notices : List Notice} {now later : Nat} {task : PreviewTask}
    (before : Course start notices now task) (rests : task.Rests now) (order : now ≤ later)
    (within : ∀ due, task.timer = some due → later ≤ due) : Course start notices later task

/-! ### Steps at one time -/

variable {task start : PreviewTask} {notices : List Notice} {now later : Nat}

theorem rests_iff :
    task.Rests now ↔ task.sent ≤ task.seen ∧ ∀ due, task.timer = some due → now < due := by
  constructor
  · intro rests
    constructor
    · by_contra unseen
      have changed : task.seen < task.sent := Nat.not_le.mp unseen
      cases waits : task.timer with
      | none => exact rests _ (.wake waits changed)
      | some due => exact rests _ (.again waits changed)
    · intro due waits
      by_contra ripe
      exact rests _ (.publish waits (Nat.not_lt.mp ripe))
  · rintro ⟨seen, waiting⟩ next stepped
    cases stepped with
    | wake waits changed => exact absurd seen (Nat.not_le.mpr changed)
    | again waits changed => exact absurd seen (Nat.not_le.mpr changed)
    | publish waits ripe => exact absurd ripe (Nat.not_le.mpr (waiting _ waits))

theorem rests_publish (task : PreviewTask) (now later : Nat) : (task.publish now).Rests later :=
  rests_iff.mpr ⟨Nat.le_refl _, fun due waits => by contradiction⟩

namespace Course

/-- The task comes to rest after at most two steps. -/
theorem exists_rests (course : Course start notices now task) :
    ∃ next, Course start notices now next ∧ next.Rests now := by
  have seeing {task : PreviewTask} (course : Course start notices now task)
      (seen : task.sent ≤ task.seen) : ∃ next, Course start notices now next ∧ next.Rests now := by
    by_cases ripe : ∃ due, task.timer = some due ∧ due ≤ now
    · obtain ⟨due, waits, ripe⟩ := ripe
      exact ⟨_, course.step (.publish waits ripe), rests_publish task now now⟩
    · refine ⟨task, course, rests_iff.mpr ⟨seen, fun due waits => ?_⟩⟩
      exact Nat.not_le.mp (fun passed => ripe ⟨due, waits, passed⟩)
  rcases Nat.lt_or_ge task.seen task.sent with changed | seen
  · have stepped : Step now task (task.restart now) := by
      cases waits : task.timer with
      | none => exact .wake waits changed
      | some due => exact .again waits changed
    exact seeing (course.step stepped) (Nat.le_refl _)
  · exact seeing course seen

/-- Time goes on, by way of the end of an interval. -/
theorem exists_later (course : Course start notices now task) (rests : task.Rests now)
    (order : now ≤ later) : ∃ next, Course start notices later next ∧ next.Rests later := by
  by_cases first : ∃ due, task.timer = some due ∧ due < later
  · obtain ⟨due, waits, earlier⟩ := first
    have waited : Course start notices due task := by
      refine course.wait rests ((rests_iff.mp rests).2 due waits).le (fun other same => ?_)
      exact (Option.some.inj (waits.symm.trans same)).le
    have published := waited.step (.publish waits (Nat.le_refl due))
    exact ⟨_, published.wait (rests_publish task due due) earlier.le
      (fun _ none => by contradiction), rests_publish task due later⟩
  · refine (course.wait rests order (fun due waits => ?_)).exists_rests
    exact Nat.not_lt.mp (fun passed => first ⟨due, waits, passed⟩)

end Course

/-- Every timeline of queries has a course of events. -/
theorem exists_course (start : PreviewTask) {notices : List Notice} {now : Nat}
    (fresh : start.Rests 0)
    (ordered : notices.Pairwise (fun earlier next => earlier.time ≤ next.time))
    (past : ∀ notice ∈ notices, notice.time ≤ now) :
    ∃ task, Course start notices now task ∧ task.Rests now := by
  induction notices using List.reverseRecOn generalizing now with
  | nil => exact Course.start.exists_later fresh (Nat.zero_le now)
  | append_singleton notices notice inner =>
    obtain ⟨before, _, order⟩ := List.pairwise_append.mp ordered
    obtain ⟨task, course, _⟩ := inner before
      (fun earlier member => order earlier member notice List.mem_cons_self)
    obtain ⟨next, sent, rests⟩ := (course.send notice.query).exists_rests
    exact sent.exists_later rests (past notice (List.mem_append_right _ List.mem_cons_self))

/-! ### The preview that a task keeps up with -/

/-- The task and the preview agree: the task rests with nothing to wait for and all is published; or
it waits for the end of the interval as the preview does; or it has not yet seen what the preview
was told at this time. -/
inductive KeepsUp (preview : Preview) (now : Nat) (task : PreviewTask) : Prop
  | resting (seen : task.seen = task.sent) (idle : task.timer = none)
    (nothing : (preview.settle now).waiting = none)
    (published : task.published = (preview.settle now).published)
  | waiting (seen : task.seen = task.sent) {due : Nat} (timer : task.timer = some due)
    (ahead : now ≤ due) (waits : preview.waiting = some (task.current, due))
    (published : task.published = preview.published)
  | behind (unseen : task.seen < task.sent)
    (ahead : ∀ due, task.timer = some due → now < due)
    (waits : preview.waiting = some (task.current, now + preview.quiet.toNat))
    (published : task.published = preview.published)

namespace KeepsUp

variable {preview : Preview}

/-- Where nothing is due at this very time, publishing what was due before is publishing what is due
by now. -/
theorem advance_eq_settle (apart : ∀ query due, preview.waiting = some (query, due) → due ≠ now) :
    preview.advance now = preview.settle now := by
  unfold Preview.settle
  cases waits : preview.waiting with
  | none => rw [Preview.advance_of_none waits, Preview.advance_of_none waits]
  | some wait =>
    obtain ⟨query, due⟩ := wait
    rcases Nat.lt_trichotomy due now with passed | same | later
    · rw [Preview.advance_of_due waits passed,
        Preview.advance_of_due waits (Nat.lt_succ_of_lt passed)]
    · exact absurd same (apart query due waits)
    · rw [Preview.advance_of_later waits later.le, Preview.advance_of_later waits later]

theorem send (keeps : KeepsUp preview now task)
    (apart : ∀ query due, preview.waiting = some (query, due) → due ≠ now) (query : Query) :
    KeepsUp (preview.notify now query) now (task.send query) := by
  have waits : (preview.notify now query).waiting =
      some (query, now + (preview.notify now query).quiet.toNat) := by
    rw [Preview.notify, Preview.quiet_advance]
  cases keeps with
  | resting seen idle _ published =>
    refine .behind (Nat.lt_succ_of_le seen.le) ?_ waits ?_
    · intro due timer
      exact absurd timer (by simp [PreviewTask.send, idle])
    · exact published.trans (congrArg Preview.published (advance_eq_settle apart)).symm
  | @waiting seen due timer ahead before published =>
    -- what waits is not due yet, since the query does not come at the very end of the interval
    refine .behind (Nat.lt_succ_of_le seen.le) ?_ waits ?_
    · intro other same
      cases timer.symm.trans same
      exact Nat.lt_of_le_of_ne ahead (apart _ _ before).symm
    · exact published.trans (congrArg Preview.published
        (Preview.advance_of_later before ahead)).symm
  | behind unseen ahead before published =>
    refine .behind (Nat.lt_succ_of_lt unseen) ahead waits ?_
    exact published.trans (congrArg Preview.published
      (Preview.advance_of_later before (Nat.le_add_right now _))).symm

theorem step {next : PreviewTask} (keeps : KeepsUp preview now task)
    (compiler : task.compiler = preview.compiler) (quiet : task.quiet = preview.quiet)
    (stepped : Step now task next) : KeepsUp preview now next := by
  have restarted (changed : task.seen < task.sent) : KeepsUp preview now (task.restart now) := by
    cases keeps with
    | resting seen _ _ _ => exact absurd seen changed.ne
    | waiting seen _ _ _ _ => exact absurd seen changed.ne
    | behind _ _ waits published =>
      exact .waiting rfl rfl (Nat.le_add_right now _) (quiet ▸ waits) published
  cases stepped with
  | wake _ changed => exact restarted changed
  | again _ changed => exact restarted changed
  | publish waited ripe =>
    cases keeps with
    | resting _ idle _ _ => cases idle.symm.trans waited
    | waiting seen timer ahead waits published =>
      cases timer.symm.trans waited
      -- time does not go past the end of the interval
      obtain rfl : _ = now := ripe.antisymm ahead
      have settles := Preview.advance_of_due waits (Nat.lt_succ_self _)
      refine .resting rfl rfl (congrArg Preview.waiting settles) ?_
      refine Eq.trans ?_ (congrArg Preview.published settles).symm
      rw [publish, compiler, published]
    | behind _ ahead _ _ => exact absurd ripe (Nat.not_le.mpr (ahead _ waited))

theorem wait (keeps : KeepsUp preview now task) (rests : task.Rests now) (order : now ≤ later)
    (within : ∀ due, task.timer = some due → later ≤ due) : KeepsUp preview later task := by
  cases keeps with
  | resting seen idle nothing published =>
    have same : preview.settle later = preview.settle now := by
      unfold Preview.settle at nothing ⊢
      rw [← Preview.advance_advance preview (Nat.succ_le_succ order),
        Preview.advance_of_none nothing]
    exact .resting seen idle (same ▸ nothing) (same ▸ published)
  | waiting seen timer _ waits published =>
    exact .waiting seen timer (within _ timer) waits published
  | behind unseen _ _ _ => exact absurd (rests_iff.mp rests).1 (Nat.not_le.mpr unseen)

theorem published_eq (keeps : KeepsUp preview now task) (rests : task.Rests now) :
    task.published = (preview.settle now).published := by
  cases keeps with
  | resting _ _ _ published => exact published
  | waiting _ timer _ waits published =>
    have before := Preview.advance_of_later waits ((rests_iff.mp rests).2 _ timer)
    exact published.trans (congrArg Preview.published before).symm
  | behind unseen _ _ _ => exact absurd (rests_iff.mp rests).1 (Nat.not_le.mpr unseen)

end KeepsUp

/-! ### All courses -/

/-- The task as it is started, beside a channel with an initial query. -/
def begin (compiler : CompilerSettings) (quiet : UInt64) (initial : Query) : PreviewTask :=
  { compiler, quiet, current := initial }

theorem Course.settings (course : Course start notices now task) :
    task.compiler = start.compiler ∧ task.quiet = start.quiet := by
  induction course with
  | start => exact ⟨rfl, rfl⟩
  | send query _ inner => exact inner
  | wait _ _ _ _ inner => exact inner
  | step _ stepped inner =>
    cases stepped with
    | wake _ _ => exact inner
    | again _ _ => exact inner
    | publish _ _ => exact inner

/-- The task keeps up with the preview that is told of the same queries. -/
theorem Course.keepsUp {compiler : CompilerSettings} {quiet : UInt64} {initial : Query}
    (course : Course (begin compiler quiet initial) notices now task)
    (apart : notices.IsChain (fun earlier next => next.time ≠ earlier.time + quiet.toNat)) :
    KeepsUp (Preview.afterNotices { compiler, quiet } notices) now task := by
  induction course with
  | start => exact .resting rfl rfl rfl rfl
  | @send notices now task query before inner =>
    obtain ⟨chain, _, ends⟩ := List.isChain_append.mp apart
    rw [Preview.afterNotices_append]
    refine (inner chain).send (fun other due waits => ?_) query
    obtain ⟨last, found, same⟩ := Preview.waiting_afterNotices rfl waits
    exact fun now => ends last found _ rfl (now.symm.trans same)
  | @step notices now task next before stepped inner =>
    have told := Preview.settings_afterNotices { compiler, quiet } notices
    exact (inner apart).step (before.settings.1.trans told.1.symm)
      (before.settings.2.trans told.2.symm) stepped
  | wait before rests order within inner => exact (inner apart).wait rests order within

theorem rests_begin (compiler : CompilerSettings) (quiet : UInt64) (initial : Query) :
    (begin compiler quiet initial).Rests 0 :=
  rests_iff.mpr ⟨Nat.le_refl 0, fun _ waits => by contradiction⟩

end PreviewTask

/-! ### Timelines -/

namespace Notice

/-- No later notice comes in the interval after a settled one. -/
theorem lt_of_isSettled {quiet : Nat} {notice other : Notice} {later : List Notice}
    (settled : notice.isSettled quiet later = true)
    (ordered : later.Pairwise (fun earlier next => earlier.time ≤ next.time))
    (member : other ∈ later) : notice.time + quiet < other.time := by
  cases later with
  | nil => contradiction
  | cons next later =>
    have first : notice.time + quiet < next.time := by simpa [isSettled] using settled
    rcases List.mem_cons.mp member with rfl | after
    · exact first
    · exact first.trans_le (List.rel_of_pairwise_cons ordered after)

end Notice

namespace PreviewTask

open Notice

/-- Along every timeline of queries of which none comes at the very end of the interval after the
one before, the task has a course of events, and in each it publishes the same. It publishes, each
at the end of the interval after it, the queries after which the next one comes more than the
interval later, or never. So nothing is published when another query has come since; and once the
interval after the last query has passed, that query is what was published last, and the only one
published if the queries came one upon another. -/
theorem courses_publish_settled (compiler : CompilerSettings) (quiet : UInt64) (initial : Query)
    {notices : List Notice} {now : Nat}
    (ordered : notices.Pairwise (fun earlier next => earlier.time ≤ next.time))
    (apart : notices.IsChain (fun earlier next => next.time ≠ earlier.time + quiet.toNat))
    (past : ∀ notice ∈ notices, notice.time ≤ now) :
    let preview := (Preview.afterNotices { compiler, quiet } notices).settle now
    (∃ task, Course (begin compiler quiet initial) notices now task ∧ task.Rests now) ∧
    (∀ task, Course (begin compiler quiet initial) notices now task → task.Rests now →
      task.published = preview.published ∧ task.latest? = preview.latest?) ∧
    preview.published.reverse =
      ((settled quiet.toNat notices).filter (fun notice => notice.time + quiet.toNat ≤ now)).map
        (publication compiler quiet.toNat) ∧
    (∀ published ∈ preview.published, ∃ before notice after,
      notices = before ++ notice :: after ∧
      published = notice.publication compiler quiet.toNat ∧
      ∀ other ∈ after, published.time < other.time) ∧
    ∀ last, notices.getLast? = some last → last.time + quiet.toNat ≤ now →
      preview.latest? = some (last.query.compile compiler) ∧
      (notices.IsChain (fun earlier next => next.time ≤ earlier.time + quiet.toNat) →
        preview.published = [last.publication compiler quiet.toNat]) := by
  intro preview
  have whole := Preview.published_afterNotices compiler quiet past
  refine ⟨exists_course _ (rests_begin compiler quiet initial) ordered past, ?_, whole, ?_, ?_⟩
  · intro task course rests
    have same := (course.keepsUp apart).published_eq rests
    exact ⟨same, congrArg (fun published => published.head?.map Publication.compiled) same⟩
  · intro published member
    rw [← List.mem_reverse, whole] at member
    obtain ⟨notice, kept, rfl⟩ := List.mem_map.mp member
    obtain ⟨before, after, rfl, quieted⟩ := mem_settled (List.mem_filter.mp kept).1
    refine ⟨before, notice, after, rfl, rfl, fun other later => ?_⟩
    have sorted := (List.pairwise_cons.mp (List.pairwise_append.mp ordered).2.1).2
    exact lt_of_isSettled quieted sorted later
  · intro last ends ripe
    exact ⟨Preview.latest?_afterNotices compiler past ends ripe,
      Preview.published_of_burst compiler past ends ripe⟩

/-- A query of one table and at once that of another; that of a third one comes after a pause. -/
def burstAndPause : List Notice :=
  [(0, "users"), (100, "orders"), (700, "events")].map (fun (time, name) =>
    { time, query := { tables := [{ id := .uniform 1, name }] } })

/-- The last query of the burst and the one after the pause are published. -/
theorem burstAndPause_published :
    (∀ notice ∈ burstAndPause, notice.time ≤ 2000) ∧
    burstAndPause.Pairwise (fun earlier next => earlier.time ≤ next.time) ∧
    burstAndPause.IsChain (fun earlier next => next.time ≠ earlier.time + 400) ∧
    ∃ task, Course (begin {} 400 {}) burstAndPause 2000 task ∧ task.Rests 2000 ∧
      task.published.reverse.map (fun published => (published.time, published.compiled.sql)) =
        [(500, "SELECT * FROM orders"), (1100, "SELECT * FROM events")] ∧
      task.latest?.map CompiledQuery.sql = some "SELECT * FROM events" := by
  have past : ∀ notice ∈ burstAndPause, notice.time ≤ 2000 := by decide
  have ordered : burstAndPause.Pairwise (fun earlier next => earlier.time ≤ next.time) := by decide
  have apart : burstAndPause.IsChain (fun earlier next => next.time ≠ earlier.time + 400) := by
    decide
  obtain ⟨⟨task, course, rests⟩, agrees, whole, _, last⟩ :=
    courses_publish_settled {} 400 {} ordered apart past
  obtain ⟨same, newest⟩ := agrees task course rests
  refine ⟨past, ordered, apart, task, course, rests, ?_, ?_⟩
  · rw [same, whole]
    decide +kernel
  · rw [newest, (last _ rfl (by decide)).1]
    decide +kernel

end PreviewTask

end QueryComposer
