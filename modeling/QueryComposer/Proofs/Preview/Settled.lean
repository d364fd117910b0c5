import Mathlib.Data.List.Chain
import Mathlib.Data.List.Induction
import QueryComposer.Execution.Preview

set_option autoImplicit false

/-!
What a preview publishes of the queries it is told of. A query is published at the end of the quiet
interval after it when no other one comes until then; the last one always is, in time.
-/

namespace QueryComposer

/-- A query that a preview is told of, and when. -/
structure Notice where
  time : Nat
  query : Query

namespace Notice

/-- The publication of the query at the end of the quiet interval after it. -/
def publication (compiler : CompilerSettings) (quiet : Nat) (notice : Notice) : Publication :=
  { time := notice.time + quiet, compiled := notice.query.compile compiler }

/-- The next notice, if there is one, comes more than the interval later. -/
def isSettled (quiet : Nat) (notice : Notice) (later : List Notice) : Bool :=
  later.head?.all (fun next => notice.time + quiet < next.time)

/-- The notices that are settled, in their order. -/
def settled (quiet : Nat) : List Notice → List Notice
  | [] => []
  | notice :: later =>
    if notice.isSettled quiet later then notice :: settled quiet later else settled quiet later

variable {quiet : Nat} {notices later : List Notice} {notice : Notice}

theorem settled_cons_of_pos (quieted : notice.isSettled quiet later = true) :
    settled quiet (notice :: later) = notice :: settled quiet later :=
  if_pos quieted

theorem settled_cons_of_neg (disturbed : ¬ notice.isSettled quiet later = true) :
    settled quiet (notice :: later) = settled quiet later :=
  if_neg disturbed

/-- The last notice is always settled. -/
theorem getLast?_settled (quiet : Nat) (notices : List Notice) :
    (settled quiet notices).getLast? = notices.getLast? := by
  induction notices with
  | nil => rfl
  | cons notice later inner =>
    by_cases quieted : notice.isSettled quiet later = true
    · rw [settled_cons_of_pos quieted, List.getLast?_cons, inner, ← List.getLast?_cons]
    · rw [settled_cons_of_neg quieted, inner]
      cases later with
      | nil => exact absurd rfl quieted
      | cons next later => exact List.getLast?_cons_cons.symm

theorem mem_settled (member : notice ∈ settled quiet notices) :
    ∃ before after, notices = before ++ notice :: after ∧ notice.isSettled quiet after = true := by
  induction notices with
  | nil => contradiction
  | cons first later inner =>
    by_cases quieted : first.isSettled quiet later = true
    · rw [settled_cons_of_pos quieted] at member
      rcases List.mem_cons.mp member with rfl | among
      · exact ⟨[], later, rfl, quieted⟩
      · obtain ⟨before, after, rfl, settled⟩ := inner among
        exact ⟨first :: before, after, rfl, settled⟩
    · rw [settled_cons_of_neg quieted] at member
      obtain ⟨before, after, rfl, settled⟩ := inner member
      exact ⟨first :: before, after, rfl, settled⟩

/-- Of notices that come one upon another only the last is settled. -/
theorem settled_of_burst (notice : Notice)
    (burst : (notice :: later).IsChain (fun earlier next => next.time ≤ earlier.time + quiet)) :
    settled quiet (notice :: later) = [(notice :: later).getLast (List.cons_ne_nil _ _)] := by
  induction later generalizing notice with
  | nil => rfl
  | cons next later inner =>
    obtain ⟨close, others⟩ := List.isChain_cons_cons.mp burst
    have disturbed : ¬ notice.isSettled quiet (next :: later) = true := by
      simpa [isSettled] using close
    rw [settled_cons_of_neg disturbed, inner next others, List.getLast_cons_cons]

end Notice

/-! ### Published queries -/

namespace Preview

variable {preview : Preview} {query : Query} {now due : Nat}

@[simp]
theorem compiler_advance (preview : Preview) (now : Nat) :
    (preview.advance now).compiler = preview.compiler := by
  unfold advance
  split
  · rfl
  · split
    · rfl
    · rfl

@[simp]
theorem quiet_advance (preview : Preview) (now : Nat) :
    (preview.advance now).quiet = preview.quiet := by
  unfold advance
  split
  · rfl
  · split
    · rfl
    · rfl

theorem advance_of_none (nothing : preview.waiting = none) (now : Nat) :
    preview.advance now = preview := by
  unfold advance
  rw [nothing]

theorem advance_of_later (waits : preview.waiting = some (query, due)) (later : now ≤ due) :
    preview.advance now = preview := by
  unfold advance
  rw [waits]
  exact if_neg (Nat.not_lt.mpr later)

theorem advance_of_due (waits : preview.waiting = some (query, due)) (passed : due < now) :
    preview.advance now =
      { preview with
        waiting := none
        published := ⟨due, query.compile preview.compiler⟩ :: preview.published } := by
  unfold advance
  rw [waits]
  exact if_pos passed

/-- The preview after it was told of queries. -/
def afterNotices (preview : Preview) (notices : List Notice) : Preview :=
  notices.foldl (fun told notice => told.notify notice.time notice.query) preview

theorem afterNotices_append (preview : Preview) (notices : List Notice) (notice : Notice) :
    preview.afterNotices (notices ++ [notice]) =
      (preview.afterNotices notices).notify notice.time notice.query := by
  unfold afterNotices
  rw [List.foldl_append, List.foldl_cons, List.foldl_nil]

theorem settings_afterNotices (preview : Preview) (notices : List Notice) :
    (preview.afterNotices notices).compiler = preview.compiler ∧
      (preview.afterNotices notices).quiet = preview.quiet := by
  induction notices using List.reverseRecOn with
  | nil => exact ⟨rfl, rfl⟩
  | append_singleton notices notice inner =>
    rw [afterNotices_append, notify, compiler_advance, quiet_advance]
    exact inner

/-- What waits is due at the end of the quiet interval after the last notice. -/
theorem waiting_afterNotices {notices : List Notice} (nothing : preview.waiting = none)
    (waits : (preview.afterNotices notices).waiting = some (query, due)) :
    ∃ last, notices.getLast? = some last ∧ due = last.time + preview.quiet.toNat := by
  induction notices using List.reverseRecOn with
  | nil => cases nothing.symm.trans waits
  | append_singleton notices notice _ =>
    rw [afterNotices_append, notify, (preview.settings_afterNotices notices).2] at waits
    obtain ⟨_, same⟩ := Prod.mk.inj (Option.some.inj waits)
    exact ⟨notice, List.getLast?_concat, same.symm⟩

/-- What a preview publishes that waits with a query and is told of others: those that settle. -/
theorem published_afterNotices_of_waiting (preview : Preview) {notice : Notice}
    {later : List Notice} {quiet : Nat} (same : preview.quiet.toNat = quiet)
    (waits : preview.waiting = some (notice.query, notice.time + quiet))
    (past : ∀ other ∈ later, other.time ≤ now) :
    ((preview.afterNotices later).settle now).published.reverse =
      preview.published.reverse ++
        ((Notice.settled quiet (notice :: later)).filter (fun told => told.time + quiet ≤ now)).map
          (Notice.publication preview.compiler quiet) := by
  -- by the notices that come: the next one publishes what waits, or takes its place
  induction later generalizing preview notice with
  | nil =>
    unfold afterNotices settle
    by_cases ripe : notice.time + quiet ≤ now
    · rw [List.foldl_nil, advance_of_due waits (Nat.lt_succ_of_le ripe)]
      simp [Notice.settled, Notice.isSettled, ripe, Notice.publication]
    · rw [List.foldl_nil, advance_of_later waits (Nat.not_le.mp ripe)]
      simp [Notice.settled, Notice.isSettled, ripe]
  | cons next later inner =>
    rw [List.forall_mem_cons] at past
    have told := @inner (preview.notify next.time next.query) next
      ((congrArg UInt64.toNat (quiet_advance preview next.time)).trans same)
      (by rw [notify, same]) past.2
    rw [afterNotices, List.foldl_cons]
    refine told.trans ?_
    rw [notify, compiler_advance]
    by_cases quieted : notice.time + quiet < next.time
    · have settled : notice.isSettled quiet (next :: later) = true := by
        simpa [Notice.isSettled] using quieted
      have ripe : notice.time + quiet ≤ now := quieted.le.trans past.1
      rw [Notice.settled_cons_of_pos settled, advance_of_due waits quieted,
        List.filter_cons_of_pos (by simpa using ripe)]
      simp [Notice.publication]
    · have disturbed : ¬ notice.isSettled quiet (next :: later) = true := by
        simpa [Notice.isSettled] using quieted
      rw [Notice.settled_cons_of_neg disturbed, advance_of_later waits (Nat.not_lt.mp quieted)]

/-- A preview that is told of queries has published, up to a time, those that have settled by it,
each at the end of the quiet interval after it. -/
theorem published_afterNotices (compiler : CompilerSettings) (quiet : UInt64)
    {notices : List Notice} (past : ∀ notice ∈ notices, notice.time ≤ now) :
    ((afterNotices { compiler, quiet } notices).settle now).published.reverse =
      ((Notice.settled quiet.toNat notices).filter
          (fun notice => notice.time + quiet.toNat ≤ now)).map
        (Notice.publication compiler quiet.toNat) := by
  cases notices with
  | nil => rfl
  | cons notice later =>
    exact published_afterNotices_of_waiting (notify { compiler, quiet } _ _)
      rfl rfl (List.forall_mem_cons.mp past).2

/-- Once the interval after the last notice has passed, its query is what was published last. -/
theorem latest?_afterNotices (compiler : CompilerSettings) {quiet : UInt64}
    {notices : List Notice} {last : Notice} (past : ∀ notice ∈ notices, notice.time ≤ now)
    (ends : notices.getLast? = some last) (ripe : last.time + quiet.toNat ≤ now) :
    ((afterNotices { compiler, quiet } notices).settle now).latest? =
      some (last.query.compile compiler) := by
  obtain ⟨others, split⟩ :=
    List.getLast?_eq_some_iff.mp ((Notice.getLast?_settled quiet.toNat notices).trans ends)
  have whole := published_afterNotices compiler quiet past
  rw [split, List.filter_append, List.filter_cons_of_pos (by simpa using ripe), List.filter_nil,
    List.map_append, List.map_cons, List.map_nil, List.reverse_eq_iff, List.reverse_append,
    List.reverse_singleton, List.singleton_append] at whole
  rw [latest?, whole]
  rfl

/-- Of notices that come one upon another only the query of the last is published. -/
theorem published_of_burst (compiler : CompilerSettings) {quiet : UInt64}
    {notices : List Notice} {last : Notice} (past : ∀ notice ∈ notices, notice.time ≤ now)
    (ends : notices.getLast? = some last) (ripe : last.time + quiet.toNat ≤ now)
    (burst : notices.IsChain (fun earlier next => next.time ≤ earlier.time + quiet.toNat)) :
    ((afterNotices { compiler, quiet } notices).settle now).published =
      [last.publication compiler quiet.toNat] := by
  cases notices with
  | nil => contradiction
  | cons notice later =>
    have final : (notice :: later).getLast (List.cons_ne_nil _ _) = last :=
      Option.some.inj ((List.getLast?_eq_some_getLast _).symm.trans ends)
    have whole := published_afterNotices compiler quiet past
    rw [Notice.settled_of_burst notice burst, final,
      List.filter_cons_of_pos (by simpa using ripe), List.filter_nil, List.map_cons, List.map_nil]
      at whole
    exact List.reverse_eq_iff.mp whole

end Preview

end QueryComposer
