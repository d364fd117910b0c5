import Mathlib.Data.Nat.PSub
import QueryComposer.Proofs.JoinPlan.Components

set_option autoImplicit false

/-!
The scheduling of joins as a loop that keeps a map of the tables in scope. When no waiting join has
a table in scope, an iteration cross joins a table and all joins keep waiting, but the iteration
after it takes the first of them away. So the loop ends, after at most two iterations for each join,
and leaves the clauses of the plan.
-/

namespace QueryComposer

/-! ### Steps that are left -/

namespace JoinPlan

theorem weight_pos (plan : JoinPlan) : 0 < plan.weight := by
  unfold weight
  cases plan.pending with
  | nil => exact Nat.one_pos
  | cons join pending =>
    rw [List.length_cons]
    omega

theorem weight_le (plan : JoinPlan) : plan.weight ≤ 2 * plan.pending.length + 1 := by
  unfold weight
  split
  · omega
  · omega

end JoinPlan

/-! ### The loop -/

/-- The joins that wait, the clauses so far, and for each table in scope the index of the clause
that introduced it; the first table has none. What was put in last stands first. -/
structure JoinSchedule where
  pending : List AcceptedJoin
  clauses : List JoinClause := []
  scope : List (TableId × Option Nat)
deriving Repr

namespace JoinSchedule

/-- Only the first table is in scope. -/
def start (first : Table) (joins : List AcceptedJoin) : JoinSchedule :=
  { pending := joins, scope := [(first.id, none)] }

/-- The clause that introduced a table, if the table is in scope. -/
def introducedBy? (schedule : JoinSchedule) (id : TableId) : Option (Option Nat) :=
  schedule.scope.lookup id

/-- One of the join's tables is in scope. -/
def isReady (schedule : JoinSchedule) (join : AcceptedJoin) : Bool :=
  (schedule.introducedBy? join.left.id).isSome || (schedule.introducedBy? join.right.id).isSome

/-- The schedule with a clause at the end, which brings its table into scope. -/
def introduce (schedule : JoinSchedule) (clause : JoinClause) : JoinSchedule :=
  { schedule with
    clauses := schedule.clauses ++ [clause]
    scope := (clause.table.id, some schedule.clauses.length) :: schedule.scope }

/-- The schedule with a predicate in a clause; the first table has no place for one. -/
def addPredicate (schedule : JoinSchedule) (clause : Option Nat) (join : AcceptedJoin) :
    JoinSchedule :=
  match clause with
  | some index =>
    { schedule with clauses := schedule.clauses.modify index (JoinClause.addPredicate join) }
  | none => schedule

/-- The schedule with a join of which at least one table is in scope. -/
def accept (schedule : JoinSchedule) (join : AcceptedJoin) : JoinSchedule :=
  match schedule.introducedBy? join.left.id, schedule.introducedBy? join.right.id with
  | some left, some right => schedule.addPredicate (max left right) join
  | some _, none => schedule.introduce (.on join.kind join.right [join])
  | none, _ => schedule.introduce (.on join.kind.mirrored join.left [join])

/-- One iteration, as long as joins wait: the first join that is ready is taken away; when none is,
the left table of the first join is cross joined. -/
def next? (schedule : JoinSchedule) : Option JoinSchedule :=
  match schedule.pending with
  | [] => none
  | head :: _ =>
    match takeFirst? schedule.isReady schedule.pending with
    | some (join, rest) => some { schedule.accept join with pending := rest }
    | none => some (schedule.introduce (.cross head.left))

/-- So many iterations lead from the first schedule to the second. -/
inductive Turns : Nat → JoinSchedule → JoinSchedule → Prop
  | none (schedule : JoinSchedule) : Turns 0 schedule schedule
  | next {count : Nat} {before now after : JoinSchedule} (first : before.next? = some now)
      (others : Turns count now after) : Turns (count + 1) before after

/-- The tables that were introduced without a join. -/
def crossed (schedule : JoinSchedule) : List Table :=
  schedule.clauses.filterMap JoinClause.crossed?

/-- The cross joins of the tables that are not in scope. -/
def leftOver (schedule : JoinSchedule) (tables : List Table) : List JoinClause :=
  (tables.filter (fun table => !(schedule.introducedBy? table.id).isSome)).map .cross

/-! ### Iterations -/

/-- The iteration takes the join away. -/
def Takes (join : AcceptedJoin) (schedule next : JoinSchedule) : Prop :=
  ∃ before after, schedule.pending = before ++ join :: after ∧ next.pending = before ++ after

/-- The iteration cross joins the left table of the first waiting join and takes no join away. -/
def Crosses (join : AcceptedJoin) (schedule next : JoinSchedule) : Prop :=
  (∃ after, schedule.pending = join :: after) ∧ next.pending = schedule.pending ∧
    next.clauses = schedule.clauses ++ [.cross join.left]

variable {schedule next : JoinSchedule}

theorem next?_eq_none_iff : schedule.next? = none ↔ schedule.pending = [] := by
  unfold next?
  split
  · rename_i finished
    exact iff_of_true rfl finished
  · rename_i head after waiting
    rw [waiting]
    split
    · exact iff_of_false (Option.some_ne_none _) (List.cons_ne_nil _ _)
    · exact iff_of_false (Option.some_ne_none _) (List.cons_ne_nil _ _)

theorem introducedBy?_introduce (schedule : JoinSchedule) (clause : JoinClause) (id : TableId) :
    (schedule.introduce clause).introducedBy? id =
      if id = clause.table.id then some (some schedule.clauses.length)
      else schedule.introducedBy? id := by
  unfold introducedBy? introduce
  rw [List.lookup_cons]
  by_cases same : id = clause.table.id
  · rw [if_pos same, beq_iff_eq.mpr same]
  · rw [if_neg same, beq_false_of_ne same]

theorem isReady_eq_false_iff (schedule : JoinSchedule) (join : AcceptedJoin) :
    schedule.isReady join = false ↔
      schedule.introducedBy? join.left.id = none ∧
        schedule.introducedBy? join.right.id = none := by
  rw [isReady, Bool.or_eq_false_iff, Option.isSome_eq_false_iff, Option.isSome_eq_false_iff,
    Option.isNone_iff_eq_none, Option.isNone_iff_eq_none]

/-- What an iteration can do: take a join away that is ready, or introduce the left table of the
first join when none is. -/
inductive Iteration (schedule : JoinSchedule) : JoinSchedule → Prop
  | take (before after : List AcceptedJoin) (join : AcceptedJoin)
      (waiting : schedule.pending = before ++ join :: after)
      (ready : schedule.isReady join = true) :
      Iteration schedule { schedule.accept join with pending := before ++ after }
  | cross (join : AcceptedJoin) (after : List AcceptedJoin)
      (waiting : schedule.pending = join :: after)
      (blocked : ∀ other ∈ schedule.pending, schedule.isReady other = false) :
      Iteration schedule (schedule.introduce (.cross join.left))

theorem iteration_of_next? (iterated : schedule.next? = some next) : Iteration schedule next := by
  unfold next? at iterated
  split at iterated
  · contradiction
  · rename_i head after waiting
    split at iterated
    · rename_i join rest taken
      cases iterated
      obtain ⟨before, after, split, rfl, _⟩ := takeFirst?_split taken
      exact .take before after join split (takeFirst?_meets taken)
    · rename_i none_taken
      cases iterated
      exact .cross head after waiting (takeFirst?_eq_none_iff.mp none_taken)

/-- After a table was cross joined, its join is taken away and introduces its other table. -/
theorem next?_introduce_cross {join : AcceptedJoin} {after : List AcceptedJoin}
    (waiting : schedule.pending = join :: after) (blocked : schedule.isReady join = false) :
    (schedule.introduce (.cross join.left)).next? =
      some { (schedule.introduce (.cross join.left)).introduce
        (.on join.kind join.right [join]) with pending := after } := by
  have leftKnown : (schedule.introduce (.cross join.left)).introducedBy? join.left.id =
      some (some schedule.clauses.length) := by
    rw [introducedBy?_introduce]
    exact if_pos rfl
  have rightUnknown : (schedule.introduce (.cross join.left)).introducedBy? join.right.id =
      none := by
    rw [introducedBy?_introduce]
    exact (if_neg join.distinct.symm).trans ((schedule.isReady_eq_false_iff join).mp blocked).2
  have ready : (schedule.introduce (.cross join.left)).isReady join = true := by
    rw [isReady, leftKnown]
    rfl
  have kept : (schedule.introduce (.cross join.left)).pending = join :: after := waiting
  unfold next?
  rw [kept]
  simp only [takeFirst?, ready, if_true]
  rw [accept, leftKnown, rightUnknown]

/-- An iteration takes a join away, or the next one does. -/
theorem takes_or_crosses (iterated : schedule.next? = some next) :
    (∃ join, Takes join schedule next) ∨
      ∃ join, Crosses join schedule next ∧
        ∃ later, next.next? = some later ∧ Takes join next later := by
  cases iteration_of_next? iterated with
  | take before after join waiting ready =>
    exact Or.inl ⟨join, before, after, waiting, rfl⟩
  | cross join after waiting blocked =>
    -- The join stands first and its left table is in scope from now on, so it is taken next.
    have unready : schedule.isReady join = false := by
      apply blocked
      rw [waiting]
      exact List.mem_cons_self
    exact Or.inr ⟨join, ⟨⟨after, waiting⟩, rfl, rfl⟩, _, next?_introduce_cross waiting unready,
      [], after, waiting, rfl⟩

/-! ### Cross joins among the clauses -/

theorem filterMap_crossed?_modify (clauses : List JoinClause) (index : Nat) (join : AcceptedJoin) :
    (clauses.modify index (JoinClause.addPredicate join)).filterMap JoinClause.crossed? =
      clauses.filterMap JoinClause.crossed? := by
  induction clauses generalizing index with
  | nil => rw [List.modify_nil]
  | cons clause clauses inner =>
    cases index with
    | zero => cases clause <;> rfl
    | succ index =>
      rw [List.modify_succ_cons, List.filterMap_cons, List.filterMap_cons, inner]

theorem crossed_introduce (schedule : JoinSchedule) (clause : JoinClause) :
    (schedule.introduce clause).crossed = schedule.crossed ++ clause.crossed?.toList := by
  unfold crossed introduce
  rw [List.filterMap_append]
  cases clause <;> rfl

theorem crossed_accept (schedule : JoinSchedule) (join : AcceptedJoin) :
    (schedule.accept join).crossed = schedule.crossed := by
  unfold accept
  split
  · unfold addPredicate
    split
    · exact filterMap_crossed?_modify schedule.clauses _ join
    · rfl
  · rw [crossed_introduce]
    exact List.append_nil _
  · rw [crossed_introduce]
    exact List.append_nil _

/-- An iteration takes one join away or cross joins one table. -/
theorem Iteration.balance (iteration : Iteration schedule next) :
    next.pending.length + schedule.crossed.length + 1 =
      schedule.pending.length + next.crossed.length := by
  cases iteration with
  | take before after join waiting ready =>
    have same : crossed { schedule.accept join with pending := before ++ after } =
        schedule.crossed := crossed_accept schedule join
    rw [same, waiting]
    simp only [List.length_append, List.length_cons]
    omega
  | cross join after waiting blocked =>
    rw [crossed_introduce]
    simp only [introduce, JoinClause.crossed?, Option.toList_some, List.length_append,
      List.length_singleton]
    omega

/-- There is one iteration for each join that was taken away and for each table that was cross
joined. -/
theorem Turns.balance {count : Nat} (turns : Turns count schedule next) :
    next.pending.length + schedule.crossed.length + count =
      schedule.pending.length + next.crossed.length := by
  induction turns with
  | none schedule => rfl
  | next first others inner =>
    have iteration := (iteration_of_next? first).balance
    omega

/-! ### The plan beside the loop -/

/-- The schedule and the plan have the same joins and clauses, and the map of the schedule tells the
place of every table that the plan introduced. -/
structure Tracks (schedule : JoinSchedule) (plan : JoinPlan) : Prop where
  pending : schedule.pending = plan.pending
  clauses : schedule.clauses = plan.clauses
  scope : ∀ id, schedule.introducedBy? id = (plan.place? id).map Nat.ppred

theorem max_ppred (left right : Nat) :
    max left.ppred right.ppred = (max left right).ppred := by
  cases left <;> cases right <;> simp

theorem tracks_start (first : Table) (joins : List AcceptedJoin) :
    (start first joins).Tracks { first, pending := joins } where
  pending := rfl
  clauses := rfl
  scope id := by
    unfold introducedBy? start JoinPlan.place?
    rw [List.lookup_cons]
    by_cases same : first.id = id
    · rw [if_pos same, beq_iff_eq.mpr same.symm]
      rfl
    · rw [if_neg same, beq_false_of_ne (Ne.symm same)]
      rfl

namespace Tracks

variable {plan : JoinPlan}

theorem isSome_introducedBy? (tracks : schedule.Tracks plan) (id : TableId) :
    (schedule.introducedBy? id).isSome = plan.inScope id := by
  rw [tracks.scope, Option.isSome_map]
  rfl

theorem isReady_eq (tracks : schedule.Tracks plan) (join : AcceptedJoin) :
    schedule.isReady join = plan.isReady join := by
  unfold isReady JoinPlan.isReady
  rw [tracks.isSome_introducedBy?, tracks.isSome_introducedBy?]

theorem withPending (tracks : schedule.Tracks plan) (pending : List AcceptedJoin) :
    Tracks { schedule with pending } { plan with pending } :=
  ⟨rfl, tracks.clauses, tracks.scope⟩

theorem introduce (tracks : schedule.Tracks plan) {clause : JoinClause}
    (absent : plan.place? clause.table.id = none) :
    (schedule.introduce clause).Tracks (plan.addClause clause) where
  pending := tracks.pending
  clauses := congrArg (· ++ [clause]) tracks.clauses
  scope id := by
    rw [introducedBy?_introduce, tracks.clauses, tracks.scope]
    by_cases same : id = clause.table.id
    · -- a new table has the place after all others
      rw [if_pos same, same, plan.place?_addClause_of_none clause absent, if_pos rfl]
      rfl
    · rw [if_neg same]
      cases placed : plan.place? id with
      | some place => rw [plan.place?_addClause_of_some clause placed]
      | none => rw [plan.place?_addClause_of_none clause placed, if_neg (Ne.symm same)]

theorem addPredicate (tracks : schedule.Tracks plan) (place : Nat) (join : AcceptedJoin) :
    (schedule.addPredicate (some place) join).Tracks (plan.addPredicateAt (place + 1) join) where
  pending := tracks.pending
  clauses := congrArg (List.modify · place (JoinClause.addPredicate join)) tracks.clauses
  scope id := by
    rw [JoinPlan.place?_addPredicateAt]
    exact tracks.scope id

theorem accept (tracks : schedule.Tracks plan) (join : AcceptedJoin) :
    (schedule.accept join).Tracks (plan.accept join) := by
  unfold JoinSchedule.accept JoinPlan.accept
  rw [tracks.scope, tracks.scope]
  cases leftPlaced : plan.place? join.left.id with
  | some left =>
    cases rightPlaced : plan.place? join.right.id with
    | some right =>
      -- The tables are different, so that the later one is not the first table and has a clause.
      have apart : left ≠ right := by
        rintro rfl
        exact join.distinct (plan.place?_inj leftPlaced rightPlaced)
      obtain ⟨place, later⟩ : ∃ place, max left right = place + 1 :=
        Nat.exists_eq_add_one.mpr (by omega)
      simp only [Option.map_some, max_ppred, later, Nat.ppred_succ]
      exact tracks.addPredicate place join
    | none => exact tracks.introduce rightPlaced
  | none => exact tracks.introduce leftPlaced

/-- An iteration of the loop is a step of the plan. -/
theorem exists_next? (tracks : schedule.Tracks plan) (waiting : plan.pending ≠ []) :
    ∃ next, schedule.next? = some next ∧ next.Tracks plan.step := by
  obtain ⟨head, after, pendingAt⟩ := List.exists_cons_of_ne_nil waiting
  have sameReady : schedule.isReady = plan.isReady := funext tracks.isReady_eq
  unfold next? JoinPlan.step
  rw [tracks.pending.trans pendingAt, pendingAt, sameReady]
  cases taken : takeFirst? plan.isReady (head :: after) with
  | some result =>
    obtain ⟨join, rest⟩ := result
    exact ⟨_, rfl, (tracks.accept join).withPending rest⟩
  | none =>
    have unready := takeFirst?_eq_none_iff.mp taken head List.mem_cons_self
    have absent : plan.place? (JoinClause.cross head.left).table.id = none :=
      ((plan.isReady_eq_false_iff head).mp unready).1
    exact ⟨_, rfl, tracks.introduce absent⟩

/-- The loop goes through the steps of the plan to its end. -/
theorem exists_turns (tracks : schedule.Tracks plan) :
    ∃ count last, Turns count schedule last ∧ last.Tracks plan.run ∧
      plan.run = JoinPlan.step^[count] plan := by
  fun_induction JoinPlan.run plan generalizing schedule with
  | case1 plan finished => exact ⟨0, schedule, .none schedule, tracks, rfl⟩
  | case2 plan waiting inner =>
    obtain ⟨next, iterated, stepped⟩ := tracks.exists_next? waiting
    obtain ⟨count, last, turns, ended, steps⟩ := inner stepped
    exact ⟨count + 1, last, .next iterated turns, ended, steps⟩

theorem leftOver_eq (tracks : schedule.Tracks plan) (tables : List Table) :
    schedule.leftOver tables = plan.leftOver tables := by
  unfold leftOver JoinPlan.leftOver
  simp only [tracks.isSome_introducedBy?]

/-- What the loop leaves, with the cross joins of the tables it did not reach, are the clauses of
the plan. -/
theorem clausesFor_eq {first : Table} {joins : List AcceptedJoin} {last : JoinSchedule}
    (tracks : last.Tracks (JoinPlan.run { first, pending := joins })) (others : List Table) :
    JoinPlan.clausesFor first others joins = last.clauses ++ last.leftOver others := by
  rw [tracks.clauses, tracks.leftOver_eq]
  rfl

end Tracks

/-! ### The end of the loop -/

/-- Each iteration uses up some of the weight of the plan, which counts a join twice and adds one
when no join is ready. -/
theorem Turns.exists_weight_le {plan : JoinPlan} {count : Nat} (turns : Turns count schedule next)
    (tracks : schedule.Tracks plan) :
    ∃ after, next.Tracks after ∧ count + after.weight ≤ plan.weight := by
  induction turns generalizing plan with
  | none schedule => exact ⟨plan, tracks, by omega⟩
  | next first others inner =>
    have waiting : plan.pending ≠ [] := by
      intro finished
      rw [next?_eq_none_iff.mpr (tracks.pending.trans finished)] at first
      contradiction
    obtain ⟨now, iterated, stepped⟩ := tracks.exists_next? waiting
    cases Option.some.inj (first.symm.trans iterated)
    obtain ⟨after, ended, bounded⟩ := inner stepped
    have shrinks := plan.weight_step waiting
    exact ⟨after, ended, by omega⟩

theorem Turns.count_le {first : Table} {joins : List AcceptedJoin} {schedule : JoinSchedule}
    {count : Nat} (turns : Turns count (start first joins) schedule) :
    count ≤ 2 * joins.length := by
  obtain ⟨after, _, bounded⟩ := turns.exists_weight_le (tracks_start first joins)
  have positive := after.weight_pos
  have initial : JoinPlan.weight { first, pending := joins } ≤ 2 * joins.length + 1 :=
    JoinPlan.weight_le _
  omega

/-- The loop that schedules joins ends, whatever the first table and the joins are. An iteration
that takes no join away cross joins a table of the first join, and the next iteration takes that
join away. There are never more than two iterations for each join; when the loop ends, there were as
many as there are joins and cross joins, and the plan was finished by as many steps and has the same
clauses. -/
theorem loop_ends_within_twice (first : Table) (joins : List AcceptedJoin) :
    (∀ schedule next, schedule.next? = some next →
      (∃ join, Takes join schedule next) ∨
        ∃ join, Crosses join schedule next ∧
          ∃ later, next.next? = some later ∧ Takes join next later) ∧
    (∀ count schedule, Turns count (start first joins) schedule → count ≤ 2 * joins.length) ∧
    ∃ count last, Turns count (start first joins) last ∧ last.pending = [] ∧
      count = joins.length + last.crossed.length ∧
      JoinPlan.run { first, pending := joins } =
        JoinPlan.step^[count] { first, pending := joins } ∧
      ∀ others, JoinPlan.clausesFor first others joins = last.clauses ++ last.leftOver others := by
  refine ⟨fun _ _ => takes_or_crosses, fun _ _ => Turns.count_le, ?_⟩
  obtain ⟨count, last, turns, ended, steps⟩ := (tracks_start first joins).exists_turns
  have finished : last.pending = [] := ended.pending.trans (JoinPlan.pending_run _)
  have counted : count = joins.length + last.crossed.length := by
    have balanced : last.pending.length + 0 + count = joins.length + last.crossed.length :=
      turns.balance
    rw [finished, List.length_nil] at balanced
    omega
  exact ⟨count, last, turns, finished, counted, steps, ended.clausesFor_eq⟩

/-! ### Joins apart from each other -/

/-- Two joins that share no table with each other. -/
def chainsApart : List AcceptedJoin :=
  [{ kind := .inner
     left := Table.plain 1 "orders"
     leftColumn := "id"
     right := Table.plain 2 "items"
     rightColumn := "order_id"
     distinct := by decide },
   { kind := .left
     left := Table.plain 3 "tags"
     leftColumn := "id"
     right := Table.plain 4 "labels"
     rightColumn := "tag_id"
     distinct := by decide }]

/-- Beside a table of neither, each join takes two iterations, so that the bound is reached. -/
theorem chainsApart_end_after_four :
    ∃ last, Turns 4 (start (Table.plain 0 "users") chainsApart) last ∧ last.pending = [] ∧
      last.crossed = [Table.plain 1 "orders", Table.plain 3 "tags"] ∧ 4 ≤ 2 * chainsApart.length ∧
      ∃ next, (start (Table.plain 0 "users") chainsApart).next? = some next ∧
        next.pending = chainsApart ∧
        ((∃ join, Takes join (start (Table.plain 0 "users") chainsApart) next) ∨
          ∃ join, Crosses join (start (Table.plain 0 "users") chainsApart) next ∧
            ∃ later, next.next? = some later ∧ Takes join next later) := by
  obtain ⟨progress, bounded, -⟩ := loop_ends_within_twice (Table.plain 0 "users") chainsApart
  have turns : Turns 4 (start (Table.plain 0 "users") chainsApart) _ :=
    .next rfl (.next rfl (.next rfl (.next rfl (.none _))))
  exact ⟨_, turns, rfl, rfl, bounded 4 _ turns, _, rfl, rfl, progress _ _ rfl⟩

end JoinSchedule

end QueryComposer
