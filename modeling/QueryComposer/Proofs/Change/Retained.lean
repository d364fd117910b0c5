import QueryComposer.Query.Condition

set_option autoImplicit false

/-!
What is left of a condition of which only some comparisons are kept. On the way through a condition
groups are entered and left, and comparisons are met; the way through what is left is the same one
without the comparisons that went, and there is only one condition with a given way through it.
-/

namespace QueryComposer

/-- What is met on the way through a condition, in depth and from left to right. -/
inductive Visit
  | enter (logic : Logic)
  | leaf (comparison : Comparison)
  | leave

namespace Visit

def comparison? : Visit → Option Comparison
  | .leaf comparison => some comparison
  | .enter _ | .leave => none

/-- The visit is not one of a comparison that goes. -/
def isKept (keep : Comparison → Bool) : Visit → Bool
  | .leaf comparison => keep comparison
  | .enter _ | .leave => true

theorem filterMap_filter_isKept (keep : Comparison → Bool) (visits : List Visit) :
    (visits.filter (isKept keep)).filterMap comparison? =
      (visits.filterMap comparison?).filter keep := by
  rw [List.filterMap_filter, List.filter_filterMap]
  congr 1
  funext visit
  cases visit with
  | enter logic => rfl
  | leave => rfl
  | leaf comparison => rfl

end Visit

namespace Condition

mutual

/-- The way through a condition. -/
def visits : Condition → List Visit
  | .leaf comparison => [.leaf comparison]
  | .group logic members => .enter logic :: (visitsOf members ++ [.leave])

def visitsOf : List Condition → List Visit
  | [] => []
  | member :: members => visits member ++ visitsOf members

end

mutual

theorem leaves_eq_visits (condition : Condition) :
    condition.leaves = condition.visits.filterMap Visit.comparison? := by
  cases condition with
  | leaf comparison => rfl
  | group logic members =>
    rw [leaves, visits, List.filterMap_cons_none rfl, List.filterMap_append,
      ← leavesOf_eq_visitsOf members, List.filterMap_cons_none rfl, List.filterMap_nil,
      List.append_nil]

theorem leavesOf_eq_visitsOf (members : List Condition) :
    leavesOf members = (visitsOf members).filterMap Visit.comparison? := by
  cases members with
  | nil => rfl
  | cons member members =>
    rw [leavesOf, visitsOf, List.filterMap_append, ← leaves_eq_visits member,
      ← leavesOf_eq_visitsOf members]

end

mutual

/-- A condition is found again in its visits, whatever follows them. -/
theorem visits_append_inj {condition other : Condition} {rest more : List Visit}
    (same : condition.visits ++ rest = other.visits ++ more) :
    condition = other ∧ rest = more := by
  -- The rests differ from call to call: behind the members of a group stands its end.
  cases condition with
  | leaf comparison =>
    cases other with
    | leaf comparison =>
      cases same
      exact ⟨rfl, rfl⟩
    | group logic members => cases same
  | group logic members =>
    cases other with
    | leaf comparison => cases same
    | group otherLogic others =>
      simp only [visits, List.cons_append, List.append_assoc, List.nil_append, List.cons.injEq,
        Visit.enter.injEq] at same
      obtain ⟨rfl, inside⟩ := same
      obtain ⟨rfl, rfl⟩ := visitsOf_append_inj inside
      exact ⟨rfl, rfl⟩

theorem visitsOf_append_inj {members others : List Condition} {rest more : List Visit}
    (same : visitsOf members ++ .leave :: rest = visitsOf others ++ .leave :: more) :
    members = others ∧ rest = more := by
  cases members with
  | nil =>
    cases others with
    | nil =>
      cases same
      exact ⟨rfl, rfl⟩
    | cons other others => cases other <;> cases same
  | cons member members =>
    cases others with
    -- One side leaves the group where the other one meets a member.
    | nil => cases member <;> cases same
    | cons other others =>
      rw [visitsOf, visitsOf, List.append_assoc, List.append_assoc] at same
      obtain ⟨rfl, further⟩ := visits_append_inj same
      obtain ⟨rfl, rfl⟩ := visitsOf_append_inj further
      exact ⟨rfl, rfl⟩

end

/-! ### What is left -/

theorem getD_retainOf?_leaf (keep : Comparison → Bool) (comparison : Comparison)
    (members : List Condition) :
    (retainOf? keep (.leaf comparison :: members)).getD (.leaf comparison :: members) =
      if keep comparison then .leaf comparison :: (retainOf? keep members).getD members
      else (retainOf? keep members).getD members := by
  rw [retainOf?, retainBefore?]
  by_cases kept : keep comparison
  · rw [if_pos kept, if_pos kept]
    cases retainOf? keep members <;> rfl
  · rw [if_neg kept, if_neg kept]
    rfl

theorem getD_retainOf?_group (keep : Comparison → Bool) (logic : Logic)
    (inner members : List Condition) :
    (retainOf? keep (.group logic inner :: members)).getD (.group logic inner :: members) =
      .group logic ((retainOf? keep inner).getD inner) ::
        (retainOf? keep members).getD members := by
  rw [retainOf?]
  unfold retainBefore?
  cases retainOf? keep inner with
  | some fewer => rfl
  | none => cases retainOf? keep members <;> rfl

/-- The way through what is left is the way through all, without the comparisons that go. -/
theorem visitsOf_retainOf? (keep : Comparison → Bool) (members : List Condition) :
    visitsOf ((retainOf? keep members).getD members) =
      (visitsOf members).filter (Visit.isKept keep) := by
  match members with
  | [] => rfl
  | .leaf comparison :: members =>
    have others := visitsOf_retainOf? keep members
    rw [getD_retainOf?_leaf]
    by_cases kept : keep comparison
    · have first : Visit.isKept keep (.leaf comparison) = true := kept
      rw [if_pos kept, visitsOf, visitsOf, visits, List.filter_append, others,
        List.filter_cons_of_pos first]
      rfl
    · have first : ¬ Visit.isKept keep (.leaf comparison) = true := kept
      rw [if_neg kept, others, visitsOf, visits, List.filter_append,
        List.filter_cons_of_neg first]
      rfl
  | .group logic inner :: members =>
    have within := visitsOf_retainOf? keep inner
    have others := visitsOf_retainOf? keep members
    rw [getD_retainOf?_group, visitsOf, visitsOf, visits, visits, List.filter_append, others,
      within, List.filter_cons_of_pos rfl, List.filter_append, List.filter_cons_of_pos rfl]
    rfl

end Condition

namespace ConditionGroup

/-- The way through the condition of a query. -/
def visits (group : ConditionGroup) : List Visit :=
  group.toCondition.visits

/-- There is only one condition with a given way through it. -/
theorem visits_injective {group other : ConditionGroup} (same : group.visits = other.visits) :
    group = other := by
  have whole : group.toCondition.visits ++ [] = other.toCondition.visits ++ [] :=
    congrArg (· ++ []) same
  obtain ⟨equal, _⟩ := Condition.visits_append_inj whole
  cases group
  cases other
  cases equal
  rfl

theorem visits_retainLeaves (group : ConditionGroup) (keep : Comparison → Bool) :
    (group.retainLeaves keep).visits = group.visits.filter (Visit.isKept keep) := by
  unfold visits toCondition retainLeaves
  rw [Condition.visits, Condition.visits, Condition.visitsOf_retainOf?,
    List.filter_cons_of_pos rfl, List.filter_append, List.filter_cons_of_pos rfl]
  rfl

theorem leaves_retainLeaves (group : ConditionGroup) (keep : Comparison → Bool) :
    (group.retainLeaves keep).leaves = group.leaves.filter keep := by
  unfold leaves
  rw [Condition.leavesOf_eq_visitsOf, Condition.leavesOf_eq_visitsOf,
    ← Visit.filterMap_filter_isKept, ← Condition.visitsOf_retainOf?]
  rfl

end ConditionGroup

end QueryComposer
