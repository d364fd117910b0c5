import QueryComposer.Proofs.Where.Meaning

set_option autoImplicit false

/-!
Conditions as lists of pieces of any kind. What a query writes of its condition is one such list,
and what is said about it piece by piece is another; both come from the same recursion, so that the
second is settled by what it says about comparisons.
-/

namespace QueryComposer

/-! ### Lists with separators -/

theorem flatMap_intercalate {α β : Type} (f : α → List β) (separator : List α)
    (parts : List (List α)) :
    (separator.intercalate parts).flatMap f =
      (separator.flatMap f).intercalate (parts.map (List.flatMap f)) := by
  induction parts with
  | nil => simp
  | cons first parts inner =>
    cases parts with
    | nil => simp
    | cons second parts =>
      rw [List.intercalate_cons_cons, List.flatMap_append, List.flatMap_append, inner,
        List.map_cons, List.map_cons, List.map_cons, List.intercalate_cons_cons]

theorem intercalate_nil_separator {α : Type} (parts : List (List α)) :
    ([] : List α).intercalate parts = parts.flatten := by
  induction parts with
  | nil => simp
  | cons first parts inner =>
    cases parts with
    | nil => simp
    | cons second parts =>
      rw [List.intercalate_cons_cons, inner, List.append_nil]
      rfl

/-! ### Groups as pieces -/

/-- What stands between the parts of a group, and around a group within another. -/
structure GroupMarks (α : Type) where
  connective : Logic → List α
  opening : List α
  closing : List α

namespace GroupMarks

variable {α β : Type}

/-- A group from what its members become. -/
def combine (marks : GroupMarks α) (logic : Logic) (nested : Bool)
    (parts : List (Option (List α))) : Option (List α) :=
  match parts.filterMap id with
  | [] => none
  | [part] => some part
  | several =>
    let inner := (marks.connective logic).intercalate several
    if nested then some (marks.opening ++ inner ++ marks.closing) else some inner

/-- The marks with each piece turned into some of another kind. -/
def map (f : α → List β) (marks : GroupMarks α) : GroupMarks β :=
  { connective := fun logic => (marks.connective logic).flatMap f
    opening := marks.opening.flatMap f
    closing := marks.closing.flatMap f }

/-- No marks at all. -/
def absent : GroupMarks α :=
  { connective := fun _ => [], opening := [], closing := [] }

theorem filterMap_map_flatMap (f : α → List β) (parts : List (Option (List α))) :
    (parts.map (Option.map (List.flatMap f))).filterMap id =
      (parts.filterMap id).map (List.flatMap f) := by
  induction parts with
  | nil => rfl
  | cons part parts inner =>
    cases part with
    | none => simpa using inner
    | some tokens => simpa using inner

theorem map_combine (f : α → List β) (marks : GroupMarks α) (logic : Logic) (nested : Bool)
    (parts : List (Option (List α))) :
    (marks.combine logic nested parts).map (List.flatMap f) =
      (marks.map f).combine logic nested (parts.map (Option.map (List.flatMap f))) := by
  unfold combine
  rw [filterMap_map_flatMap]
  cases parts.filterMap id with
  | nil => rfl
  | cons first others =>
    cases others with
    | nil => rfl
    | cons second others =>
      simp only [List.map_cons]
      cases nested with
      | true => simp [map, flatMap_intercalate]
      | false => simp [map, flatMap_intercalate]

theorem flatten_combine_absent (logic : Logic) (nested : Bool)
    (parts : List (Option (List α))) :
    (absent.combine logic nested parts).toList.flatten = (parts.filterMap id).flatten := by
  unfold combine
  cases parts.filterMap id with
  | nil => rfl
  | cons first others =>
    cases others with
    | nil => rfl
    | cons second others =>
      cases nested with
      | true => simp [absent, intercalate_nil_separator]
      | false => simp [absent, intercalate_nil_separator]

end GroupMarks

namespace Condition

variable {α β : Type}

mutual

/-- A condition as pieces, given what its comparisons become. -/
def pieces? (marks : GroupMarks α) (shown : Comparison → Option (List α)) :
    Condition → Option (List α)
  | .leaf comparison => shown comparison
  | .group logic members => marks.combine logic true (piecesEach marks shown members)

def piecesEach (marks : GroupMarks α) (shown : Comparison → Option (List α)) :
    List Condition → List (Option (List α))
  | [] => []
  | member :: members => pieces? marks shown member :: piecesEach marks shown members

end

mutual

/-- The condition with its comparisons changed. -/
def mapLeaves (change : Comparison → Comparison) : Condition → Condition
  | .leaf comparison => .leaf (change comparison)
  | .group logic members => .group logic (mapLeavesOf change members)

def mapLeavesOf (change : Comparison → Comparison) : List Condition → List Condition
  | [] => []
  | member :: members => mapLeaves change member :: mapLeavesOf change members

end

mutual

theorem map_pieces? (f : α → List β) (marks : GroupMarks α)
    (shown : Comparison → Option (List α)) (condition : Condition) :
    (condition.pieces? marks shown).map (List.flatMap f) =
      condition.pieces? (marks.map f)
        (fun comparison => (shown comparison).map (List.flatMap f)) := by
  cases condition with
  | leaf comparison => rfl
  | group logic members =>
    rw [pieces?, pieces?, GroupMarks.map_combine, map_piecesEach f marks shown members]

theorem map_piecesEach (f : α → List β) (marks : GroupMarks α)
    (shown : Comparison → Option (List α)) (members : List Condition) :
    (piecesEach marks shown members).map (Option.map (List.flatMap f)) =
      piecesEach (marks.map f) (fun comparison => (shown comparison).map (List.flatMap f))
        members := by
  cases members with
  | nil => rfl
  | cons member members =>
    rw [piecesEach, piecesEach, List.map_cons, map_pieces? f marks shown member,
      map_piecesEach f marks shown members]

end

mutual

theorem pieces?_congr (marks : GroupMarks α) {shown other : Comparison → Option (List α)}
    (condition : Condition)
    (same : ∀ comparison ∈ condition.leaves, shown comparison = other comparison) :
    condition.pieces? marks shown = condition.pieces? marks other := by
  cases condition with
  | leaf comparison => exact same comparison List.mem_cons_self
  | group logic members => rw [pieces?, pieces?, piecesEach_congr marks members same]

theorem piecesEach_congr (marks : GroupMarks α) {shown other : Comparison → Option (List α)}
    (members : List Condition)
    (same : ∀ comparison ∈ leavesOf members, shown comparison = other comparison) :
    piecesEach marks shown members = piecesEach marks other members := by
  cases members with
  | nil => rfl
  | cons member members =>
    have first := pieces?_congr marks member
      (fun comparison listed => same comparison (List.mem_append_left _ listed))
    have others := piecesEach_congr marks members
      (fun comparison listed => same comparison (List.mem_append_right _ listed))
    rw [piecesEach, piecesEach, first, others]

end

mutual

theorem pieces?_mapLeaves (change : Comparison → Comparison) (marks : GroupMarks α)
    (shown : Comparison → Option (List α)) (condition : Condition) :
    (condition.mapLeaves change).pieces? marks shown =
      condition.pieces? marks (fun comparison => shown (change comparison)) := by
  cases condition with
  | leaf comparison => rfl
  | group logic members =>
    rw [mapLeaves, pieces?, pieces?, piecesEach_mapLeavesOf change marks shown members]

theorem piecesEach_mapLeavesOf (change : Comparison → Comparison) (marks : GroupMarks α)
    (shown : Comparison → Option (List α)) (members : List Condition) :
    piecesEach marks shown (mapLeavesOf change members) =
      piecesEach marks (fun comparison => shown (change comparison)) members := by
  cases members with
  | nil => rfl
  | cons member members =>
    rw [mapLeavesOf, piecesEach, piecesEach, pieces?_mapLeaves change marks shown member,
      piecesEach_mapLeavesOf change marks shown members]

end

mutual

theorem leaves_mapLeaves (change : Comparison → Comparison) (condition : Condition) :
    (condition.mapLeaves change).leaves = condition.leaves.map change := by
  cases condition with
  | leaf comparison => rfl
  | group logic members => rw [mapLeaves, leaves, leaves, leavesOf_mapLeavesOf change members]

theorem leavesOf_mapLeavesOf (change : Comparison → Comparison) (members : List Condition) :
    leavesOf (mapLeavesOf change members) = (leavesOf members).map change := by
  cases members with
  | nil => rfl
  | cons member members =>
    rw [mapLeavesOf, leavesOf, leavesOf, List.map_append, leaves_mapLeaves change member,
      leavesOf_mapLeavesOf change members]

end

mutual

theorem flatten_pieces?_absent (shown : Comparison → Option (List α)) (condition : Condition) :
    (condition.pieces? .absent shown).toList.flatten =
      condition.leaves.flatMap (fun comparison => (shown comparison).toList.flatten) := by
  cases condition with
  | leaf comparison => simp [pieces?, leaves]
  | group logic members =>
    rw [pieces?, GroupMarks.flatten_combine_absent, flatten_piecesEach_absent shown members, leaves]

theorem flatten_piecesEach_absent (shown : Comparison → Option (List α))
    (members : List Condition) :
    ((piecesEach .absent shown members).filterMap id).flatten =
      (leavesOf members).flatMap (fun comparison => (shown comparison).toList.flatten) := by
  cases members with
  | nil => rfl
  | cons member members =>
    rw [piecesEach, leavesOf, List.flatMap_append, ← flatten_pieces?_absent shown member,
      ← flatten_piecesEach_absent shown members]
    cases member.pieces? .absent shown <;> simp

end

end Condition

namespace ConditionGroup

/-- The condition of a query as pieces, given what its comparisons become. -/
def pieces? {α : Type} (marks : GroupMarks α) (shown : Comparison → Option (List α))
    (group : ConditionGroup) : Option (List α) :=
  marks.combine group.logic false (Condition.piecesEach marks shown group.members)

def mapLeaves (change : Comparison → Comparison) (group : ConditionGroup) : ConditionGroup :=
  { group with members := Condition.mapLeavesOf change group.members }

variable {α β : Type}

theorem map_pieces? (f : α → List β) (marks : GroupMarks α)
    (shown : Comparison → Option (List α)) (group : ConditionGroup) :
    (group.pieces? marks shown).map (List.flatMap f) =
      group.pieces? (marks.map f)
        (fun comparison => (shown comparison).map (List.flatMap f)) := by
  rw [pieces?, pieces?, GroupMarks.map_combine, Condition.map_piecesEach]

theorem pieces?_congr {marks : GroupMarks α} {shown other : Comparison → Option (List α)}
    (group : ConditionGroup)
    (same : ∀ comparison ∈ group.leaves, shown comparison = other comparison) :
    group.pieces? marks shown = group.pieces? marks other := by
  rw [pieces?, pieces?, Condition.piecesEach_congr marks group.members same]

theorem pieces?_mapLeaves (change : Comparison → Comparison) (marks : GroupMarks α)
    (shown : Comparison → Option (List α)) (group : ConditionGroup) :
    (group.mapLeaves change).pieces? marks shown =
      group.pieces? marks (fun comparison => shown (change comparison)) := by
  rw [pieces?, pieces?, mapLeaves, Condition.piecesEach_mapLeavesOf]

theorem leaves_mapLeaves (change : Comparison → Comparison) (group : ConditionGroup) :
    (group.mapLeaves change).leaves = group.leaves.map change :=
  Condition.leavesOf_mapLeavesOf change group.members

theorem flatten_pieces?_absent (shown : Comparison → Option (List α)) (group : ConditionGroup) :
    (group.pieces? .absent shown).toList.flatten =
      group.leaves.flatMap (fun comparison => (shown comparison).toList.flatten) := by
  rw [pieces?, GroupMarks.flatten_combine_absent, Condition.flatten_piecesEach_absent, leaves]

end ConditionGroup

/-! ### The pieces that a query writes -/

variable {tables : List Table} {policy : LiteralPolicy}

namespace WherePart

def marks : GroupMarks WhereToken :=
  { connective := fun logic => [.connective logic], opening := [.openGroup],
    closing := [.closeGroup] }

theorem connect_eq_intercalate (logic : Logic) (parts : List (List WhereToken)) :
    connect logic parts = [.connective logic].intercalate parts := by
  induction parts with
  | nil => rfl
  | cons first parts inner =>
    cases parts with
    | nil => simp [connect]
    | cons second parts =>
      rw [connect_cons_cons, inner, List.intercalate_cons_cons, List.append_assoc]
      rfl

theorem combine_eq_marks (logic : Logic) (nested : Bool) (parts : List WherePart) :
    combine logic nested parts = marks.combine logic nested parts := by
  unfold combine GroupMarks.combine
  cases parts.filterMap id with
  | nil => rfl
  | cons first others =>
    cases others with
    | nil => rfl
    | cons second others =>
      simp only [connect_eq_intercalate]
      rfl

end WherePart

namespace Condition

mutual

theorem part_eq_pieces? (condition : Condition) :
    (part tables policy condition).1 =
      condition.pieces? WherePart.marks
        (fun comparison => (comparison.atom? tables policy).map (fun shown => [.atom shown])) := by
  cases condition with
  | leaf comparison => exact leafPart_eq comparison
  | group logic members =>
    rw [part, pieces?, WherePart.combine_eq_marks, parts_eq_piecesEach members]

theorem parts_eq_piecesEach (members : List Condition) :
    (parts tables policy members).1 =
      piecesEach WherePart.marks
        (fun comparison => (comparison.atom? tables policy).map (fun shown => [.atom shown]))
        members := by
  cases members with
  | nil => rfl
  | cons member members =>
    rw [parts, piecesEach, part_eq_pieces? member, parts_eq_piecesEach members]

end

mutual

/-- The faults of a condition are those of its comparisons. -/
theorem part_faults (condition : Condition) :
    (part tables policy condition).2 =
      condition.leaves.flatMap (fun comparison => (leafPart tables policy comparison).2) := by
  cases condition with
  | leaf comparison => simp [part, leaves]
  | group logic members => rw [part, leaves, parts_faults members]

theorem parts_faults (members : List Condition) :
    (parts tables policy members).2 =
      (leavesOf members).flatMap (fun comparison => (leafPart tables policy comparison).2) := by
  cases members with
  | nil => rfl
  | cons member members =>
    rw [parts, leavesOf, List.flatMap_append, part_faults member, parts_faults members]

end

end Condition

namespace ConditionGroup

theorem wherePart_eq_pieces? (group : ConditionGroup) :
    (group.wherePart tables policy).1 =
      group.pieces? WherePart.marks
        (fun comparison => (comparison.atom? tables policy).map (fun shown => [.atom shown])) := by
  rw [wherePart_eq, WherePart.combine_eq_marks, Condition.parts_eq_piecesEach, pieces?]

/-- A condition has no fault when all of its comparisons are written. -/
theorem faultless_iff (group : ConditionGroup) :
    (group.wherePart tables policy).2 = [] ↔
      ∀ comparison ∈ group.leaves, ∃ shown, comparison.atom tables policy = .ok shown := by
  rw [wherePart_eq, Condition.parts_faults, List.flatMap_eq_nil_iff]
  refine forall₂_congr (fun comparison _ => ?_)
  unfold Condition.leafPart
  cases comparison.atom tables policy with
  | ok shown => simp
  | error fault => simp

end ConditionGroup

end QueryComposer
