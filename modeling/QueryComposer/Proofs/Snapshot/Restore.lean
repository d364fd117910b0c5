import QueryComposer.Proofs.Change.References
import QueryComposer.Proofs.Snapshot.Conditions

set_option autoImplicit false

/-!
Snapshots are exact. A query whose tables and joins are all different is restored from its snapshot
when it refers to no table outside itself and its text does not nest beyond what can be read, and is
refused otherwise. Only its conditions can nest that deep: everything else in a query has a fixed
depth.
-/

namespace QueryComposer

open QueryComposer.Number

/-! ### Queries as data values -/

namespace Query

/-- The floating-point numbers in a query: those in its stored suggestions and in the values of its
conditions. -/
def floats (query : Query) : List Binary64 :=
  query.joins.flatMap Join.floats ++ Condition.floatsOf query.conditions.members

variable {query : Query}

theorem stored_join (stored : ∀ number ∈ query.floats, Stored number) {join : Join}
    (member : join ∈ query.joins) : ∀ number ∈ join.floats, Stored number :=
  fun number held =>
    stored number (List.mem_append_left _ (List.mem_flatMap.mpr ⟨join, member, held⟩))

theorem stored_conditions (stored : ∀ number ∈ query.floats, Stored number) :
    ∀ number ∈ Condition.floatsOf query.conditions.members, Stored number :=
  fun number held => stored number (List.mem_append_right _ held)

theorem faithful_count (count : UInt64) : (countToJson count).Faithful :=
  JsonNumber.readsBack_natural count.toNat_lt

theorem faithful_toJson (stored : ∀ number ∈ query.floats, Stored number) :
    query.toJson.Faithful := by
  have conditions := ConditionGroup.faithful_toJson (stored_conditions stored)
  have joins : ∀ join ∈ query.joins, join.toJson.Faithful :=
    fun join member => Join.faithful_toJson (stored_join stored member)
  have count (name : String) (count? : Option UInt64) :
      ∀ member ∈ Json.memberIfSet name countToJson count?, member.2.Faithful := by
    cases count? with
    | none => simp [Json.memberIfSet]
    | some count => simpa [Json.memberIfSet] using faithful_count count
  rw [toJson, Json.faithful_object_iff]
  intro member listed
  rcases List.mem_append.mp listed with early | offset
  · rcases List.mem_append.mp early with known | limit
    · simp only [List.mem_cons, List.not_mem_nil, or_false] at known
      rcases known with rfl | rfl | rfl | rfl | rfl
      · simpa using fun table _ => Table.faithful_toJson table
      · simpa using joins
      · exact conditions
      · simpa using fun column _ => ColumnRef.faithful_toJson column
      · simpa using fun entry _ => OrderEntry.faithful_toJson entry
    · exact count _ _ member limit
  · exact count _ _ member offset

theorem optionalValue_count (count : UInt64) :
    Json.Fields.optionalValue Json.asUInt64? (some (countToJson count)) = some (some count) := by
  have back : Json.asUInt64? (countToJson count) = some count := Json.asUInt64?_ofNat count
  rw [countToJson, Json.ofNat] at back ⊢
  rw [Json.Fields.optionalValue_number, back]
  rfl

theorem ofJson?_toJson (stored : ∀ number ∈ query.floats, Stored number) :
    ofJson? query.toJson = some query := by
  obtain ⟨tables, joins, conditions, groupBy, orderBy, limit, offset⟩ := query
  have tablesBack : Json.asList? Table.ofJson? (.array (tables.map Table.toJson)) = some tables :=
    Json.asList?_map (fun table _ => table.ofJson?_toJson)
  have joinsBack : Json.asList? Join.ofJson? (.array (joins.map Join.toJson)) = some joins :=
    Json.asList?_map (fun join member => Join.ofJson?_toJson (stored_join stored member))
  have conditionsBack : ConditionGroup.ofJson? conditions.toJson = some conditions :=
    ConditionGroup.ofJson?_toJson (stored_conditions stored)
  have groupByBack : Json.asList? ColumnRef.ofJson? (.array (groupBy.map ColumnRef.toJson)) =
      some groupBy := Json.asList?_map (fun column _ => column.ofJson?_toJson)
  have orderByBack : Json.asList? OrderEntry.ofJson? (.array (orderBy.map OrderEntry.toJson)) =
      some orderBy := Json.asList?_map (fun entry _ => entry.ofJson?_toJson)
  rw [toJson, ofJson?, Json.fields?_members
    (by cases limit <;> cases offset <;> simp [Json.memberIfSet])
    (by cases limit <;> cases offset <;> simp [Json.memberIfSet])]
  cases limit <;> cases offset <;>
    simp [Json.memberIfSet, List.lookup_cons, tablesBack, joinsBack, conditionsBack, groupByBack,
      orderByBack, optionalValue_count]

/-! ### Queries that nest too deep -/

/-- Whether a query nests beyond what can be read is decided by its conditions, which stand inside
three objects and arrays. -/
theorem depth_toJson_le_iff (query : Query) :
    query.toJson.depth ≤ Json.depthLimit ↔
      ∀ condition ∈ query.conditions.members, condition.toJson.depth + 3 ≤ Json.depthLimit := by
  have conditions : query.conditions.toJson.depth ≤ 126 ↔
      ∀ condition ∈ query.conditions.members, condition.toJson.depth ≤ 124 := by
    rw [ConditionGroup.toJson, Json.depth_object_le_iff _ 125, List.forall_mem_cons,
      List.forall_mem_singleton, Json.depth_array_le_iff _ 124, Condition.membersToJson_eq_map,
      List.forall_mem_map]
    exact and_iff_right (Nat.zero_le _)
  have count (name : String) (count? : Option UInt64) :
      ∀ member ∈ Json.memberIfSet name countToJson count?, member.2.depth ≤ 126 := by
    cases count? <;> simp [Json.memberIfSet, countToJson, Json.ofNat, Json.depth]
  have list {α : Type} (encode : α → Json) (items : List α)
      (shallow : ∀ item ∈ items, (encode item).depth ≤ 3) :
      (Json.array (items.map encode)).depth ≤ 126 := by
    refine (Json.depth_array_le_iff _ 125).mpr (List.forall_mem_map.mpr ?_)
    exact fun item member => Nat.le_trans (shallow item member) (by decide)
  have tables := list Table.toJson query.tables (fun table _ => table.depth_toJson_le)
  have joins := list Join.toJson query.joins (fun join _ => join.depth_toJson_le)
  have groupBy := list ColumnRef.toJson query.groupBy
    (fun column _ => Nat.le_trans column.depth_toJson_le (by decide))
  have orderBy := list OrderEntry.toJson query.orderBy
    (fun entry _ => Nat.le_trans entry.depth_toJson_le (by decide))
  rw [toJson, Json.depthLimit, Json.depth_object_le_iff _ 126]
  simp only [List.forall_mem_append, List.forall_mem_cons, tables, joins, groupBy, orderBy,
    conditions, List.not_mem_nil, false_implies, implies_true, and_true, true_and]
  rw [and_iff_left (count _ query.offset), and_iff_left (count _ query.limit)]
  exact forall₂_congr (fun condition _ => by omega)

/-- A query is not taken back when a condition nests beyond what can be read. -/
theorem ofJson?_cut_eq_none {condition : Condition} (member : condition ∈ query.conditions.members)
    (beyond : Json.depthLimit < condition.toJson.depth + 3) :
    ofJson? (query.toJson.cut 0) = none := by
  have refused : Condition.ofJson? (condition.toJson.cut 3) = none :=
    Condition.read?_of_unreadable
      (Json.isReadable_cut condition.toJson 3 (by decide) (by omega)) .direct
  have members : Json.asList? Condition.ofJson?
      (.array (query.conditions.members.map (fun condition => condition.toJson.cut 3))) = none :=
    Json.asList?_eq_none (List.mem_map_of_mem member) refused
  have group : ConditionGroup.ofJson? (query.conditions.toJson.cut 1) = none := by
    have items : Json.cutItems 3 (Condition.membersToJson query.conditions.members) =
        query.conditions.members.map (fun condition => condition.toJson.cut 3) := by
      rw [Json.cutItems_eq_map, Condition.membersToJson_eq_map, List.map_map]
      rfl
    have object : query.conditions.toJson.cut 1 =
        .object [("logic", query.conditions.logic.toJson),
          ("conditions", .array (Json.cutItems 3
            (Condition.membersToJson query.conditions.members)))] := rfl
    rw [object, items, ConditionGroup.ofJson?, Json.fields?_members (by simp) (by simp)]
    simp [List.lookup_cons, Logic.ofJson?, members]
  rw [toJson, Json.cut, if_pos (by decide), ofJson?, Json.fields?_members
    (by rw [Json.names_cutMembers]; cases query.limit <;> cases query.offset <;>
          simp [Json.memberIfSet])
    (by rw [Json.names_cutMembers]; cases query.limit <;> cases query.offset <;>
          simp [Json.memberIfSet])]
  simp [Json.cutMembers, List.lookup_cons, group]

/-! ### Restored queries -/

theorem firstRepeated?_eq_none {α κ : Type} [DecidableEq κ] {key : α → κ} {seen : List κ}
    {items : List α} (distinct : (items.map key).Nodup) (new : ∀ item ∈ items, key item ∉ seen) :
    firstRepeated? key seen items = none := by
  induction items generalizing seen with
  | nil => rfl
  | cons item items induct =>
    rw [List.map_cons, List.nodup_cons] at distinct
    have unseen : ¬seen.contains (key item) = true := by
      simpa using new item List.mem_cons_self
    rw [firstRepeated?, if_neg unseen]
    refine induct distinct.2 ?_
    intro other member
    rw [List.mem_cons, not_or]
    refine ⟨?_, new other (List.mem_cons_of_mem item member)⟩
    intro same
    exact distinct.1 (same ▸ List.mem_map_of_mem member)

/-- A query whose tables and joins are all different is kept when it names only its own tables. -/
theorem checked_eq_ok_iff (distinctTables : (query.tables.map Table.id).Nodup)
    (distinctJoins : (query.joins.map Join.id).Nodup) :
    query.checked = .ok query ↔ query.RefersWithin := by
  constructor
  · intro done
    exact (checked_eq_ok done).2
  · intro within
    have known : query.referencedTables.find?
        (fun id => !(query.tables.map Table.id).contains id) = none := by
      rw [List.find?_eq_none]
      intro id member
      have listed := List.contains_iff_mem.mpr (within id member)
      rw [tableIds] at listed
      simp only [listed, Bool.not_true, Bool.false_eq_true, not_false_eq_true]
    rw [checked, firstRepeated?_eq_none distinctTables (fun _ _ => List.not_mem_nil),
      firstRepeated?_eq_none distinctJoins (fun _ _ => List.not_mem_nil), known]

/-- What is read from the snapshot of a query. -/
theorem read_snapshot (stored : ∀ number ∈ query.floats, Stored number) :
    read query.snapshot =
      if query.toJson.depth ≤ Json.depthLimit then .ok query else .error .malformedData := by
  have faithful := faithful_toJson stored
  rw [read, snapshot, Json.parse?_render faithful, Option.bind_some]
  split
  · next refused =>
    split
    · next within =>
      rw [Json.cut_eq_self _ faithful 0 (by omega), ofJson?_toJson stored] at refused
      cases refused
    · rfl
  · next found back =>
    split
    · next within =>
      rw [Json.cut_eq_self _ faithful 0 (by omega), ofJson?_toJson stored] at back
      cases back
      rfl
    · next beyond =>
      simp only [depth_toJson_le_iff, not_forall, Nat.not_le] at beyond
      obtain ⟨condition, member, deep⟩ := beyond
      rw [ofJson?_cut_eq_none member deep] at back
      cases back

/-- A query whose tables and joins are all different is restored from its snapshot when all tables
that it names are its own and the text nests at most 127 arrays and objects; otherwise the snapshot
is refused. Its floating-point numbers are finite and such as are read as they were written. -/
theorem restore_snapshot_iff (query : Query)
    (distinctTables : (query.tables.map Table.id).Nodup)
    (distinctJoins : (query.joins.map Join.id).Nodup)
    (finite : ∀ number ∈ query.floats, number.isFinite = true)
    (readBack : ∀ number ∈ query.floats, number.isFinite = true →
      (JsonNumber.decimal number).ReadsBack) :
    (restore query.snapshot = .ok query ↔
      query.RefersWithin ∧ Json.nestsWithin 127 query.snapshot = true) ∧
    (¬(query.RefersWithin ∧ Json.nestsWithin 127 query.snapshot = true) →
      ∃ error, restore query.snapshot = .error error) := by
  have stored : ∀ number ∈ query.floats, Stored number :=
    fun number member => ⟨finite number member, readBack number member (finite number member)⟩
  have nests : Json.nestsWithin 127 query.snapshot = true ↔ query.toJson.depth ≤ 127 :=
    Json.nestsWithin_render_iff (faithful_toJson stored) 127
  have whole : restore query.snapshot = if query.toJson.depth ≤ 127 then query.checked
      else .error .malformedData := by
    rw [restore, read_snapshot stored, Json.depthLimit]
    split <;> rfl
  rw [nests, whole, ← checked_eq_ok_iff distinctTables distinctJoins]
  by_cases within : query.toJson.depth ≤ 127
  · rw [if_pos within, and_iff_left within]
    refine ⟨Iff.rfl, ?_⟩
    intro refused
    cases kept : query.checked with
    | error error => exact ⟨error, rfl⟩
    | ok changed =>
      obtain ⟨rfl, _⟩ := checked_eq_ok kept
      exact absurd kept refused
  · rw [if_neg within]
    constructor
    · constructor
      · intro impossible
        cases impossible
      · rintro ⟨_, nested⟩
        exact absurd nested within
    · exact fun _ => ⟨_, rfl⟩

/-! ### A report over two tables -/

/-- Orders by customer: an aggregate, a join with a suggestion, a condition inside a group with a
day, a list of numbers and a value that is not set, an order and a limit. -/
def ordersByCustomer : Query :=
  { tables := [
      { id := .uniform 15, name := "orders", aliasName := some "o", columns := [
        { name := "total", type := .number, selected := true, aggregate := some .sum }] },
      { id := .uniform 14, schema := "crm", name := "customers", columns := [
        { name := "name", type := .string, selected := true }] }]
    joins := [
      { id := .uniform 13, leftTable := some (.uniform 15), leftColumn := some "customer",
        rightTable := some (.uniform 14), rightColumn := none, kind := .left,
        suggestions := [⟨"customer", "id", .ofRatio false 9 10⟩] }]
    conditions := { members := [.group .or [
      .leaf { tableId := some (.uniform 15), column := "day", operator := .greater, type := .date,
              value := .scalar (.date ⟨-44, 3, 15, by decide⟩) },
      .leaf { column := "rate", operator := .among, type := .number,
              value := .list [.float (.ofRatio true 1 3), .int 7, .null] }]] }
    groupBy := [{ tableId := .uniform 14, name := "name", type := .string }]
    orderBy := [
      { column := { tableId := .uniform 14, name := "name", type := .string },
        direction := .descending }]
    limit := some 20 }

theorem ordersByCustomer_restored :
    (ordersByCustomer.tables.map Table.id).Nodup ∧
    (ordersByCustomer.joins.map Join.id).Nodup ∧
    (∀ number ∈ ordersByCustomer.floats, number.isFinite = true) ∧
    (∀ number ∈ ordersByCustomer.floats, number.isFinite = true →
      (JsonNumber.decimal number).ReadsBack) ∧
    restore ordersByCustomer.snapshot = .ok ordersByCustomer := by
  have distinctTables : (ordersByCustomer.tables.map Table.id).Nodup := by decide
  have distinctJoins : (ordersByCustomer.joins.map Join.id).Nodup := by decide
  have finite : ∀ number ∈ ordersByCustomer.floats, number.isFinite = true := by
    decide +kernel
  have readBack : ∀ number ∈ ordersByCustomer.floats, number.isFinite = true →
      (JsonNumber.decimal number).ReadsBack := by
    decide +kernel
  have within : ordersByCustomer.RefersWithin := by
    unfold RefersWithin
    decide +kernel
  have nested : Json.nestsWithin 127 ordersByCustomer.snapshot = true :=
    (Json.nestsWithin_render_iff (faithful_toJson (fun number member =>
      ⟨finite number member, readBack number member (finite number member)⟩)) 127).mpr
      (by decide +kernel)
  exact ⟨distinctTables, distinctJoins, finite, readBack,
    (restore_snapshot_iff ordersByCustomer distinctTables distinctJoins finite readBack).1.mpr
      ⟨within, nested⟩⟩

end Query

end QueryComposer
