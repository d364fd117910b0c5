import QueryComposer.Proofs.Snapshot.Parts

set_option autoImplicit false

/-!
Conditions are taken out of the data values they were made into, at any depth: directly, and held
back inside the groups they are members of. A condition that is not readable in all its parts is
none.
-/

namespace QueryComposer

open QueryComposer.Number

@[simp] theorem Operator.read?_toJson (operator : Operator) (delivery : Json.Delivery) :
    Operator.read? delivery operator.toJson = some operator := by
  cases operator <;>
    simp [Operator.read?, Operator.toJson, Json.choose?, Operator.all, Operator.symbol,
      List.lookup_cons]

@[simp] theorem Logic.read?_toJson (logic : Logic) (delivery : Json.Delivery) :
    Logic.read? delivery logic.toJson = some logic := by
  cases logic <;> simp [Logic.read?, Logic.toJson, Json.choose?, Logic.keyword, List.lookup_cons]

/-! ### Comparisons -/

namespace Comparison

variable {comparison : Comparison}

theorem faithful_members (stored : ∀ number ∈ comparison.value.floats, Stored number) :
    ∀ member ∈ comparison.members, member.2.Faithful := by
  have value := ConditionValue.faithful_toJson stored
  obtain ⟨tableId, column, operator, type, held⟩ := comparison
  cases tableId <;>
    simpa [members, Json.memberIfSet, Uuid.toJson, Operator.toJson, ValueType.toJson] using value

theorem names_members (comparison : Comparison) :
    comparison.members.map Prod.fst ⊆ fieldNames ∧
      (comparison.members.map Prod.fst).Nodup ∧ "node" ∉ comparison.members.map Prod.fst := by
  obtain ⟨tableId, column, operator, type, held⟩ := comparison
  cases tableId <;> simp [members, Json.memberIfSet, fieldNames]

theorem ofFields?_members (stored : ∀ number ∈ comparison.value.floats, Stored number)
    (kind : Json) : ofFields? ⟨("node", kind) :: comparison.members⟩ = some comparison := by
  have back := ConditionValue.read?_toJson stored .held
  obtain ⟨tableId, column, operator, type, held⟩ := comparison
  cases tableId <;>
    simp [ofFields?, members, Json.memberIfSet, List.lookup_cons, ValueType.read?_toJson, back]

end Comparison

/-! ### Conditions -/

namespace Condition

mutual

/-- The floating-point numbers in a condition. -/
def floats : Condition → List Binary64
  | .leaf comparison => comparison.value.floats
  | .group _ members => floatsOf members

/-- The floating-point numbers in the members of a group. -/
def floatsOf : List Condition → List Binary64
  | [] => []
  | member :: members => floats member ++ floatsOf members

end

mutual

theorem faithful_toJson (condition : Condition)
    (stored : ∀ number ∈ condition.floats, Stored number) : condition.toJson.Faithful := by
  cases condition with
  | leaf comparison =>
    rw [toJson, Json.faithful_object_iff, List.forall_mem_cons]
    exact ⟨Json.faithful_string _, Comparison.faithful_members stored⟩
  | group logic members =>
    have inner := (Json.areFaithful_iff _).mp (faithful_membersToJson members stored)
    simpa [toJson, Logic.toJson] using inner

theorem faithful_membersToJson (members : List Condition)
    (stored : ∀ number ∈ floatsOf members, Stored number) :
    Json.AreFaithful (membersToJson members) := by
  cases members with
  | nil => trivial
  | cons member members =>
    rw [floatsOf] at stored
    exact ⟨faithful_toJson member (fun number held => stored number (List.mem_append_left _ held)),
      faithful_membersToJson members (fun number held =>
        stored number (List.mem_append_right _ held))⟩

end

/-- A condition that is not readable in all its parts is none. -/
theorem read?_of_unreadable {json : Json} (unreadable : json.isReadable = false)
    (delivery : Json.Delivery) : read? delivery json = none := by
  have untagged : nodeKind? delivery json = none := by
    unfold nodeKind?
    rw [unreadable]
    rfl
  rw [read?]
  split
  · rfl
  · next found =>
    rw [untagged] at found
    cases found
  · next found =>
    rw [untagged] at found
    cases found

/-- A readable object is of the kind that its tag names. -/
theorem nodeKind?_tagged {members : List (String × Json)} {name : String} {kind : NodeKind}
    (faithful : Json.Faithful (.object (("node", .string name) :: members)))
    (distinct : ((("node", Json.string name) :: members).map Prod.fst).Nodup)
    (listed : nodeKinds.lookup name = some kind) (delivery : Json.Delivery) :
    nodeKind? delivery (.object (("node", .string name) :: members)) = some kind := by
  have readable := Json.isReadable_of_faithful _ faithful
  have first : ["node"].contains "node" = true := by decide
  have kept : (("node", Json.string name) :: members).filter
      (fun member => ["node"].contains member.1) =
        ("node", .string name) :: members.filter (fun member => ["node"].contains member.1) :=
    List.filter_cons_of_pos first
  rw [nodeKind?, readable, Json.fields?_object distinct, kept]
  exact listed

theorem read?_leaf {json : Json} {delivery : Json.Delivery}
    (kind : nodeKind? delivery json = some .leaf) :
    read? delivery json = (json.fields? ("node" :: Comparison.fieldNames)).bind (fun fields =>
      (Comparison.ofFields? fields).map .leaf) := by
  rw [read?]
  split
  · next found =>
    rw [kind] at found
    cases found
  · rfl
  · next found =>
    rw [kind] at found
    cases found

theorem read?_group {json items : Json} {delivery : Json.Delivery} {fields : Json.Fields}
    (kind : nodeKind? delivery json = some .group) (present : groupFields? json = some fields)
    (held : fields.get? "conditions" = some items) :
    read? delivery json = (fields.required "logic" (Logic.read? .held)).bind (fun logic =>
      (items.asList? (read? .held)).map (Condition.group logic)) := by
  rw [read?]
  split
  · next found =>
    rw [kind] at found
    cases found
  · next found =>
    rw [kind] at found
    cases found
  · split
    · next absent =>
      rw [present] at absent
      cases absent
    · next found =>
      rw [present] at found
      cases found
      congr 1
      funext logic
      split
      · next missing =>
        rw [held] at missing
        cases missing
      · next members found =>
        rw [held] at found
        cases found
        rw [Json.asListWithin?_eq_asList?]

mutual

/-- A condition is taken back, however it was delivered. -/
theorem read?_toJson (condition : Condition)
    (stored : ∀ number ∈ condition.floats, Stored number) (delivery : Json.Delivery) :
    read? delivery condition.toJson = some condition := by
  have faithful := faithful_toJson condition stored
  cases condition with
  | leaf comparison =>
    obtain ⟨known, distinct, apart⟩ := Comparison.names_members comparison
    have allDistinct :
        ((("node", Json.string "leaf") :: comparison.members).map Prod.fst).Nodup :=
      List.nodup_cons.mpr ⟨apart, distinct⟩
    have fields : Json.fields? ("node" :: Comparison.fieldNames) (toJson (.leaf comparison)) =
        some ⟨("node", .string "leaf") :: comparison.members⟩ :=
      Json.fields?_members allDistinct (List.cons_subset_cons _ known)
    have kind : nodeKind? delivery (toJson (.leaf comparison)) = some .leaf :=
      nodeKind?_tagged faithful allDistinct rfl delivery
    rw [read?_leaf kind, fields, Option.bind_some, Comparison.ofFields?_members stored]
    rfl
  | group logic members =>
    have distinct : (["node", "logic", "conditions"] : List String).Nodup := by decide
    have fields : groupFields? (toJson (.group logic members)) =
        some ⟨[("node", .string "group"), ("logic", logic.toJson),
          ("conditions", .array (membersToJson members))]⟩ :=
      Json.fields?_members distinct (List.Subset.refl _)
    have held : Json.Fields.get? ⟨[("node", .string "group"), ("logic", logic.toJson),
        ("conditions", .array (membersToJson members))]⟩ "conditions" =
        some (.array (membersToJson members)) := by
      simp [Json.Fields.get?, List.lookup_cons]
    have kind : nodeKind? delivery (toJson (.group logic members)) = some .group :=
      nodeKind?_tagged faithful distinct rfl delivery
    rw [read?_group kind fields held]
    simp [List.lookup_cons, Json.asList?, mapM_membersToJson members stored]

theorem mapM_membersToJson (members : List Condition)
    (stored : ∀ number ∈ floatsOf members, Stored number) :
    (membersToJson members).mapM (read? .held) = some members := by
  cases members with
  | nil => rfl
  | cons member members =>
    rw [floatsOf] at stored
    have first := read?_toJson member
      (fun number held => stored number (List.mem_append_left _ held)) .held
    have others := mapM_membersToJson members
      (fun number held => stored number (List.mem_append_right _ held))
    rw [membersToJson, List.mapM_cons, first, others]
    rfl

end

theorem membersToJson_eq_map (members : List Condition) :
    membersToJson members = members.map toJson := by
  induction members with
  | nil => rfl
  | cons member members induct => rw [membersToJson, induct, List.map_cons]

theorem mem_floatsOf_iff {members : List Condition} {number : Binary64} :
    number ∈ floatsOf members ↔ ∃ member ∈ members, number ∈ member.floats := by
  induction members with
  | nil => simp [floatsOf]
  | cons member members induct => simp [floatsOf, induct]

end Condition

namespace ConditionGroup

variable {group : ConditionGroup}

theorem faithful_toJson (stored : ∀ number ∈ Condition.floatsOf group.members, Stored number) :
    group.toJson.Faithful := by
  have inner := (Json.areFaithful_iff _).mp (Condition.faithful_membersToJson _ stored)
  simpa [toJson, Logic.toJson] using inner

theorem ofJson?_toJson (stored : ∀ number ∈ Condition.floatsOf group.members, Stored number) :
    ofJson? group.toJson = some group := by
  have membersBack : Json.asList? Condition.ofJson?
      (.array (Condition.membersToJson group.members)) = some group.members := by
    rw [Condition.membersToJson_eq_map]
    exact Json.asList?_map (fun member listed => Condition.read?_toJson member
      (fun number held => stored number (Condition.mem_floatsOf_iff.mpr ⟨member, listed, held⟩))
      .direct)
  rw [toJson, ofJson?, Json.fields?_members (by simp) (by simp)]
  simp [List.lookup_cons, Logic.ofJson?, membersBack]

end ConditionGroup

end QueryComposer
