import QueryComposer.Proofs.Snapshot.Identity
import QueryComposer.Proofs.Snapshot.Values
import QueryComposer.Query.Codec

set_option autoImplicit false

/-!
Tables, joins and orders are taken out of the data values they were made into, which nest to a fixed
depth.
-/

namespace QueryComposer

open QueryComposer.Number

/-! ### Tables and columns -/

@[simp] theorem Aggregate.ofJson?_keyword (aggregate : Aggregate) :
    Aggregate.ofJson? (.string aggregate.keyword) = some aggregate := by
  cases aggregate <;>
    simp [Aggregate.ofJson?, Json.asChoice?, Json.choose?, Aggregate.all, Aggregate.keyword,
      List.lookup_cons]

@[simp] theorem ValueType.ofJson?_toJson (type : ValueType) :
    ValueType.ofJson? type.toJson = some type :=
  type.read?_toJson .direct

theorem Uuid.toJson_ne_null (id : Uuid) : id.toJson ≠ .null := by
  intro same
  cases same

@[simp] theorem Uuid.optionalValue_toJson (id : Uuid) :
    Json.Fields.optionalValue ofJson? (some id.toJson) = some (some id) :=
  Json.Fields.optionalValue_orNull toJson_ne_null ofJson?_toJson (some id)

namespace Column

theorem ofJson?_toJson (column : Column) : ofJson? column.toJson = some column := by
  obtain ⟨name, type, selected, aggregate⟩ := column
  rw [toJson, ofJson?, Json.fields?_members (by cases aggregate <;> simp [Json.memberIfSet])
    (by cases aggregate <;> simp [Json.memberIfSet])]
  cases aggregate <;> simp [Json.memberIfSet, Aggregate.toJson, List.lookup_cons]

theorem faithful_toJson (column : Column) : column.toJson.Faithful := by
  obtain ⟨name, type, selected, aggregate⟩ := column
  cases aggregate <;> simp [toJson, ValueType.toJson, Json.memberIfSet, Aggregate.toJson]

theorem depth_toJson_le (column : Column) : column.toJson.depth ≤ 1 := by
  obtain ⟨name, type, selected, aggregate⟩ := column
  refine (Json.depth_object_le_iff _ 0).mpr ?_
  cases aggregate <;>
    simp [Json.memberIfSet, ValueType.toJson, Aggregate.toJson, Json.depth]

end Column

namespace Table

theorem ofJson?_toJson (table : Table) : ofJson? table.toJson = some table := by
  obtain ⟨id, schema, name, aliasName, columns⟩ := table
  have columnsBack := Json.asList?_map (fun column (_ : column ∈ columns) => column.ofJson?_toJson)
  rw [toJson, ofJson?, Json.fields?_members (by cases aliasName <;> simp [Json.memberIfSet])
    (by cases aliasName <;> simp [Json.memberIfSet])]
  cases aliasName <;> simp [Json.memberIfSet, List.lookup_cons, columnsBack, Uuid.ofJson?_toJson]

theorem faithful_toJson (table : Table) : table.toJson.Faithful := by
  obtain ⟨id, schema, name, aliasName, columns⟩ := table
  cases aliasName <;>
    simp [toJson, Uuid.toJson, Json.memberIfSet, Column.faithful_toJson]

theorem depth_toJson_le (table : Table) : table.toJson.depth ≤ 3 := by
  obtain ⟨id, schema, name, aliasName, columns⟩ := table
  have held : (Json.array (columns.map Column.toJson)).depth ≤ 2 :=
    (Json.depth_array_le_iff _ 1).mpr (by simpa using fun column _ => column.depth_toJson_le)
  refine (Json.depth_object_le_iff _ 2).mpr ?_
  cases aliasName <;> simp [Json.memberIfSet, Uuid.toJson, Json.depth] at held ⊢ <;> exact held

end Table

namespace ColumnRef

theorem ofJson?_toJson (column : ColumnRef) : ofJson? column.toJson = some column := by
  rw [toJson, ofJson?, Json.fields?_members (by simp) (by simp)]
  simp [List.lookup_cons, Uuid.ofJson?_toJson]

theorem faithful_toJson (column : ColumnRef) : column.toJson.Faithful := by
  simp [toJson, Uuid.toJson, ValueType.toJson]

theorem depth_toJson_le (column : ColumnRef) : column.toJson.depth ≤ 1 :=
  (Json.depth_object_le_iff _ 0).mpr (by simp [Uuid.toJson, ValueType.toJson, Json.depth])

end ColumnRef

/-! ### Orders -/

@[simp] theorem SortDirection.ofJson?_toJson (direction : SortDirection) :
    SortDirection.ofJson? direction.toJson = some direction := by
  cases direction <;>
    simp [SortDirection.ofJson?, SortDirection.toJson, Json.asChoice?, Json.choose?,
      SortDirection.keyword, List.lookup_cons]

namespace OrderEntry

theorem ofJson?_toJson (entry : OrderEntry) : ofJson? entry.toJson = some entry := by
  rw [toJson, ofJson?, Json.fields?_members (by simp) (by simp)]
  simp [List.lookup_cons, ColumnRef.ofJson?_toJson]

theorem faithful_toJson (entry : OrderEntry) : entry.toJson.Faithful := by
  simp [toJson, SortDirection.toJson, ColumnRef.faithful_toJson]

theorem depth_toJson_le (entry : OrderEntry) : entry.toJson.depth ≤ 2 :=
  (Json.depth_object_le_iff _ 1).mpr
    (by simpa [SortDirection.toJson, Json.depth] using entry.column.depth_toJson_le)

end OrderEntry

/-! ### Joins -/

theorem Json.depth_ofBinary64 (number : Binary64) : (ofBinary64 number).depth = 0 := by
  unfold ofBinary64
  split <;> rfl

@[simp] theorem JoinKind.ofJson?_toJson (kind : JoinKind) :
    JoinKind.ofJson? kind.toJson = some kind := by
  cases kind <;>
    simp [JoinKind.ofJson?, JoinKind.toJson, Json.asChoice?, Json.choose?, JoinKind.all,
      JoinKind.name, List.lookup_cons]

namespace RelationshipSuggestion

theorem ofJson?_toJson {suggestion : RelationshipSuggestion}
    (stored : Stored suggestion.confidence) :
    ofJson? suggestion.toJson = some suggestion := by
  rw [toJson, ofJson?, Json.fields?_members (by simp) (by simp), stored.toJson]
  simp [List.lookup_cons, Json.asBinary64?]

theorem faithful_toJson {suggestion : RelationshipSuggestion}
    (stored : Stored suggestion.confidence) : suggestion.toJson.Faithful := by
  rw [toJson, stored.toJson]
  simpa using stored.2

theorem depth_toJson_le (suggestion : RelationshipSuggestion) :
    suggestion.toJson.depth ≤ 1 :=
  (Json.depth_object_le_iff _ 0).mpr (by simp [Json.depth, Json.depth_ofBinary64])

end RelationshipSuggestion

namespace Join

/-- The floating-point numbers in a join: how sure its suggestions are. -/
def floats (join : Join) : List Binary64 :=
  join.suggestions.map RelationshipSuggestion.confidence

variable {join : Join}

theorem ofJson?_toJson (stored : ∀ number ∈ join.floats, Stored number) :
    ofJson? join.toJson = some join := by
  obtain ⟨id, leftTable, leftColumn, rightTable, rightColumn, kind, suggestions⟩ := join
  have suggestionsBack : Json.asList? RelationshipSuggestion.ofJson?
      (.array (suggestions.map RelationshipSuggestion.toJson)) = some suggestions :=
    Json.asList?_map (fun suggestion member =>
      RelationshipSuggestion.ofJson?_toJson (stored _ (List.mem_map_of_mem member)))
  have table := Json.Fields.optionalValue_orNull Uuid.toJson_ne_null Uuid.ofJson?_toJson
  have column (text? : Option String) :
      Json.Fields.optionalValue Json.asString? (some (Json.orNull .string text?)) = some text? :=
    Json.Fields.optionalValue_orNull (fun _ same => by cases same) Json.asString?_string text?
  rw [toJson, ofJson?, Json.fields?_members
    (by cases suggestions <;> simp [suggestionMember])
    (by cases suggestions <;> simp [suggestionMember])]
  cases suggestions with
  | nil => simp [suggestionMember, List.lookup_cons, Uuid.ofJson?_toJson, table, column]
  | cons suggestion suggestions =>
    rw [List.map_cons] at suggestionsBack
    simp [suggestionMember, List.lookup_cons, Uuid.ofJson?_toJson, table, column, suggestionsBack]

theorem faithful_toJson (stored : ∀ number ∈ join.floats, Stored number) :
    join.toJson.Faithful := by
  have suggestions : ∀ suggestion ∈ join.suggestions, suggestion.toJson.Faithful :=
    fun suggestion member =>
      RelationshipSuggestion.faithful_toJson (stored _ (List.mem_map_of_mem member))
  have stored : ∀ member ∈ suggestionMember join.suggestions, member.2.Faithful := by
    unfold suggestionMember
    split
    · simp
    · simpa using suggestions
  have table (id? : Option TableId) : (Json.orNull Uuid.toJson id?).Faithful := by
    cases id? <;> simp [Json.orNull, Uuid.toJson]
  have column (name? : Option String) : (Json.orNull .string name?).Faithful := by
    cases name? <;> simp [Json.orNull]
  rw [toJson, Json.faithful_object_iff]
  intro member listed
  rcases List.mem_append.mp listed with known | suggested
  · simp only [List.mem_cons, List.not_mem_nil, or_false] at known
    rcases known with rfl | rfl | rfl | rfl | rfl | rfl
    · exact Json.faithful_string _
    · exact table _
    · exact column _
    · exact table _
    · exact column _
    · exact Json.faithful_string _
  · exact stored member suggested

theorem depth_toJson_le (join : Join) : join.toJson.depth ≤ 3 := by
  have held : (Json.array (join.suggestions.map RelationshipSuggestion.toJson)).depth ≤ 2 :=
    (Json.depth_array_le_iff _ 1).mpr
      (by simpa using fun suggestion _ => suggestion.depth_toJson_le)
  have suggested : ∀ member ∈ suggestionMember join.suggestions, member.2.depth ≤ 2 := by
    unfold suggestionMember
    split
    · simp
    · simpa using held
  have table (id? : Option TableId) : (Json.orNull Uuid.toJson id?).depth = 0 := by
    cases id? <;> rfl
  have column (name? : Option String) : (Json.orNull .string name?).depth = 0 := by
    cases name? <;> rfl
  refine (Json.depth_object_le_iff _ 2).mpr ?_
  intro member listed
  rcases List.mem_append.mp listed with known | added
  · have flat : member.2.depth = 0 := by
      simp only [List.mem_cons, List.not_mem_nil, or_false] at known
      rcases known with rfl | rfl | rfl | rfl | rfl | rfl
      · rfl
      · exact table _
      · exact column _
      · exact table _
      · exact column _
      · rfl
    omega
  · exact suggested member added

end Join

end QueryComposer
