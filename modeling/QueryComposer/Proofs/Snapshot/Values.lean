import QueryComposer.Proofs.Json.Nesting
import QueryComposer.Proofs.Json.Records
import QueryComposer.Proofs.Snapshot.Dates
import QueryComposer.Value.Codec

set_option autoImplicit false

/-!
Values and condition values are taken out of the data values they were made into, directly or held
back, as long as their floating-point numbers are read as they were written.
-/

namespace QueryComposer

open QueryComposer.Number

/-- The number is finite, and it is read from its text as it was written. -/
def Stored (number : Binary64) : Prop :=
  number.isFinite = true ∧ (JsonNumber.decimal number).ReadsBack

theorem Stored.toJson {number : Binary64} (stored : Stored number) :
    Json.ofBinary64 number = .number (.decimal number) :=
  if_pos stored.1

/-! ### Types -/

theorem ValueType.read?_toJson (type : ValueType) (delivery : Json.Delivery) :
    ValueType.read? delivery type.toJson = some type := by
  cases type <;> simp [ValueType.read?, toJson, Json.choose?, all, name, List.lookup_cons]

namespace Value

/-! ### Floating-point numbers of a value -/

mutual

/-- The floating-point numbers in a value. -/
def floats : Value → List Binary64
  | .float number => [number]
  | .list items => floatsOf items
  | _ => []

/-- The floating-point numbers in the items of a list. -/
def floatsOf : List Value → List Binary64
  | [] => []
  | item :: items => floats item ++ floatsOf items

end

mutual

theorem faithful_toJson (value : Value) (stored : ∀ number ∈ value.floats, Stored number) :
    value.toJson.Faithful := by
  cases value with
  | int number =>
    have readsBack := JsonNumber.readsBack_int64 number
    simpa [toJson, tagged, Json.ofInt] using readsBack
  | float number =>
    have here := stored number List.mem_cons_self
    rw [toJson, here.toJson]
    simpa [tagged] using here.2
  | list items =>
    have inner := (Json.areFaithful_iff _).mp (faithful_itemsToJson items stored)
    simpa [toJson, tagged] using inner
  | _ => simp [toJson, tagged]

theorem faithful_itemsToJson (items : List Value)
    (stored : ∀ number ∈ floatsOf items, Stored number) :
    Json.AreFaithful (itemsToJson items) := by
  cases items with
  | nil => trivial
  | cons item items =>
    rw [floatsOf] at stored
    exact ⟨faithful_toJson item
        (fun number member => stored number (List.mem_append_left _ member)),
      faithful_itemsToJson items
        (fun number member => stored number (List.mem_append_right _ member))⟩

end

/-! ### Values are taken back -/

/-- A value with a content is the content under its kind. -/
theorem read?_of_tagged {delivery : Json.Delivery} {json : Json} {kind : Kind}
    {content : Json.Content}
    (tagged : json.asTagged? delivery "type" "value" kindNames = some (kind, some content)) :
    read? delivery json = ofContent? kind content.value
      (if kind = .list then content.value.asList? (read? content.delivery) else none) := by
  rw [read?]
  split
  · next none_found =>
    rw [tagged] at none_found
    cases none_found
  · next alone =>
    rw [tagged] at alone
    cases alone
  · next found =>
    rw [tagged] at found
    cases found
    rw [Json.asListWithin?_eq_asList?]

theorem read?_tagged {delivery : Json.Delivery} {name : String} {kind : Kind} {content : Json}
    (listed : kindNames.lookup name = some kind) (readable : content.isReadable = true) :
    read? delivery (tagged name content) = ofContent? kind content
      (if kind = .list then content.asList? (read? delivery) else none) :=
  read?_of_tagged (Json.asTagged?_content (by decide) readable listed delivery)

theorem read?_null (delivery : Json.Delivery) : read? delivery (toJson .null) = some .null := by
  have alone : Json.asTagged? delivery "type" "value" kindNames (toJson .null) =
      some (.null, none) := Json.asTagged?_alone (by decide) rfl delivery
  rw [read?]
  split
  · next none_found =>
    rw [alone] at none_found
    cases none_found
  · next found =>
    rw [alone] at found
    cases found
    rfl
  · next found =>
    rw [alone] at found
    cases found

mutual

theorem read?_toJson (value : Value) (stored : ∀ number ∈ value.floats, Stored number)
    (delivery : Json.Delivery) : read? delivery value.toJson = some value := by
  cases value with
  | null => exact read?_null delivery
  | bool flag =>
    rw [toJson, read?_tagged rfl rfl]
    rfl
  | int number =>
    have bounded : isInt64 number.toInt = true := by
      simp only [isInt64, Bool.and_eq_true, decide_eq_true_eq]
      exact ⟨number.minValue_le_toInt, number.toInt_le⟩
    rw [toJson, read?_tagged rfl rfl]
    simp [ofContent?, Json.ofInt, Json.asInt64?, bounded]
  | float number =>
    have here := stored number List.mem_cons_self
    rw [toJson, here.toJson, read?_tagged rfl rfl]
    rfl
  | string text =>
    rw [toJson, read?_tagged rfl rfl]
    rfl
  | date day =>
    rw [toJson, read?_tagged rfl rfl]
    simp [ofContent?, Json.asString?, Calendar.readDataDay?_render]
  | moment time =>
    rw [toJson, read?_tagged rfl rfl]
    simp [ofContent?, Json.asString?, Calendar.readDataMoment?_dataText]
  | list items =>
    have readable : Json.isReadable (.array (itemsToJson items)) = true :=
      Json.areReadable_of_faithful _ (faithful_itemsToJson items stored)
    have inner := mapM_itemsToJson items stored delivery
    rw [toJson, read?_tagged rfl readable, if_pos rfl, Json.asList?, inner]
    rfl

theorem mapM_itemsToJson (items : List Value) (stored : ∀ number ∈ floatsOf items, Stored number)
    (delivery : Json.Delivery) : (itemsToJson items).mapM (read? delivery) = some items := by
  cases items with
  | nil => rfl
  | cons item items =>
    rw [floatsOf] at stored
    have first := read?_toJson item
      (fun number member => stored number (List.mem_append_left _ member)) delivery
    have others := mapM_itemsToJson items
      (fun number member => stored number (List.mem_append_right _ member)) delivery
    rw [itemsToJson, List.mapM_cons, first, others]
    rfl

end

end Value

/-! ### Condition values -/

namespace ConditionValue

/-- The floating-point numbers in a condition value. -/
def floats : ConditionValue → List Binary64
  | .none => []
  | .scalar value => value.floats
  | .list values => values.flatMap Value.floats
  | .range low high => low.floats ++ high.floats

theorem faithful_toJson {value : ConditionValue}
    (stored : ∀ number ∈ value.floats, Stored number) : value.toJson.Faithful := by
  cases value with
  | none => simp [toJson]
  | scalar value =>
    have inner := Value.faithful_toJson value stored
    simpa [toJson, tagged] using inner
  | list values =>
    have inner : ∀ value ∈ values, value.toJson.Faithful := fun value member =>
      Value.faithful_toJson value (fun number held =>
        stored number (List.mem_flatMap.mpr ⟨value, member, held⟩))
    simpa [toJson, tagged] using inner
  | range low high =>
    have lower := Value.faithful_toJson low
      (fun number held => stored number (List.mem_append_left _ held))
    have upper := Value.faithful_toJson high
      (fun number held => stored number (List.mem_append_right _ held))
    simpa [toJson, tagged] using And.intro lower upper

theorem read?_tagged {delivery : Json.Delivery} {name : String} {shape : Arity} {content : Json}
    (listed : shapeNames.lookup name = some shape) (faithful : (tagged name content).Faithful) :
    read? delivery (tagged name content) = ofContent? shape (some ⟨delivery, content⟩) := by
  have readable : content.isReadable = true :=
    Json.isReadable_of_faithful _ (by simpa [tagged] using faithful)
  rw [read?, tagged, Json.asTagged?_content (by decide) readable listed]
  rfl

theorem read?_toJson {value : ConditionValue} (stored : ∀ number ∈ value.floats, Stored number)
    (delivery : Json.Delivery) : read? delivery value.toJson = some value := by
  have faithful := faithful_toJson stored
  cases value with
  | none =>
    have alone : Json.asTagged? delivery "kind" "value" shapeNames (toJson .none) =
        some (.none, Option.none) := Json.asTagged?_alone (by decide) rfl delivery
    rw [read?, alone]
    rfl
  | scalar value =>
    rw [toJson, read?_tagged rfl faithful, ofContent?, Value.read?_toJson value stored]
    rfl
  | list values =>
    have back : ∀ value ∈ values, Value.read? delivery value.toJson = some value :=
      fun value member => Value.read?_toJson value (fun number held =>
        stored number (List.mem_flatMap.mpr ⟨value, member, held⟩)) delivery
    rw [toJson, read?_tagged rfl faithful, ofContent?, Json.asList?_map back]
    rfl
  | range low high =>
    have lower := Value.read?_toJson low
      (fun number held => stored number (List.mem_append_left _ held)) delivery
    have upper := Value.read?_toJson high
      (fun number held => stored number (List.mem_append_right _ held)) delivery
    have both : Json.asList? (Value.read? delivery) (.array [low.toJson, high.toJson]) =
        some [low, high] :=
      @Json.asList?_map _ Value.toJson _ [low, high] (by simp [lower, upper])
    rw [toJson, read?_tagged rfl faithful, ofContent?, both]
    rfl

end ConditionValue

end QueryComposer
