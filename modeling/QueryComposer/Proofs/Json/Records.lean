import Mathlib.Data.List.Nodup
import QueryComposer.Json.Decode

set_option autoImplicit false

/-!
Records and lists that are taken out of the data values they were made into.
-/

namespace QueryComposer.Json

@[simp] theorem asString?_string (text : String) : asString? (.string text) = some text :=
  rfl

@[simp] theorem asBool?_bool (flag : Bool) : asBool? (.bool flag) = some flag :=
  rfl

theorem asUInt32?_ofNat (value : UInt32) : asUInt32? (.ofNat value.toNat) = some value := by
  have bounds : (decide (0 ≤ (value.toNat : Int)) &&
      decide ((value.toNat : Int) < (UInt32.size : Nat))) = true := by
    rw [Bool.and_eq_true, decide_eq_true_eq, decide_eq_true_eq]
    exact ⟨Int.natCast_nonneg _, Int.ofNat_lt.mpr value.toNat_lt⟩
  rw [ofNat, asUInt32?, if_pos bounds, Int.toNat_natCast, UInt32.ofNat_toNat]

theorem asUInt64?_ofNat (value : UInt64) : asUInt64? (.ofNat value.toNat) = some value := by
  have bounds : (decide (0 ≤ (value.toNat : Int)) &&
      decide ((value.toNat : Int) < (UInt64.size : Nat))) = true := by
    rw [Bool.and_eq_true, decide_eq_true_eq, decide_eq_true_eq]
    exact ⟨Int.natCast_nonneg _, Int.ofNat_lt.mpr value.toNat_lt⟩
  rw [ofNat, asUInt64?, if_pos bounds, Int.toNat_natCast, UInt64.ofNat_toNat]

theorem asBinary64?_ofBinary64 {value : Number.Binary64} (finite : value.isFinite = true) :
    asBinary64? (.ofBinary64 value) = some value := by
  rw [ofBinary64, if_pos finite, asBinary64?]

/-! ### Fields -/

/-- The fields of an object whose names are all different are its members with known names. -/
theorem fields?_object {names : List String} {members : List (String × Json)}
    (distinct : (members.map Prod.fst).Nodup) :
    fields? names (.object members) =
      some ⟨members.filter (fun member => names.contains member.1)⟩ := by
  have once (name : String) :
      ((members.filter (fun member => names.contains member.1)).filter
        (fun member => member.1 = name)).length ≤ 1 := by
    have single := List.nodup_iff_count_le_one.mp distinct name
    rw [List.count_eq_countP, List.countP_map, List.countP_eq_length_filter] at single
    exact Nat.le_trans (List.filter_sublist.filter _).length_le single
  rw [fields?]
  refine if_pos ?_
  rw [List.all_eq_true]
  exact fun name _ => decide_eq_true (once name)

/-- The fields of an object are its members when their names are known and all different. -/
theorem fields?_members {names : List String} {members : List (String × Json)}
    (distinct : (members.map Prod.fst).Nodup) (known : members.map Prod.fst ⊆ names) :
    fields? names (.object members) = some ⟨members⟩ := by
  rw [fields?_object distinct, List.filter_eq_self.mpr]
  intro member listed
  exact List.contains_iff_mem.mpr (known (List.mem_map_of_mem listed))

namespace Fields

variable {α : Type} {fields : Fields} {name : String} {decode : Json → Option α}

theorem required_eq_some {value : Json} {decoded : α} (found : fields.get? name = some value)
    (back : decode value = some decoded) : fields.required name decode = some decoded := by
  rw [required, found, Option.bind_some, back]

@[simp] theorem required_present (members : List (String × Json)) :
    required ⟨members⟩ name decode = (members.lookup name).bind decode :=
  rfl

@[simp] theorem defaulted_present (members : List (String × Json)) (default : α) :
    defaulted ⟨members⟩ name default decode =
      match members.lookup name with
      | none => some default
      | some value => decode value :=
  rfl

/-- A field that may be missing or null, once it was looked up. -/
def optionalValue (decode : Json → Option α) : Option Json → Option (Option α)
  | none => some none
  | some .null => some none
  | some value => (decode value).map some

@[simp] theorem optional_present (members : List (String × Json)) :
    optional ⟨members⟩ name decode = optionalValue decode (members.lookup name) :=
  rfl

@[simp] theorem optionalValue_none : optionalValue decode none = some none :=
  rfl

@[simp] theorem optionalValue_string (text : String) :
    optionalValue decode (some (.string text)) = (decode (.string text)).map some :=
  rfl

@[simp] theorem optionalValue_number (value : JsonNumber) :
    optionalValue decode (some (.number value)) = (decode (.number value)).map some :=
  rfl

/-- What is null when it is not set is taken for what it was. -/
theorem optionalValue_orNull {encode : α → Json} (set : ∀ value, encode value ≠ .null)
    (back : ∀ value, decode (encode value) = some value) (value? : Option α) :
    optionalValue decode (some (orNull encode value?)) = some value? := by
  cases value? with
  | none => rfl
  | some value =>
    rw [orNull, optionalValue, back]
    · rfl
    · exact set value

end Fields

/-! ### Lists -/

theorem mapM_map_eq_some {α : Type} {encode : α → Json} {decode : Json → Option α}
    {items : List α} (back : ∀ item ∈ items, decode (encode item) = some item) :
    (items.map encode).mapM decode = some items := by
  induction items with
  | nil => rfl
  | cons item items induct =>
    rw [List.map_cons, List.mapM_cons, back item List.mem_cons_self,
      induct (fun other listed => back other (List.mem_cons_of_mem item listed))]
    rfl

/-- A list is taken out of the array of its items when each of them is. -/
theorem asList?_map {α : Type} {encode : α → Json} {decode : Json → Option α} {items : List α}
    (back : ∀ item ∈ items, decode (encode item) = some item) :
    asList? decode (.array (items.map encode)) = some items :=
  mapM_map_eq_some back

/-- No list is taken out of an array of which one item is none. -/
theorem asList?_eq_none {α : Type} {decode : Json → Option α} {items : List Json} {item : Json}
    (listed : item ∈ items) (refused : decode item = none) :
    asList? decode (.array items) = none := by
  rw [asList?]
  induction items with
  | nil => cases listed
  | cons first items induct =>
    rw [List.mapM_cons]
    rcases List.mem_cons.mp listed with rfl | later
    · rw [refused]
      rfl
    · rw [induct later]
      cases decode first <;> rfl

/-- A decoder that is told that the items are smaller need not make use of it. -/
theorem asListWithin?_eq_asList? {α : Type} (decode : Json → Option α) (json : Json) :
    json.asListWithin? (fun item _ => decode item) = json.asList? decode := by
  cases json with
  | array items =>
    calc items.attach.mapM (fun item => decode item.val)
      _ = (items.attach.map Subtype.val).mapM decode := (List.mapM_map ..).symm
      _ = items.mapM decode := by rw [List.attach_map_subtype_val]
  | _ => rfl

/-! ### Tagged values -/

theorem content?_of_isReadable {value : Json} (readable : value.isReadable = true)
    (delivery : Delivery) : content? delivery value = some ⟨delivery, value⟩ := by
  rw [content?, readable]
  cases delivery <;> rfl

variable {α : Type} {cases_ : List (String × α)} {tag content kind : String} {found : α}

/-- A case with its content behind it is delivered as it is. -/
theorem asTagged?_content (different : tag ≠ content) {value : Json}
    (readable : value.isReadable = true) (listed : cases_.lookup kind = some found)
    (delivery : Delivery) :
    asTagged? delivery tag content cases_ (.object [(tag, .string kind), (content, value)]) =
      some (found, some ⟨delivery, value⟩) := by
  have fields : fields? [tag, content] (.object [(tag, .string kind), (content, value)]) =
      some ⟨[(tag, .string kind), (content, value)]⟩ :=
    fields?_members (by simp [different]) (by simp)
  have chosen : choose? delivery cases_ (.string kind) = some found := listed
  have tagged : Fields.required ⟨[(tag, .string kind), (content, value)]⟩ tag
      (choose? delivery cases_) = some found :=
    Fields.required_eq_some (by simp [Fields.get?]) chosen
  have held : Fields.get? ⟨[(tag, .string kind), (content, value)]⟩ content = some value := by
    simp [Fields.get?, List.lookup_cons, beq_false_of_ne (Ne.symm different)]
  simp [asTagged?, fields, tagged, held, different, content?_of_isReadable readable]

/-- A case without content. -/
theorem asTagged?_alone (different : tag ≠ content) (listed : cases_.lookup kind = some found)
    (delivery : Delivery) :
    asTagged? delivery tag content cases_ (.object [(tag, .string kind)]) =
      some (found, none) := by
  have fields : fields? [tag, content] (.object [(tag, .string kind)]) =
      some ⟨[(tag, .string kind)]⟩ :=
    fields?_members (by simp) (by simp)
  have chosen : choose? delivery cases_ (.string kind) = some found := listed
  have tagged : Fields.required ⟨[(tag, .string kind)]⟩ tag (choose? delivery cases_) =
      some found :=
    Fields.required_eq_some (by simp [Fields.get?]) chosen
  have missing : Fields.get? ⟨[(tag, .string kind)]⟩ content = none := by
    simp [Fields.get?, List.lookup_cons, beq_false_of_ne (Ne.symm different)]
  simp [asTagged?, fields, tagged, missing]

end QueryComposer.Json
