import QueryComposer.Json.Basic
import QueryComposer.Number.Word

set_option autoImplicit false

/-!
Taking values of the domain out of data values. A record is an object with known members, or an
array with its fields in order; a choice is the name of one of its cases; a tagged value is a case
and its content. Members that are not known are passed over, readable or not; a known member that
stands twice is refused. A value that comes before what it is has been said is held back: it has to
be readable in all its parts, and its choices are taken in one more form.

Throughout, `toJson` is a value of the domain as a data value, and `ofJson?` the value that a data
value stands for, if it stands for one.
-/

namespace QueryComposer.Json

/-! ### Single values -/

/-- A truth value. -/
def asBool? : Json → Option Bool
  | .bool value => some value
  | _ => none

/-- A text. -/
def asString? : Json → Option String
  | .string value => some value
  | _ => none

/-- A whole number of 32 bits. -/
def asUInt32? : Json → Option UInt32
  | .number (.integer value) =>
    if 0 ≤ value && value < UInt32.size then some (UInt32.ofNat value.toNat) else none
  | _ => none

/-- A whole number of 64 bits. -/
def asUInt64? : Json → Option UInt64
  | .number (.integer value) =>
    if 0 ≤ value && value < UInt64.size then some (UInt64.ofNat value.toNat) else none
  | _ => none

/-- An integer of 64 bits with a sign. -/
def asInt64? : Json → Option Int64
  | .number (.integer value) =>
    if Number.isInt64 value then some (Int64.ofInt value) else none
  | _ => none

/-- A floating-point number; integers count as such. -/
def asBinary64? : Json → Option Number.Binary64
  | .number (.integer value) => some (.ofInt value)
  | .number (.decimal value) => some value
  | _ => none

/-- The members of an object. -/
def asMembers? : Json → Option (List (String × Json))
  | .object members => some members
  | _ => none

/-- All items of an array under a decoder. -/
def asList? {α : Type} (decode : Json → Option α) : Json → Option (List α)
  | .array items => items.mapM decode
  | _ => none

/-- All items of an array under a decoder that is told that they are smaller than the array. -/
def asListWithin? {α : Type} (json : Json)
    (decode : (item : Json) → sizeOf item < sizeOf json → Option α) : Option (List α) :=
  match json, decode with
  | .array items, decode =>
    items.attach.mapM (fun item => decode item.val (by
      have smaller := List.sizeOf_lt_of_mem item.property
      simp only [Json.array.sizeOf_spec]
      omega))
  | _, _ => none

/-! ### Choices -/

/-- How a value reaches its reader: directly as it comes, or held back as a whole until it was known
what it is. -/
inductive Delivery
  | direct
  | held
deriving DecidableEq, Repr

/-- The case of a choice: its name, or an object with its name as the only member and null. In a
value that was held back an empty object may stand in place of null. -/
def choose? {α : Type} (delivery : Delivery) (cases : List (String × α)) : Json → Option α
  | .string name => cases.lookup name
  | .object [(name, .null)] => cases.lookup name
  | .object [(name, .object [])] => if delivery = .held then cases.lookup name else none
  | _ => none

/-- The case of a choice that comes directly. -/
def asChoice? {α : Type} (cases : List (String × α)) (json : Json) : Option α :=
  json.choose? .direct cases

/-! ### Records -/

/-- The fields of a record that are present. -/
structure Fields where
  present : List (String × Json)
deriving Repr

/-- The fields of the given names. An array gives them in order and may end early. -/
def fields? (names : List String) : Json → Option Fields
  | .object members =>
    let known := members.filter (fun member => names.contains member.1)
    if names.all (fun name => (known.filter (fun member => member.1 = name)).length ≤ 1) then
      some ⟨known⟩
    else none
  | .array items => if items.length ≤ names.length then some ⟨names.zip items⟩ else none
  | _ => none

namespace Fields

/-- A field as it stands. -/
def get? (fields : Fields) (name : String) : Option Json :=
  fields.present.lookup name

def required {α : Type} (fields : Fields) (name : String) (decode : Json → Option α) : Option α :=
  (fields.get? name).bind decode

def defaulted {α : Type} (fields : Fields) (name : String) (default : α)
    (decode : Json → Option α) : Option α :=
  match fields.get? name with
  | none => some default
  | some value => decode value

/-- A field that may be missing or null. -/
def optional {α : Type} (fields : Fields) (name : String) (decode : Json → Option α) :
    Option (Option α) :=
  match fields.get? name with
  | none => some none
  | some .null => some none
  | some value => (decode value).map some

end Fields

/-! ### Tagged values -/

/-- The content of a tagged value, and how it was delivered. -/
structure Content where
  delivery : Delivery
  value : Json
deriving Repr

/-- The content with its delivery; one that was held back has to be readable. -/
def content? (delivery : Delivery) (value : Json) : Option Content :=
  if delivery = .held && !value.isReadable then none else some ⟨delivery, value⟩

/-- A case and its content, in two members in either order or as two items. A content that stands
before its tag was held back. -/
def asTagged? {α : Type} (delivery : Delivery) (tag content : String) (cases : List (String × α))
    (json : Json) : Option (α × Option Content) :=
  match json with
  | .array [case_, value] =>
    (case_.choose? delivery cases).bind (fun found =>
      (content? delivery value).map (fun inner => (found, some inner)))
  | .object _ =>
    (fields? [tag, content] json).bind (fun fields =>
      (fields.required tag (choose? delivery cases)).bind (fun found =>
        match fields.get? content with
        | none => some (found, none)
        | some value =>
          let comesFirst := fields.present.head?.any (fun member => member.1 = content)
          (content? (if comesFirst then .held else delivery) value).map (fun inner =>
            (found, some inner))))
  | _ => none

/-- The content of a case that has none: absent or null. -/
def isAbsent : Option Content → Bool
  | none => true
  | some ⟨_, .null⟩ => true
  | some _ => false

/-! ### Sizes -/

theorem lookup_sizeOf {members : List (String × Json)} {name : String} {value : Json}
    (found : members.lookup name = some value) : sizeOf value < sizeOf members := by
  induction members with
  | nil => simp at found
  | cons member members inner =>
    obtain ⟨first, content⟩ := member
    simp only [List.lookup_cons] at found
    split at found
    · obtain rfl : content = value := by simpa using found
      simp only [List.cons.sizeOf_spec, Prod.mk.sizeOf_spec]
      omega
    · have smaller := inner found
      simp only [List.cons.sizeOf_spec]
      omega

theorem filter_sizeOf_le {α : Type} [SizeOf α] (keep : α → Bool) (items : List α) :
    sizeOf (items.filter keep) ≤ sizeOf items := by
  induction items with
  | nil => simp
  | cons item items inner =>
    simp only [List.filter_cons]
    split <;> simp only [List.cons.sizeOf_spec] <;> omega

theorem lookup_zip_mem {names : List String} {items : List Json} {name : String} {value : Json}
    (found : (names.zip items).lookup name = some value) : value ∈ items := by
  induction names generalizing items with
  | nil => simp at found
  | cons first names inner =>
    cases items with
    | nil => simp at found
    | cons item items =>
      simp only [List.zip_cons_cons, List.lookup_cons] at found
      split at found
      · simp_all
      · exact List.mem_cons_of_mem _ (inner found)

/-- A field is smaller than its record. -/
theorem Fields.sizeOf_get? {names : List String} {json value : Json} {fields : Fields}
    {name : String} (present : json.fields? names = some fields)
    (found : fields.get? name = some value) : sizeOf value < sizeOf json := by
  cases json with
  | object members =>
    simp only [fields?] at present
    split at present
    · obtain rfl := Option.some.inj present
      have smaller :
          sizeOf value < sizeOf (members.filter (fun member => names.contains member.1)) :=
        lookup_sizeOf found
      have bound := filter_sizeOf_le (fun member => names.contains member.1) members
      simp only [Json.object.sizeOf_spec]
      omega
    · simp at present
  | array items =>
    simp only [fields?] at present
    split at present
    · obtain rfl := Option.some.inj present
      have smaller := List.sizeOf_lt_of_mem (lookup_zip_mem found)
      simp only [Json.array.sizeOf_spec]
      omega
    · simp at present
  | _ => simp [fields?] at present

theorem content?_value {delivery : Delivery} {value : Json} {inner : Content}
    (given : content? delivery value = some inner) : inner.value = value := by
  unfold content? at given
  split at given
  · simp at given
  · simp [← Option.some.inj given]

/-- The content of a tagged value is smaller than the value. -/
theorem sizeOf_asTagged? {α : Type} {delivery : Delivery} {tag content : String}
    {cases_ : List (String × α)} {json : Json} {found : α} {inner : Content}
    (tagged : json.asTagged? delivery tag content cases_ = some (found, some inner)) :
    sizeOf inner.value < sizeOf json := by
  unfold asTagged? at tagged
  split at tagged
  · simp only [Option.bind_eq_some_iff, Option.map_eq_some_iff, Prod.mk.injEq,
      Option.some.injEq] at tagged
    obtain ⟨_, _, _, given, _, rfl⟩ := tagged
    simp only [content?_value given, Json.array.sizeOf_spec, List.cons.sizeOf_spec]
    omega
  · simp only [Option.bind_eq_some_iff] at tagged
    obtain ⟨fields, present, _, _, rest⟩ := tagged
    split at rest
    · simp at rest
    · rename_i member
      simp only [Option.map_eq_some_iff, Prod.mk.injEq, Option.some.injEq] at rest
      obtain ⟨_, given, _, rfl⟩ := rest
      rw [content?_value given]
      exact Fields.sizeOf_get? present member
  · simp at tagged

end QueryComposer.Json
