import QueryComposer.Proofs.Json.Nesting
import QueryComposer.Proofs.Settings.Unnamed

set_option autoImplicit false

/-!
Settings that are written and loaded again, and settings of which a file names only some. A file is
a layer over the default settings: a file with all of them replaces each by what it was, and what a
file does not name stays as it is by default.
-/

namespace QueryComposer

open QueryComposer.Number

/-! ### Numbers -/

namespace JsonNumber

/-- A number as programs hold it: an integer of 64 bits, with a sign or without, or a finite
floating-point number. -/
def IsFinite : JsonNumber → Prop
  | .integer value => Int64.minValue.toInt ≤ value ∧ value < UInt64.size
  | .decimal value => value.isFinite = true

instance : DecidablePred IsFinite
  | .integer _ => inferInstanceAs (Decidable (_ ∧ _))
  | .decimal _ => inferInstanceAs (Decidable (_ = true))

theorem readsBack_integer {value : Int} (finite : IsFinite (.integer value)) :
    ReadsBack (.integer value) := by
  obtain ⟨lowest, highest⟩ := finite
  cases value with
  | ofNat magnitude => exact readsBack_natural (Int.ofNat_lt.mp highest)
  | negSucc less =>
    have same : (Int64.ofInt (Int.negSucc less)).toInt = Int.negSucc less :=
      Int64.toInt_ofInt_of_le lowest (Int.lt_trans (Int.negSucc_lt_zero less) (by decide))
    exact same ▸ readsBack_int64 (Int64.ofInt (Int.negSucc less))

end JsonNumber

namespace Json

mutual

/-- The numbers in a value. -/
def numbers : Json → List JsonNumber
  | .number value => [value]
  | .array items => itemsNumbers items
  | .object members => membersNumbers members
  | _ => []

/-- The numbers in the items of an array. -/
def itemsNumbers : List Json → List JsonNumber
  | [] => []
  | item :: items => numbers item ++ itemsNumbers items

/-- The numbers in the values of an object. -/
def membersNumbers : List (String × Json) → List JsonNumber
  | [] => []
  | (_, value) :: members => numbers value ++ membersNumbers members

end

mutual

/-- A value is read as it was written when it is readable and each of its numbers is so read. -/
theorem faithful_of_numbers (value : Json) (readable : value.isReadable = true)
    (readBack : ∀ number ∈ value.numbers, number.ReadsBack) : value.Faithful := by
  cases value with
  | number value => exact readBack value (List.mem_singleton_self value)
  | array items => exact areFaithful_of_numbers items readable readBack
  | object members => exact membersAreFaithful_of_numbers members readable readBack
  | unreadable => contradiction
  | _ => trivial

theorem areFaithful_of_numbers (items : List Json) (readable : areReadable items = true)
    (readBack : ∀ number ∈ itemsNumbers items, number.ReadsBack) : AreFaithful items := by
  cases items with
  | nil => trivial
  | cons item items =>
    rw [areReadable, Bool.and_eq_true] at readable
    rw [itemsNumbers, List.forall_mem_append] at readBack
    exact ⟨faithful_of_numbers item readable.1 readBack.1,
      areFaithful_of_numbers items readable.2 readBack.2⟩

theorem membersAreFaithful_of_numbers (members : List (String × Json))
    (readable : membersAreReadable members = true)
    (readBack : ∀ number ∈ membersNumbers members, number.ReadsBack) :
    MembersAreFaithful members := by
  match members, readable, readBack with
  | [], _, _ => trivial
  | (name, value) :: members, readable, readBack =>
    rw [membersAreReadable, Bool.and_eq_true] at readable
    rw [membersNumbers, List.forall_mem_append] at readBack
    exact ⟨faithful_of_numbers value readable.1 readBack.1,
      membersAreFaithful_of_numbers members readable.2 readBack.2⟩

end

end Json

/-- A value whose names are all different is read as it was written when all its parts are and it
does not nest beyond the limit. -/
theorem SettingsFormat.read?_render {value : Json} (faithful : value.Faithful)
    (distinct : value.DistinctNames) (shallow : value.depth ≤ Json.depthLimit) :
    SettingsFormat.json.read? value.render = some value := by
  rw [read?, Json.parse?_render faithful, Json.cut_eq_self value faithful 0 (by omega),
    Option.filter_some, if_pos (Json.isReadable_of_faithful value faithful), Option.map_some,
    Json.settled_eq_self value distinct]

namespace Settings

/-- The least confidence, and the numbers among the values for other purposes. -/
def numbers (settings : Settings) : List JsonNumber :=
  .decimal settings.suggestion.minConfidence :: (Json.object settings.extra).numbers

/-- Settings as programs hold them: among the values for other purposes the names in an object are
all different, everything stands for something, and the numbers are finite. Their text does not nest
beyond what can be read. -/
structure IsStorable (settings : Settings) : Prop where
  distinct : (Json.object settings.extra).DistinctNames
  readable : (Json.object settings.extra).isReadable = true
  finite : ∀ number ∈ settings.numbers, number.IsFinite
  nested : Json.nestsWithin 127 settings.toJson.render = true

variable {settings : Settings}

theorem IsStorable.isFinite_minConfidence (storable : settings.IsStorable) :
    settings.suggestion.minConfidence.isFinite = true :=
  storable.finite _ List.mem_cons_self

/-- All settings over the default ones are all that there is. -/
theorem overlay_toJson (distinct : (settings.extra.map Prod.fst).Nodup) :
    (toJson {}).overlay settings.toJson = settings.toJson := by
  have extra : Json.overlayMembers [] settings.extra = settings.extra :=
    Json.overlayMembers_of_new distinct
  have count (lower : Json) (value : Nat) : lower.overlay (.ofNat value) = .ofNat value :=
    Json.overlay_of_isObject_eq_false lower rfl
  have number (lower : Json) (value : Binary64) :
      lower.overlay (.ofBinary64 value) = .ofBinary64 value :=
    Json.overlay_of_isObject_eq_false lower (Json.isObject_ofBinary64 value)
  simp [toJson, CompilerSettings.toJson, PreviewSettings.toJson, ExecutionSettings.toJson,
    SuggestionSettings.toJson, Json.overlay, Json.overlayMembers, Json.overlayMember, extra, count,
    number]

theorem distinctNames_toJson (distinct : (Json.object settings.extra).DistinctNames) :
    settings.toJson.DistinctNames := by
  have count (value : Nat) : (Json.ofNat value).DistinctNames := trivial
  have text (value : String) : (Json.string value).DistinctNames := trivial
  have flag (value : Bool) : (Json.bool value).DistinctNames := trivial
  rw [Json.distinctNames_object_iff] at distinct
  simpa [toJson, CompilerSettings.toJson, PreviewSettings.toJson, ExecutionSettings.toJson,
    SuggestionSettings.toJson, count, text, flag, Json.distinctNames_ofBinary64] using distinct

/-- The value of the settings is read as it was written when the floating-point numbers are. -/
theorem faithful_toJson (readable : (Json.object settings.extra).isReadable = true)
    (finite : ∀ number ∈ settings.numbers, number.IsFinite)
    (readBack : ∀ number, .decimal number ∈ settings.numbers → number.isFinite = true →
      (JsonNumber.decimal number).ReadsBack) : settings.toJson.Faithful := by
  have numbers : ∀ number ∈ settings.numbers, number.ReadsBack := by
    intro number listed
    have here := finite number listed
    cases number with
    | integer value => exact JsonNumber.readsBack_integer here
    | decimal value => exact readBack value listed here
  have extra : (Json.object settings.extra).Faithful :=
    Json.faithful_of_numbers _ readable (fun number listed =>
      numbers number (List.mem_cons_of_mem _ listed))
  have least : settings.suggestion.minConfidence.isFinite = true := finite _ List.mem_cons_self
  have minConfidence : (Json.ofBinary64 settings.suggestion.minConfidence).Faithful := by
    rw [Json.ofBinary64, if_pos least]
    exact numbers _ List.mem_cons_self
  have small (value : UInt32) : (Json.ofNat value.toNat).Faithful :=
    JsonNumber.readsBack_natural (Nat.lt_trans value.toNat_lt (by decide))
  have large (value : UInt64) : (Json.ofNat value.toNat).Faithful :=
    JsonNumber.readsBack_natural value.toNat_lt
  rw [Json.faithful_object_iff] at extra
  simpa [toJson, CompilerSettings.toJson, PreviewSettings.toJson, ExecutionSettings.toJson,
    SuggestionSettings.toJson, minConfidence, small, large] using extra

/-- Settings that are written are loaded as they were. -/
theorem ofText_render (storable : settings.IsStorable)
    (readBack : ∀ number, .decimal number ∈ settings.numbers → number.isFinite = true →
      (JsonNumber.decimal number).ReadsBack) :
    ofText .json settings.toJson.render = .ok settings := by
  have faithful := faithful_toJson storable.readable storable.finite readBack
  have shallow := (Json.nestsWithin_render_iff faithful 127).mp storable.nested
  have distinct := (Json.distinctNames_object_iff _).mp storable.distinct
  rw [ofText, SettingsFormat.read?_render faithful (distinctNames_toJson storable.distinct) shallow]
  simp only [ofLayer]
  rw [overlay_toJson distinct.1, ofJson?_toJson storable.isFinite_minConfidence]

/-- Settings are layered name by name. In a base with a layer over it each path of the layer that
ends in no object holds what it holds in the layer, each path on which the layer lacks a name holds
what it holds in the base, and no other path ends in anything but an object; the same layer once
more changes nothing. So settings that are written are loaded as they were, as long as
floating-point numbers are read as they were written, and a file of either format changes no path of
the default settings on which what it holds lacks a name. -/
theorem layered_by_name :
    (∀ base layer : Json, layer.DistinctNames →
      layer.LaidOver base (base.overlay layer) ∧
      (base.overlay layer).overlay layer = base.overlay layer) ∧
    (∀ settings : Settings, settings.IsStorable →
      (∀ number, .decimal number ∈ settings.numbers → number.isFinite = true →
        (JsonNumber.decimal number).ReadsBack) →
      ofText .json settings.toJson.render = .ok settings) ∧
    ∀ (format : SettingsFormat) (text : String) (layer : Json) (settings : Settings),
      format.read? text = some layer → ofText format text = .ok settings →
      ∀ path, layer.LacksNext path → settings.toJson.at? path = (toJson {}).at? path := by
  refine ⟨?_, ?_, ?_⟩
  · intro base layer distinct
    exact ⟨Json.laidOver_overlay base distinct, Json.overlay_overlay layer base distinct⟩
  · intro settings storable readBack
    exact ofText_render storable readBack
  · intro format text layer settings read loaded
    exact agreeOff_of_ofText read loaded

/-! ### A file with one setting -/

def strictLayer : Json :=
  .object [("compiler", .object [("literal_policy", .string "strict")])]

def strictSettings : Settings :=
  { compiler := { literalPolicy := .strict } }

/-- The same settings, with a threshold and values of all kinds. -/
def customSettings : Settings :=
  { strictSettings with
    suggestion := { minConfidence := .ofRatio false 9 10 }
    extra := [("theme", .object [("name", .string "dark\n"), ("levels", .array [.ofInt (-3)])]),
      ("ratio", .number (.decimal (.ofRatio true 1 3))), ("", .null)] }

theorem strictSettings_layered :
    strictLayer.LaidOver (toJson {}) strictSettings.toJson ∧
    strictSettings.toJson.overlay strictLayer = strictSettings.toJson ∧
    ofText .json customSettings.toJson.render = .ok customSettings ∧
    strictSettings.toJson.at? ["compiler", "duplicate_joins"] = some (.string "allow") := by
  have distinct : strictLayer.DistinctNames := by
    simp [strictLayer, Json.DistinctNames, Json.MembersDistinctNames]
  have merged : (toJson {}).overlay strictLayer = strictSettings.toJson := by
    simp [toJson, CompilerSettings.toJson, strictLayer, strictSettings, Json.overlay,
      Json.overlayMembers, Json.overlayMember, LiteralPolicy.name]
  have readable : (Json.object customSettings.extra).isReadable = true := by decide
  have finite : ∀ number ∈ customSettings.numbers, number.IsFinite := by decide +kernel
  have numbersBack : ∀ number ∈ customSettings.numbers, number.ReadsBack := by decide +kernel
  have readBack : ∀ number, .decimal number ∈ customSettings.numbers → number.isFinite = true →
      (JsonNumber.decimal number).ReadsBack := fun number listed _ => numbersBack _ listed
  have storable : customSettings.IsStorable :=
    { distinct := by
        simp [customSettings, Json.ofInt, Json.DistinctNames, Json.MembersDistinctNames,
          Json.ItemsDistinctNames]
      readable
      finite
      nested := (Json.nestsWithin_render_iff (faithful_toJson readable finite readBack) 127).mpr
        (by decide +kernel) }
  have read : SettingsFormat.json.read? strictLayer.render = some strictLayer :=
    SettingsFormat.read?_render (by simp [strictLayer]) distinct (by decide)
  have loaded : ofText .json strictLayer.render = .ok strictSettings := by
    rw [ofText, read]
    simp only [ofLayer]
    rw [merged, ofJson?_toJson rfl]
  have lacks : strictLayer.LacksNext ["compiler", "duplicate_joins"] :=
    ⟨["compiler"], "duplicate_joins", [], _, rfl, rfl, by decide⟩
  have above := layered_by_name.1 (toJson {}) strictLayer distinct
  rw [merged] at above
  refine ⟨above.1, above.2, ?_, ?_⟩
  · exact layered_by_name.2.1 customSettings storable readBack
  · exact (layered_by_name.2.2 .json _ strictLayer strictSettings read loaded _
      lacks).trans rfl

end Settings

end QueryComposer
