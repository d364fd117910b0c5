import QueryComposer.Proofs.Settings.Overlay
import QueryComposer.Proofs.Settings.Values
import QueryComposer.Proofs.Toml.Names

set_option autoImplicit false

/-!
What a file of settings does not name. A record that is taken out of its default with a layer over
it has the default in each field that the layer lacks; where the layer has the field, the same is
said of what is in the field.
-/

namespace QueryComposer

namespace Json

/-! ### Agreement off a layer -/

/-- Two values agree at every path on which the layer lacks a name. -/
def AgreeOff (layer left right : Json) : Prop :=
  ∀ path, layer.LacksNext path → left.at? path = right.at? path

/-- Two values under a name are the same when the members of a layer lack the name, and otherwise
agree off what is under it. -/
def AgreeUnder (above : List (String × Json)) (name : String) (left right : Json) : Prop :=
  (Entries.get? above name = none → left = right) ∧
    ∀ value, Entries.get? above name = some value → value.AgreeOff left right

variable {layer left right : Json}

theorem agreeOff_of_isObject_eq_false (single : layer.isObject = false) :
    layer.AgreeOff left right :=
  fun _ lacks => absurd lacks (not_lacksNext_of_isObject_eq_false single)

theorem agreeOff_singles (leftSingle : left.isObject = false) (rightSingle : right.isObject = false)
    (layer : Json) : layer.AgreeOff left right := by
  intro path lacks
  cases path with
  | nil => exact absurd lacks (not_lacksNext_nil layer)
  | cons name path =>
    rw [at?_cons_of_isObject_eq_false leftSingle, at?_cons_of_isObject_eq_false rightSingle]

/-- Objects with the same names agree off a layer when they do so under each name. -/
theorem agreeOff_objects {above lefts rights : List (String × Json)}
    (members : List.Forall₂ (fun left right =>
      left.1 = right.1 ∧ AgreeUnder above left.1 left.2 right.2) lefts rights) :
    (Json.object above).AgreeOff (.object lefts) (.object rights) := by
  intro path lacks
  cases path with
  | nil => exact absurd lacks (not_lacksNext_nil _)
  | cons name path =>
    rw [at?_object_cons, at?_object_cons]
    induction members with
    | nil => rfl
    | @cons left right lefts rights first _ inner =>
      obtain ⟨leftName, left⟩ := left
      obtain ⟨rightName, right⟩ := right
      obtain ⟨rfl, lacking, within⟩ := first
      rw [Entries.get?_cons, Entries.get?_cons]
      by_cases here : name = leftName
      · subst here
        rw [if_pos rfl, if_pos rfl, Option.bind_some, Option.bind_some]
        rcases lacksNext_object_cons_iff.mp lacks with absent | ⟨value, found, further⟩
        · exact congrArg (fun value => value.at? path) (lacking absent)
        · exact within value found path further
      · rw [if_neg here, if_neg here]
        exact inner

/-! ### Defaults -/

/-- What is taken out of a default with a layer over it agrees with the default off the layer. -/
structure KeepsDefault {α : Type} (encode : α → Json) (decode : Json → Option α) (default : α) :
    Prop where
  back : decode (encode default) = some default
  agree : ∀ layer value, layer.DistinctNames →
    decode ((encode default).overlay layer) = some value →
      layer.AgreeOff (encode value) (encode default)

section Fields

variable {α : Type} {encode : α → Json} {decode : Json → Option α} {default value : α}

theorem keepsDefault_single (single : ∀ value, (encode value).isObject = false)
    (back : decode (encode default) = some default) : KeepsDefault encode decode default :=
  { back
    agree := fun layer value _ _ => agreeOff_singles (single value) (single default) layer }

theorem keepsDefault_bool (default : Bool) : KeepsDefault .bool asBool? default :=
  keepsDefault_single (fun _ => rfl) (asBool?_bool default)

theorem keepsDefault_string (default : String) : KeepsDefault .string asString? default :=
  keepsDefault_single (fun _ => rfl) (asString?_string default)

theorem keepsDefault_uint32 (default : UInt32) :
    KeepsDefault (fun value => .ofNat value.toNat) asUInt32? default :=
  keepsDefault_single (fun _ => rfl) (asUInt32?_ofNat default)

theorem keepsDefault_uint64 (default : UInt64) :
    KeepsDefault (fun value => .ofNat value.toNat) asUInt64? default :=
  keepsDefault_single (fun _ => rfl) (asUInt64?_ofNat default)

theorem keepsDefault_binary64 {default : Number.Binary64} (finite : default.isFinite = true) :
    KeepsDefault ofBinary64 asBinary64? default :=
  keepsDefault_single isObject_ofBinary64 (asBinary64?_ofBinary64 finite)

theorem keepsDefault_members (default : List (String × Json)) :
    KeepsDefault .object asMembers? default := by
  refine ⟨rfl, ?_⟩
  intro layer value distinct decoded path lacks
  have merged : (Json.object default).overlay layer = .object value := by
    unfold asMembers? at decoded
    split at decoded
    · next members whole => rw [whole, Option.some.inj decoded]
    · contradiction
  rw [← merged]
  exact at?_overlay_of_lacksNext distinct _ lacks

/-- A field of a record is what the record has under its name. -/
theorem get?_fields {names : List String} {members : List (String × Json)} {fields : Fields}
    {name : String} (present : fields? names (.object members) = some fields)
    (known : name ∈ names) : fields.get? name = Entries.get? members name := by
  rw [fields?] at present
  split at present
  · cases present
    rw [Fields.get?]
    clear * - known
    induction members with
    | nil => rfl
    | cons member members inner =>
      obtain ⟨other, value⟩ := member
      rw [Entries.get?_cons, List.filter_cons]
      by_cases same : name = other
      · subst same
        rw [if_pos (List.contains_iff_mem.mpr known), List.lookup_cons_self, if_pos rfl]
      · rw [if_neg same, ← inner]
        split
        · rw [List.lookup_cons, beq_false_of_ne same]
        · rfl
  · contradiction

/-- What a record has in one field, of a default with a layer over it. -/
theorem KeepsDefault.agreeUnder {names : List String} {below above : List (String × Json)}
    {fields : Fields} {name : String} (keeps : KeepsDefault encode decode default)
    (distinct : (Json.object above).DistinctNames)
    (present : fields? names ((Json.object below).overlay (.object above)) = some fields)
    (known : name ∈ names) (lower : Entries.get? below name = some (encode default))
    (decoded : fields.required name decode = some value) :
    AgreeUnder above name (encode value) (encode default) := by
  rw [distinctNames_object_iff] at distinct
  rw [overlay] at present
  rw [Fields.required, get?_fields present known, get?_overlayMembers distinct.1, lower] at decoded
  constructor
  · intro lacking
    rw [lacking] at decoded
    rw [Option.some.inj (keeps.back.symm.trans decoded)]
  · intro upper found
    rw [found] at decoded
    exact keeps.agree upper value (distinct.2 _ (Entries.mem_of_get? found)) decoded

end Fields

end Json

/-! ### Records of settings -/

open Json

theorem LiteralPolicy.keepsDefault (default : LiteralPolicy) :
    KeepsDefault (fun policy => .string policy.name) ofJson? default :=
  keepsDefault_single (fun _ => rfl) default.ofJson?_name

theorem DuplicateJoinPolicy.keepsDefault (default : DuplicateJoinPolicy) :
    KeepsDefault (fun policy => .string policy.name) ofJson? default :=
  keepsDefault_single (fun _ => rfl) default.ofJson?_name

theorem CompilerSettings.keepsDefault (default : CompilerSettings) :
    KeepsDefault toJson ofJson? default := by
  refine ⟨default.ofJson?_toJson, ?_⟩
  intro layer settings distinct decoded
  cases layer with
  | object above =>
    obtain ⟨fields, present, literalPolicy, duplicateJoins⟩ := ofJson?_eq_some_iff.mp decoded
    refine agreeOff_objects (.cons ⟨rfl, ?_⟩ (.cons ⟨rfl, ?_⟩ .nil))
    · exact (LiteralPolicy.keepsDefault _).agreeUnder distinct present (by simp) rfl literalPolicy
    · exact (DuplicateJoinPolicy.keepsDefault _).agreeUnder distinct present (by simp) rfl
        duplicateJoins
  | _ => exact agreeOff_of_isObject_eq_false rfl

theorem PreviewSettings.keepsDefault (default : PreviewSettings) :
    KeepsDefault toJson ofJson? default := by
  refine ⟨default.ofJson?_toJson, ?_⟩
  intro layer settings distinct decoded
  cases layer with
  | object above =>
    obtain ⟨fields, present, debounceMs⟩ := ofJson?_eq_some_iff.mp decoded
    refine agreeOff_objects (.cons ⟨rfl, ?_⟩ .nil)
    exact (keepsDefault_uint64 _).agreeUnder distinct present (by simp) rfl debounceMs
  | _ => exact agreeOff_of_isObject_eq_false rfl

theorem ExecutionSettings.keepsDefault (default : ExecutionSettings) :
    KeepsDefault toJson ofJson? default := by
  refine ⟨default.ofJson?_toJson, ?_⟩
  intro layer settings distinct decoded
  cases layer with
  | object above =>
    obtain ⟨fields, present, pageSize, timeoutMs, pollIntervalMs, maxPollAttempts⟩ :=
      ofJson?_eq_some_iff.mp decoded
    refine agreeOff_objects
      (.cons ⟨rfl, ?_⟩ (.cons ⟨rfl, ?_⟩ (.cons ⟨rfl, ?_⟩ (.cons ⟨rfl, ?_⟩ .nil))))
    · exact (keepsDefault_uint32 _).agreeUnder distinct present (by simp) rfl pageSize
    · exact (keepsDefault_uint64 _).agreeUnder distinct present (by simp) rfl timeoutMs
    · exact (keepsDefault_uint64 _).agreeUnder distinct present (by simp) rfl pollIntervalMs
    · exact (keepsDefault_uint32 _).agreeUnder distinct present (by simp) rfl maxPollAttempts
  | _ => exact agreeOff_of_isObject_eq_false rfl

theorem SuggestionSettings.keepsDefault {default : SuggestionSettings}
    (finite : default.minConfidence.isFinite = true) : KeepsDefault toJson ofJson? default := by
  refine ⟨ofJson?_toJson finite, ?_⟩
  intro layer settings distinct decoded
  cases layer with
  | object above =>
    obtain ⟨fields, present, autoApply, minConfidence⟩ := ofJson?_eq_some_iff.mp decoded
    refine agreeOff_objects (.cons ⟨rfl, ?_⟩ (.cons ⟨rfl, ?_⟩ .nil))
    · exact (keepsDefault_bool _).agreeUnder distinct present (by simp) rfl autoApply
    · exact (keepsDefault_binary64 finite).agreeUnder distinct present (by simp) rfl minConfidence
  | _ => exact agreeOff_of_isObject_eq_false rfl

namespace Settings

theorem keepsDefault {default : Settings}
    (finite : default.suggestion.minConfidence.isFinite = true) :
    KeepsDefault toJson ofJson? default := by
  refine ⟨ofJson?_toJson finite, ?_⟩
  intro layer settings distinct decoded
  cases layer with
  | object above =>
    obtain ⟨fields, present, debug, logLevel, dataSourceId, compiler, preview, execution,
      suggestion, extra⟩ := ofJson?_eq_some_iff.mp decoded
    refine agreeOff_objects
      (.cons ⟨rfl, ?_⟩ (.cons ⟨rfl, ?_⟩ (.cons ⟨rfl, ?_⟩ (.cons ⟨rfl, ?_⟩ (.cons ⟨rfl, ?_⟩
        (.cons ⟨rfl, ?_⟩ (.cons ⟨rfl, ?_⟩ (.cons ⟨rfl, ?_⟩ .nil))))))))
    · exact (keepsDefault_bool _).agreeUnder distinct present (by simp) rfl debug
    · exact (keepsDefault_string _).agreeUnder distinct present (by simp) rfl logLevel
    · exact (keepsDefault_string _).agreeUnder distinct present (by simp) rfl dataSourceId
    · exact default.compiler.keepsDefault.agreeUnder distinct present (by simp) rfl compiler
    · exact default.preview.keepsDefault.agreeUnder distinct present (by simp) rfl preview
    · exact default.execution.keepsDefault.agreeUnder distinct present (by simp) rfl execution
    · exact (SuggestionSettings.keepsDefault finite).agreeUnder distinct present (by simp) rfl
        suggestion
    · exact (keepsDefault_members _).agreeUnder distinct present (by simp) rfl extra
  | _ => exact agreeOff_of_isObject_eq_false rfl

end Settings

/-! ### Files -/

theorem SettingsFormat.distinctNames_read? {format : SettingsFormat} {text : String} {layer : Json}
    (read : format.read? text = some layer) : layer.DistinctNames := by
  cases format with
  | toml => exact Toml.distinctNames_parse? read
  | json =>
    obtain ⟨value, -, rfl⟩ := Option.map_eq_some_iff.mp read
    exact distinctNames_settled value

/-- Settings that are loaded from a file agree with the default settings off what the file holds. -/
theorem Settings.agreeOff_of_ofText {format : SettingsFormat} {text : String} {layer : Json}
    {settings : Settings} (read : format.read? text = some layer)
    (loaded : ofText format text = .ok settings) :
    layer.AgreeOff settings.toJson (toJson {}) := by
  rw [ofText, read] at loaded
  simp only [ofLayer] at loaded
  split at loaded
  · next decoded =>
    cases loaded
    exact (keepsDefault rfl).agree layer _ (SettingsFormat.distinctNames_read? read) decoded
  · contradiction

end QueryComposer
