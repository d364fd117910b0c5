import QueryComposer.Proofs.Json.Names

set_option autoImplicit false

/-!
A layer of settings over a base, path by path. A path names a member of an object at each step, so
it ends at an array and at everything that is no object. Where a path leads to in a value with a
layer over it is told by one equation for its first name; what is kept, what is replaced and that
there is nothing else follow by induction on the path.
-/

namespace QueryComposer

namespace Json

/-! ### Paths -/

def isObject : Json → Bool
  | .object _ => true
  | _ => false

/-- The value at the end of a path of names. -/
def at? : Json → List String → Option Json
  | json, [] => some json
  | .object members, name :: path =>
    (Entries.get? members name).bind (fun value => value.at? path)
  | _, _ :: _ => none

/-- On the way along the path some object of the value lacks the next name. -/
def LacksNext (json : Json) (path : List String) : Prop :=
  ∃ start name rest members, path = start ++ name :: rest ∧
    json.at? start = some (.object members) ∧ Entries.get? members name = none

variable {json : Json} {members : List (String × Json)} {name : String} {path : List String}

theorem isObject_eq_true_iff : json.isObject = true ↔ ∃ members, json = .object members := by
  cases json <;> simp [isObject]

theorem isObject_ofBinary64 (number : Number.Binary64) :
    (ofBinary64 number).isObject = false := by
  unfold ofBinary64
  split <;> rfl

@[simp] theorem at?_nil (json : Json) : json.at? [] = some json := by
  cases json <;> rfl

theorem at?_object_cons (members : List (String × Json)) (name : String) (path : List String) :
    (Json.object members).at? (name :: path) =
      (Entries.get? members name).bind (fun value => value.at? path) :=
  rfl

theorem at?_cons_of_isObject_eq_false (single : json.isObject = false) (name : String)
    (path : List String) : json.at? (name :: path) = none := by
  cases json <;> first | rfl | contradiction

theorem at?_cons (json : Json) (name : String) (path : List String) :
    json.at? (name :: path) = (json.at? [name]).bind (fun value => value.at? path) := by
  cases json with
  | object members => simp only [at?_object_cons, Option.bind_assoc, at?_nil, Option.bind_some]
  | _ => rfl

theorem not_lacksNext_nil (json : Json) : ¬json.LacksNext [] := by
  rintro ⟨start, name, rest, members, whole, -⟩
  exact List.append_ne_nil_of_right_ne_nil start (List.cons_ne_nil name rest) whole.symm

theorem not_lacksNext_of_isObject_eq_false (single : json.isObject = false) :
    ¬json.LacksNext path := by
  rintro ⟨start, name, rest, members, -, reached, -⟩
  cases start with
  | nil =>
    cases (at?_nil json).symm.trans reached
    contradiction
  | cons first start =>
    rw [at?_cons_of_isObject_eq_false single] at reached
    contradiction

theorem lacksNext_object_cons_iff :
    (Json.object members).LacksNext (name :: path) ↔
      Entries.get? members name = none ∨
        ∃ value, Entries.get? members name = some value ∧ value.LacksNext path := by
  constructor
  · rintro ⟨start, next, rest, inner, whole, reached, lacking⟩
    cases start with
    | nil =>
      cases whole
      cases (at?_nil _).symm.trans reached
      exact Or.inl lacking
    | cons first start =>
      cases whole
      rw [at?_object_cons, Option.bind_eq_some_iff] at reached
      obtain ⟨value, found, further⟩ := reached
      exact Or.inr ⟨value, found, start, next, rest, inner, rfl, further, lacking⟩
  · rintro (lacking | ⟨value, found, start, next, rest, inner, rfl, reached, lacking⟩)
    · exact ⟨[], name, path, members, rfl, at?_nil _, lacking⟩
    · refine ⟨name :: start, next, rest, inner, rfl, ?_, lacking⟩
      rw [at?_object_cons, found, Option.bind_some, reached]

/-- A path that lacks a name on its way leads nowhere. -/
theorem LacksNext.at?_eq_none (lacks : json.LacksNext path) : json.at? path = none := by
  induction path generalizing json with
  | nil => exact absurd lacks (not_lacksNext_nil json)
  | cons name path inner =>
    cases json with
    | object members =>
      rw [at?_object_cons]
      rcases lacksNext_object_cons_iff.mp lacks with lacking | ⟨value, found, further⟩
      · rw [lacking, Option.bind_none]
      · rw [found, Option.bind_some, inner further]
    | _ => rfl

/-! ### One step down -/

variable {base layer : Json} {below above : List (String × Json)}

theorem overlay_of_isObject_eq_false (base : Json) (single : layer.isObject = false) :
    base.overlay layer = layer := by
  unfold overlay
  split
  · contradiction
  · rfl

theorem overlay_object_of_isObject_eq_false (single : base.isObject = false)
    (above : List (String × Json)) : base.overlay (.object above) = .object above := by
  unfold overlay
  split
  · contradiction
  · rfl

/-- Under its name a member holds its value over the one below, if there is one. -/
theorem get?_overlayMember (below : List (String × Json)) (name other : String) (value : Json) :
    Entries.get? (overlayMember below name value) other =
      if other = name then
        some (((Entries.get? below name).map (fun lower => lower.overlay value)).getD value)
      else Entries.get? below other := by
  induction below with
  | nil =>
    rw [overlayMember, Entries.get?_cons]
    rfl
  | cons member below inner =>
    obtain ⟨first, lower⟩ := member
    rw [overlayMember]
    by_cases here : first = name
    · subst here
      rw [if_pos rfl, Entries.get?_cons, Entries.get?_cons, Entries.get?_cons, if_pos rfl,
        Option.map_some, Option.getD_some]
      split <;> rfl
    · rw [if_neg here, Entries.get?_cons, Entries.get?_cons, Entries.get?_cons, inner,
        if_neg (Ne.symm here)]
      by_cases same : other = first
      · rw [if_pos same, if_pos same, if_neg (same ▸ here)]
      · rw [if_neg same, if_neg same]

/-- Each name that the members of a layer have holds the layer's value over the one below, and every
other name what it held. -/
theorem get?_overlayMembers (distinct : (above.map Prod.fst).Nodup) (below : List (String × Json))
    (name : String) :
    Entries.get? (overlayMembers below above) name =
      match Entries.get? above name with
      | none => Entries.get? below name
      | some value =>
        some (((Entries.get? below name).map (fun lower => lower.overlay value)).getD value) := by
  induction above generalizing below with
  | nil =>
    rw [overlayMembers]
    rfl
  | cons member above inner =>
    obtain ⟨first, value⟩ := member
    rw [List.map_cons, List.nodup_cons] at distinct
    rw [overlayMembers, inner distinct.2, get?_overlayMember, Entries.get?_cons]
    by_cases here : name = first
    · subst here
      rw [Entries.get?_eq_none_iff.mpr distinct.1, if_pos rfl, if_pos rfl]
    · rw [if_neg here, if_neg here]

/-- A member with a new name is added behind those there are. -/
theorem overlayMember_of_new {name : String} (new : Entries.get? below name = none)
    (value : Json) : overlayMember below name value = below ++ [(name, value)] := by
  induction below with
  | nil => rw [overlayMember, List.nil_append]
  | cons member below inner =>
    obtain ⟨other, lower⟩ := member
    rw [Entries.get?_cons] at new
    split at new
    · contradiction
    · rename_i different
      rw [overlayMember, if_neg (Ne.symm different), inner new, List.cons_append]

theorem overlayMembers_of_new (distinct : ((below ++ above).map Prod.fst).Nodup) :
    overlayMembers below above = below ++ above := by
  induction above generalizing below with
  | nil => rw [overlayMembers, List.append_nil]
  | cons member above inner =>
    obtain ⟨name, value⟩ := member
    have new : Entries.get? below name = none := by
      rw [List.map_append, List.map_cons, List.nodup_middle, List.nodup_cons] at distinct
      exact Entries.get?_eq_none_iff.mpr (fun listed =>
        distinct.1 (List.mem_append_left _ listed))
    rw [overlayMembers, overlayMember_of_new new, inner (by simpa using distinct),
      List.append_assoc, List.singleton_append]

/-- Where a path leads to in a value with an object over it. -/
theorem at?_overlay_object_cons (distinct : (above.map Prod.fst).Nodup) (base : Json)
    (name : String) (path : List String) :
    (base.overlay (.object above)).at? (name :: path) =
      match Entries.get? above name, base.at? [name] with
      | none, _ => base.at? (name :: path)
      | some value, none => value.at? path
      | some value, some lower => (lower.overlay value).at? path := by
  cases base with
  | object below =>
    rw [overlay, at?_object_cons, get?_overlayMembers distinct, at?_object_cons, at?_object_cons]
    cases Entries.get? above name with
    | none => rfl
    | some value =>
      cases Entries.get? below name with
      | none => rfl
      | some lower =>
        simp only [Option.map_some, Option.getD_some, Option.bind_some, at?_nil]
  | _ =>
    rw [overlay_object_of_isObject_eq_false rfl, at?_object_cons]
    cases Entries.get? above name <;> rfl

/-! ### A layer over a base -/

/-- What a value holds that is a base with a layer over it. -/
structure LaidOver (layer base merged : Json) : Prop where
  named : ∀ path value, layer.at? path = some value → value.isObject = false →
    merged.at? path = some value
  passedOver : ∀ path, layer.LacksNext path → merged.at? path = base.at? path
  nothingElse : ∀ path value, merged.at? path = some value → value.isObject = false →
    layer.at? path = some value ∨ layer.LacksNext path ∧ base.at? path = some value

theorem at?_overlay_of_named {value : Json} (distinct : layer.DistinctNames) (base : Json)
    (named : layer.at? path = some value) (single : value.isObject = false) :
    (base.overlay layer).at? path = some value := by
  induction path generalizing base layer with
  | nil =>
    cases (at?_nil layer).symm.trans named
    rw [overlay_of_isObject_eq_false base single, at?_nil]
  | cons name path inner =>
    cases layer with
    | object above =>
      rw [distinctNames_object_iff] at distinct
      rw [at?_object_cons, Option.bind_eq_some_iff] at named
      obtain ⟨next, found, further⟩ := named
      have below := distinct.2 _ (Entries.mem_of_get? found)
      rw [at?_overlay_object_cons distinct.1, found]
      cases base.at? [name] with
      | none => exact further
      | some lower => exact inner below lower further
    | _ => cases named

theorem at?_overlay_of_lacksNext (distinct : layer.DistinctNames) (base : Json)
    (lacks : layer.LacksNext path) : (base.overlay layer).at? path = base.at? path := by
  induction path generalizing base layer with
  | nil => exact absurd lacks (not_lacksNext_nil layer)
  | cons name path inner =>
    cases layer with
    | object above =>
      rw [distinctNames_object_iff] at distinct
      rw [at?_overlay_object_cons distinct.1]
      rcases lacksNext_object_cons_iff.mp lacks with lacking | ⟨next, found, further⟩
      · rw [lacking]
      · have below := distinct.2 _ (Entries.mem_of_get? found)
        rw [found, at?_cons base name path]
        cases base.at? [name] with
        | none => exact further.at?_eq_none
        | some lower => exact inner below lower further
    | _ => exact absurd lacks (not_lacksNext_of_isObject_eq_false rfl)

theorem named_or_lacksNext_of_at?_overlay {value : Json} (distinct : layer.DistinctNames)
    (base : Json) (reached : (base.overlay layer).at? path = some value)
    (single : value.isObject = false) :
    layer.at? path = some value ∨ layer.LacksNext path ∧ base.at? path = some value := by
  induction path generalizing base layer with
  | nil =>
    cases layer with
    | object above =>
      -- an object over anything is an object
      cases base with
      | object below =>
        rw [overlay, at?_nil] at reached
        cases reached
        contradiction
      | _ =>
        rw [overlay_object_of_isObject_eq_false rfl, at?_nil] at reached
        cases reached
        contradiction
    | _ =>
      rw [overlay_of_isObject_eq_false base rfl] at reached
      exact Or.inl reached
  | cons name path inner =>
    cases layer with
    | object above =>
      rw [distinctNames_object_iff] at distinct
      rw [at?_overlay_object_cons distinct.1] at reached
      cases found : Entries.get? above name with
      | none =>
        rw [found] at reached
        exact Or.inr ⟨lacksNext_object_cons_iff.mpr (Or.inl found), reached⟩
      | some next =>
        have below := distinct.2 _ (Entries.mem_of_get? found)
        rw [at?_object_cons, found, Option.bind_some, at?_cons]
        rw [found] at reached
        cases lower? : base.at? [name] with
        | none =>
          rw [lower?] at reached
          exact Or.inl reached
        | some lower =>
          rw [lower?] at reached
          rcases inner below lower reached with named | ⟨lacks, kept⟩
          · exact Or.inl named
          · exact Or.inr ⟨lacksNext_object_cons_iff.mpr (Or.inr ⟨next, found, lacks⟩), kept⟩
    | _ =>
      rw [overlay_of_isObject_eq_false base rfl] at reached
      cases reached

theorem laidOver_overlay (base : Json) (distinct : layer.DistinctNames) :
    layer.LaidOver base (base.overlay layer) :=
  { named := fun _ _ named single => at?_overlay_of_named distinct base named single
    passedOver := fun _ lacks => at?_overlay_of_lacksNext distinct base lacks
    nothingElse := fun _ _ reached single =>
      named_or_lacksNext_of_at?_overlay distinct base reached single }

/-! ### A layer that is there already -/

/-- A member that is there already changes nothing. -/
theorem overlayMember_eq_self {name : String} {value lower : Json}
    (found : Entries.get? below name = some lower) (kept : lower.overlay value = lower) :
    overlayMember below name value = below := by
  induction below with
  | nil => contradiction
  | cons member below inner =>
    obtain ⟨first, content⟩ := member
    rw [Entries.get?_cons] at found
    rw [overlayMember]
    by_cases here : first = name
    · rw [if_pos here.symm] at found
      cases found
      rw [if_pos here, kept, here]
    · rw [if_neg (Ne.symm here)] at found
      rw [if_neg here, inner found]

/-- Members that are all there already change nothing. -/
theorem overlayMembers_eq_self
    (kept : ∀ member ∈ above, ∃ lower, Entries.get? below member.1 = some lower ∧
      lower.overlay member.2 = lower) : overlayMembers below above = below := by
  induction above with
  | nil => rw [overlayMembers]
  | cons member above inner =>
    obtain ⟨lower, found, same⟩ := kept member List.mem_cons_self
    rw [overlayMembers, overlayMember_eq_self found same]
    exact inner (fun other listed => kept other (List.mem_cons_of_mem member listed))

mutual

theorem overlay_self (value : Json) (distinct : value.DistinctNames) :
    value.overlay value = value := by
  cases value with
  | object members =>
    rw [DistinctNames] at distinct
    have values := overlay_self_of_mem members distinct.2
    rw [overlay, overlayMembers_eq_self]
    intro member listed
    exact ⟨member.2, Entries.get?_of_mem distinct.1 listed, values member listed⟩
  | _ => exact overlay_of_isObject_eq_false _ rfl

theorem overlay_self_of_mem (members : List (String × Json))
    (distinct : MembersDistinctNames members) :
    ∀ member ∈ members, member.2.overlay member.2 = member.2 := by
  match members, distinct with
  | [], _ => exact List.forall_mem_nil _
  | (name, value) :: members, distinct =>
    rw [MembersDistinctNames] at distinct
    exact List.forall_mem_cons.mpr
      ⟨overlay_self value distinct.1, overlay_self_of_mem members distinct.2⟩

end

mutual

/-- A layer that is laid over a base again changes nothing. -/
theorem overlay_overlay (layer base : Json) (distinct : layer.DistinctNames) :
    (base.overlay layer).overlay layer = base.overlay layer := by
  cases layer with
  | object above =>
    cases single : base.isObject with
    | true =>
      obtain ⟨below, rfl⟩ := isObject_eq_true_iff.mp single
      rw [DistinctNames] at distinct
      have again := overlay_overlay_of_mem above distinct.2
      rw [overlay, overlay, overlayMembers_eq_self]
      intro member listed
      rw [get?_overlayMembers distinct.1, Entries.get?_of_mem distinct.1 listed]
      refine ⟨_, rfl, ?_⟩
      cases Entries.get? below member.1 with
      | none => exact overlay_self _ ((membersDistinctNames_iff above).mp distinct.2 member listed)
      | some lower => exact again member listed lower
    | false =>
      rw [overlay_object_of_isObject_eq_false single]
      exact overlay_self _ distinct
  | _ => rw [overlay_of_isObject_eq_false _ rfl, overlay_of_isObject_eq_false _ rfl]

theorem overlay_overlay_of_mem (members : List (String × Json))
    (distinct : MembersDistinctNames members) :
    ∀ member ∈ members, ∀ base : Json,
      (base.overlay member.2).overlay member.2 = base.overlay member.2 := by
  match members, distinct with
  | [], _ => exact List.forall_mem_nil _
  | (name, value) :: members, distinct =>
    rw [MembersDistinctNames] at distinct
    exact List.forall_mem_cons.mpr
      ⟨fun base => overlay_overlay value base distinct.1,
        overlay_overlay_of_mem members distinct.2⟩

end

end Json

end QueryComposer
