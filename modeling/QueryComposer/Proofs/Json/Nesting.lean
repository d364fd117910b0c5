import QueryComposer.Proofs.Json.Tokens

set_option autoImplicit false

/-!
How deep values nest, and what is read from the text of a value: the value itself as long as it does
not nest beyond the limit, and otherwise the value with every array and object beyond the limit
unreadable.
-/

namespace QueryComposer.Json

/-! ### Depth -/

mutual

/-- How many arrays and objects stand inside each other. -/
def depth : Json → Nat
  | .array items => itemsDepth items + 1
  | .object members => membersDepth members + 1
  | _ => 0

/-- The greatest depth of the items of an array. -/
def itemsDepth : List Json → Nat
  | [] => 0
  | item :: items => max (depth item) (itemsDepth items)

/-- The greatest depth of the values of an object. -/
def membersDepth : List (String × Json) → Nat
  | [] => 0
  | (_, value) :: members => max (depth value) (membersDepth members)

end

theorem itemsDepth_le_iff (items : List Json) (limit : Nat) :
    itemsDepth items ≤ limit ↔ ∀ item ∈ items, item.depth ≤ limit := by
  induction items with
  | nil => simp [itemsDepth]
  | cons item items induct => rw [itemsDepth, Nat.max_le, induct, List.forall_mem_cons]

theorem membersDepth_le_iff (members : List (String × Json)) (limit : Nat) :
    membersDepth members ≤ limit ↔ ∀ member ∈ members, member.2.depth ≤ limit := by
  induction members with
  | nil => simp [membersDepth]
  | cons member members induct =>
    rw [membersDepth, Nat.max_le, induct, List.forall_mem_cons]

theorem depth_array_le_iff (items : List Json) (limit : Nat) :
    depth (.array items) ≤ limit + 1 ↔ ∀ item ∈ items, item.depth ≤ limit := by
  rw [depth, Nat.add_le_add_iff_right, itemsDepth_le_iff]

theorem depth_object_le_iff (members : List (String × Json)) (limit : Nat) :
    depth (.object members) ≤ limit + 1 ↔ ∀ member ∈ members, member.2.depth ≤ limit := by
  rw [depth, Nat.add_le_add_iff_right, membersDepth_le_iff]

/-! ### The nesting of a text -/

/-- The number of arrays and objects that are open after a token. -/
def openAfter (level : Nat) : Token → Nat
  | .openArray | .openObject => level + 1
  | .closeArray | .closeObject => level - 1
  | _ => level

/-- The greatest number of arrays and objects that are open at once, from the given number on. -/
def deepest : Nat → List Token → Nat
  | level, [] => level
  | level, token :: tokens => max level (deepest (openAfter level token) tokens)

/-- No more arrays and objects than the limit stand inside each other in the text. -/
def nestsWithin (limit : Nat) (text : String) : Bool :=
  (tokens? text.toList).any (fun tokens => deepest 0 tokens ≤ limit)

theorem le_deepest (level : Nat) (tokens : List Token) : level ≤ deepest level tokens := by
  cases tokens with
  | nil => exact Nat.le_refl level
  | cons token tokens => exact Nat.le_max_left _ _

mutual

theorem deepest_tokensOf (value : Json) (level : Nat) (rest : List Token) :
    deepest level (tokensOf value ++ rest) = max (level + value.depth) (deepest level rest) := by
  have further := le_deepest level rest
  cases value with
  | array items =>
    have inner := deepest_itemTokens true items (level + 1) (.closeArray :: rest)
    rw [tokensOf, List.cons_append, List.append_assoc, List.singleton_append, deepest, openAfter,
      inner, deepest, openAfter, depth, Nat.add_sub_cancel]
    omega
  | object members =>
    have inner := deepest_memberTokens true members (level + 1) (.closeObject :: rest)
    rw [tokensOf, List.cons_append, List.append_assoc, List.singleton_append, deepest, openAfter,
      inner, deepest, openAfter, depth, Nat.add_sub_cancel]
    omega
  | _ => simp [tokensOf, deepest, openAfter, depth]

theorem deepest_itemTokens (first : Bool) (items : List Json) (level : Nat) (rest : List Token) :
    deepest level (itemTokens first items ++ rest) =
      max (level + itemsDepth items) (deepest level rest) := by
  have further := le_deepest level rest
  cases items with
  | nil => simp [itemTokens, itemsDepth, further]
  | cons item items =>
    have head := deepest_tokensOf item level (itemTokens false items ++ rest)
    have tail := deepest_itemTokens false items level rest
    have both : deepest level (tokensOf item ++ (itemTokens false items ++ rest)) =
        max (level + itemsDepth (item :: items)) (deepest level rest) := by
      rw [head, tail, itemsDepth]
      omega
    rw [itemTokens, List.append_assoc, List.append_assoc]
    cases first with
    | true => exact both
    | false =>
      rw [if_neg Bool.false_ne_true, List.singleton_append, deepest, openAfter, both]
      · omega
      all_goals simp

theorem deepest_memberTokens (first : Bool) (members : List (String × Json)) (level : Nat)
    (rest : List Token) :
    deepest level (memberTokens first members ++ rest) =
      max (level + membersDepth members) (deepest level rest) := by
  have further := le_deepest level rest
  match members with
  | [] => simp [memberTokens, membersDepth, further]
  | (name, value) :: members =>
    have head := deepest_tokensOf value level (memberTokens false members ++ rest)
    have tail := deepest_memberTokens false members level rest
    have both : deepest level (tokensOf value ++ (memberTokens false members ++ rest)) =
        max (level + membersDepth ((name, value) :: members)) (deepest level rest) := by
      rw [head, tail, membersDepth]
      omega
    rw [memberTokens, List.append_assoc, List.cons_append, List.cons_append, List.append_assoc]
    cases first with
    | true =>
      rw [if_pos rfl, List.nil_append, deepest, deepest, openAfter, openAfter, both]
      · omega
      all_goals simp
    | false =>
      rw [if_neg Bool.false_ne_true, List.singleton_append, deepest, deepest, deepest, openAfter,
        openAfter, openAfter, both]
      · omega
      all_goals simp

end

/-- The text of a value nests as deep as the value does. -/
theorem nestsWithin_render_iff {value : Json} (faithful : value.Faithful) (limit : Nat) :
    nestsWithin limit value.render = true ↔ value.depth ≤ limit := by
  have whole := deepest_tokensOf value 0 []
  rw [List.append_nil, deepest, Nat.max_zero, Nat.zero_add] at whole
  rw [nestsWithin, tokens?_render faithful, Option.any_some, whole, decide_eq_true_eq]

/-! ### What is read -/

mutual

/-- The value inside the given number of arrays and objects, with those beyond the limit
unreadable. -/
def cut (level : Nat) : Json → Json
  | .array items => if level < depthLimit then .array (cutItems (level + 1) items) else .unreadable
  | .object members =>
    if level < depthLimit then .object (cutMembers (level + 1) members) else .unreadable
  | .unreadable => .null
  | value => value

def cutItems (level : Nat) : List Json → List Json
  | [] => []
  | item :: items => cut level item :: cutItems level items

def cutMembers (level : Nat) : List (String × Json) → List (String × Json)
  | [] => []
  | (name, value) :: members => (name, cut level value) :: cutMembers level members

end

theorem cutItems_eq_map (level : Nat) (items : List Json) :
    cutItems level items = items.map (cut level) := by
  induction items with
  | nil => rfl
  | cons item items induct => rw [cutItems, induct, List.map_cons]

theorem cutMembers_eq_map (level : Nat) (members : List (String × Json)) :
    cutMembers level members = members.map (fun member => (member.1, cut level member.2)) := by
  induction members with
  | nil => rfl
  | cons member members induct => rw [cutMembers, induct, List.map_cons]

theorem names_cutMembers (level : Nat) (members : List (String × Json)) :
    (cutMembers level members).map Prod.fst = members.map Prod.fst := by
  rw [cutMembers_eq_map, List.map_map]
  rfl

/-- Members whose names can be read. -/
def namedMembers (members : List (String × Json)) : List ReadMember :=
  members.map (fun member => (some member.1, member.2))

theorem mapM_namedMembers (members : List (String × Json)) :
    (namedMembers members).mapM (fun (name?, value) => name?.map (fun name => (name, value))) =
      some members := by
  induction members with
  | nil => rfl
  | cons member members induct =>
    rw [namedMembers, List.map_cons, List.mapM_cons, ← namedMembers, induct]
    rfl

theorem closeObject_named (members : List (String × Json)) (outer : List Frame) :
    closeObject (namedMembers members).reverse outer =
      if outer.length < depthLimit then .object members else .unreadable := by
  rw [closeObject, List.reverse_reverse, mapM_namedMembers]

namespace ReaderState

theorem run_cons {state next : ReaderState} {token : Token} (taken : state.step token = some next)
    (tokens : List Token) : state.run (token :: tokens) = next.run tokens := by
  rw [run, List.foldlM_cons, taken]
  rfl

end ReaderState

open ReaderState

mutual

/-- Where a value is expected the tokens of one lead to the value, cut at the limit. -/
theorem run_tokensOf (value : Json) (mayClose : Bool) (open_ : List Frame) (rest : List Token) :
    run (.awaitValue mayClose open_) (tokensOf value ++ rest) =
      run (.completed (value.cut open_.length) open_) rest := by
  cases value with
  | array items =>
    rw [tokensOf, List.cons_append, List.append_assoc, List.singleton_append, cut]
    refine (run_cons rfl _).trans ?_
    cases items with
    | nil => exact run_cons rfl _
    | cons item items =>
      have first := run_tokensOf item true (.array [] :: open_)
        (itemTokens false items ++ .closeArray :: rest)
      have others := run_itemTokens items (item.cut (open_.length + 1)) [] open_ rest
      rw [itemTokens, if_pos rfl, List.nil_append, List.append_assoc, first]
      exact others
  | object members =>
    rw [tokensOf, List.cons_append, List.append_assoc, List.singleton_append, cut]
    refine (run_cons rfl _).trans ?_
    match members with
    | [] => exact run_cons rfl _
    | (name, value) :: members =>
      have first := run_tokensOf value false (.object [] (some name) :: open_)
        (memberTokens false members ++ .closeObject :: rest)
      have others := run_memberTokens members name (value.cut (open_.length + 1)) [] open_ rest
      rw [memberTokens, if_pos rfl, List.nil_append, List.cons_append, List.cons_append,
        List.append_assoc]
      exact (run_cons rfl _).trans ((run_cons rfl _).trans (first.trans others))
  | _ => exact run_cons rfl rest

/-- After an item the tokens of further items and the end of the array lead to the array. -/
theorem run_itemTokens (items : List Json) (value : Json) (done : List Json)
    (open_ : List Frame) (rest : List Token) :
    run (.completed value (.array done :: open_))
        (itemTokens false items ++ .closeArray :: rest) =
      run (.completed
        (if open_.length < depthLimit then
          .array (done.reverse ++ value :: cutItems (open_.length + 1) items) else .unreadable)
        open_) rest := by
  cases items with
  | nil =>
    refine (run_cons rfl rest).trans ?_
    rw [closeArray, List.reverse_cons]
    rfl
  | cons item items =>
    have next := run_tokensOf item false (.array (value :: done) :: open_)
      (itemTokens false items ++ .closeArray :: rest)
    have others := run_itemTokens items (item.cut (open_.length + 1)) (value :: done) open_ rest
    rw [List.reverse_cons, List.append_assoc, List.singleton_append] at others
    rw [itemTokens, if_neg Bool.false_ne_true, List.append_assoc, List.singleton_append,
      List.append_assoc, cutItems]
    exact (run_cons rfl _).trans (next.trans others)

/-- After a member the tokens of further members and the end of the object lead to the object. -/
theorem run_memberTokens (members : List (String × Json)) (name : String) (value : Json)
    (done : List (String × Json)) (open_ : List Frame) (rest : List Token) :
    run (.completed value (.object (namedMembers done).reverse (some name) :: open_))
        (memberTokens false members ++ .closeObject :: rest) =
      run (.completed
        (if open_.length < depthLimit then
          .object (done ++ (name, value) :: cutMembers (open_.length + 1) members)
        else .unreadable) open_) rest := by
  have longer : (some name, value) :: (namedMembers done).reverse =
      (namedMembers (done ++ [(name, value)])).reverse := by
    rw [namedMembers, namedMembers, List.map_append, List.reverse_append]
    rfl
  match members with
  | [] =>
    refine (run_cons rfl rest).trans ?_
    rw [longer, closeObject_named]
    rfl
  | (nextName, next) :: members =>
    have first := run_tokensOf next false
      (.object (namedMembers (done ++ [(name, value)])).reverse (some nextName) :: open_)
      (memberTokens false members ++ .closeObject :: rest)
    have others := run_memberTokens members nextName (next.cut (open_.length + 1))
      (done ++ [(name, value)]) open_ rest
    rw [List.append_assoc, List.singleton_append] at others
    rw [memberTokens, if_neg Bool.false_ne_true, List.append_assoc, List.singleton_append,
      List.cons_append, List.cons_append, List.append_assoc, cutMembers]
    refine (run_cons rfl _).trans ?_
    rw [longer]
    exact (run_cons rfl _).trans ((run_cons rfl _).trans (first.trans others))

end

/-- What is read from the text of a value. -/
theorem parse?_render {value : Json} (faithful : value.Faithful) :
    parse? value.render = some (value.cut 0) := by
  have whole := run_tokensOf value false [] []
  rw [List.append_nil] at whole
  rw [parse?, tokens?_render faithful, Option.bind_some, ofTokens?, whole]
  rfl

/-! ### Within the limit and beyond it -/

mutual

theorem isReadable_of_faithful (value : Json) (faithful : value.Faithful) :
    value.isReadable = true := by
  cases value with
  | array items => exact areReadable_of_faithful items faithful
  | object members => exact membersAreReadable_of_faithful members faithful
  | unreadable => exact faithful.elim
  | _ => rfl

theorem areReadable_of_faithful (items : List Json) (faithful : AreFaithful items) :
    areReadable items = true := by
  cases items with
  | nil => rfl
  | cons item items =>
    rw [AreFaithful] at faithful
    rw [areReadable, isReadable_of_faithful item faithful.1,
      areReadable_of_faithful items faithful.2]
    rfl

theorem membersAreReadable_of_faithful (members : List (String × Json))
    (faithful : MembersAreFaithful members) : membersAreReadable members = true := by
  match members, faithful with
  | [], _ => rfl
  | (name, value) :: members, faithful =>
    rw [MembersAreFaithful] at faithful
    rw [membersAreReadable, isReadable_of_faithful value faithful.1,
      membersAreReadable_of_faithful members faithful.2]
    rfl

end

mutual

/-- Within the limit nothing is lost. -/
theorem cut_eq_self (value : Json) (faithful : value.Faithful) (level : Nat)
    (within : level + value.depth ≤ depthLimit) : value.cut level = value := by
  cases value with
  | array items =>
    rw [depth] at within
    rw [cut, if_pos (by omega), cutItems_eq_self items faithful (level + 1) (by omega)]
  | object members =>
    rw [depth] at within
    rw [cut, if_pos (by omega), cutMembers_eq_self members faithful (level + 1) (by omega)]
  | unreadable => exact faithful.elim
  | _ => rfl

theorem cutItems_eq_self (items : List Json) (faithful : AreFaithful items) (level : Nat)
    (within : level + itemsDepth items ≤ depthLimit) : cutItems level items = items := by
  cases items with
  | nil => rfl
  | cons item items =>
    rw [AreFaithful] at faithful
    rw [itemsDepth] at within
    rw [cutItems, cut_eq_self item faithful.1 level (by omega),
      cutItems_eq_self items faithful.2 level (by omega)]

theorem cutMembers_eq_self (members : List (String × Json))
    (faithful : MembersAreFaithful members) (level : Nat)
    (within : level + membersDepth members ≤ depthLimit) : cutMembers level members = members := by
  match members, faithful, within with
  | [], _, _ => rfl
  | (name, value) :: members, faithful, within =>
    rw [MembersAreFaithful] at faithful
    rw [membersDepth] at within
    rw [cutMembers, cut_eq_self value faithful.1 level (by omega),
      cutMembers_eq_self members faithful.2 level (by omega)]

end

mutual

/-- Beyond the limit some part is unreadable. -/
theorem isReadable_cut (value : Json) (level : Nat) (start : level ≤ depthLimit)
    (beyond : depthLimit < level + value.depth) : (value.cut level).isReadable = false := by
  cases value with
  | array items =>
    rw [depth] at beyond
    rw [cut]
    split
    · next room =>
      rw [isReadable]
      exact areReadable_cutItems items (level + 1) room (by omega)
    · rfl
  | object members =>
    rw [depth] at beyond
    rw [cut]
    split
    · next room =>
      rw [isReadable]
      exact membersAreReadable_cutMembers members (level + 1) room (by omega)
    · rfl
  | _ =>
    simp only [depth] at beyond
    omega

theorem areReadable_cutItems (items : List Json) (level : Nat) (start : level ≤ depthLimit)
    (beyond : depthLimit < level + itemsDepth items) :
    areReadable (cutItems level items) = false := by
  cases items with
  | nil =>
    rw [itemsDepth] at beyond
    omega
  | cons item items =>
    rw [itemsDepth] at beyond
    rw [cutItems, areReadable, Bool.and_eq_false_iff]
    by_cases here : depthLimit < level + item.depth
    · exact Or.inl (isReadable_cut item level start here)
    · exact Or.inr (areReadable_cutItems items level start (by omega))

theorem membersAreReadable_cutMembers (members : List (String × Json)) (level : Nat)
    (start : level ≤ depthLimit) (beyond : depthLimit < level + membersDepth members) :
    membersAreReadable (cutMembers level members) = false := by
  match members, beyond with
  | [], beyond =>
    rw [membersDepth] at beyond
    omega
  | (name, value) :: members, beyond =>
    rw [membersDepth] at beyond
    rw [cutMembers, membersAreReadable, Bool.and_eq_false_iff]
    by_cases here : depthLimit < level + value.depth
    · exact Or.inl (isReadable_cut value level start here)
    · exact Or.inr (membersAreReadable_cutMembers members level start (by omega))

end

end QueryComposer.Json
