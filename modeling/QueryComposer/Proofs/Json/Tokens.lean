import QueryComposer.Proofs.Json.Scan

set_option autoImplicit false

/-!
The tokens of a value. The text of a value is cut into them, and how deep they nest is how deep the
value nests.
-/

namespace QueryComposer.Json

open QueryComposer.Text QueryComposer.Number

/-! ### Values that are read as they were written -/

mutual

/-- No part of the value is unreadable, and every number in it is read as it was written. -/
def Faithful : Json → Prop
  | .unreadable => False
  | .number value => value.ReadsBack
  | .array items => AreFaithful items
  | .object members => MembersAreFaithful members
  | _ => True

/-- The same for all items of an array. -/
def AreFaithful : List Json → Prop
  | [] => True
  | item :: items => Faithful item ∧ AreFaithful items

/-- The same for the values of all members of an object. -/
def MembersAreFaithful : List (String × Json) → Prop
  | [] => True
  | (_, value) :: members => Faithful value ∧ MembersAreFaithful members

end

@[simp] theorem faithful_null : Faithful .null :=
  trivial

@[simp] theorem faithful_bool (value : Bool) : Faithful (.bool value) :=
  trivial

@[simp] theorem faithful_string (text : String) : Faithful (.string text) :=
  trivial

@[simp] theorem faithful_number_iff (value : JsonNumber) :
    Faithful (.number value) ↔ value.ReadsBack :=
  Iff.rfl

theorem areFaithful_iff (items : List Json) :
    AreFaithful items ↔ ∀ item ∈ items, item.Faithful := by
  induction items with
  | nil => simp [AreFaithful]
  | cons item items induct => simp [AreFaithful, induct]

theorem membersAreFaithful_iff (members : List (String × Json)) :
    MembersAreFaithful members ↔ ∀ member ∈ members, member.2.Faithful := by
  induction members with
  | nil => simp [MembersAreFaithful]
  | cons member members induct => simp [MembersAreFaithful, induct]

@[simp] theorem faithful_array_iff (items : List Json) :
    Faithful (.array items) ↔ ∀ item ∈ items, item.Faithful := by
  rw [Faithful, areFaithful_iff]

@[simp] theorem faithful_object_iff (members : List (String × Json)) :
    Faithful (.object members) ↔ ∀ member ∈ members, member.2.Faithful := by
  rw [Faithful, membersAreFaithful_iff]

/-! ### Tokens -/

mutual

/-- The tokens of a value. -/
def tokensOf : Json → List Token
  | .null => [.null]
  | .bool value => [.bool value]
  | .number value => [.number (some value)]
  | .string value => [.string (some value)]
  | .array items => .openArray :: (itemTokens true items ++ [.closeArray])
  | .object members => .openObject :: (memberTokens true members ++ [.closeObject])
  | .unreadable => [.null]

/-- The tokens of the items of an array, each item but the first behind a comma. -/
def itemTokens : Bool → List Json → List Token
  | _, [] => []
  | first, item :: items =>
    (if first then [] else [.comma]) ++ (tokensOf item ++ itemTokens false items)

/-- The tokens of the members of an object, each member but the first behind a comma. -/
def memberTokens : Bool → List (String × Json) → List Token
  | _, [] => []
  | first, (name, value) :: members =>
    (if first then [] else [.comma]) ++
      (.string (some name) :: .colon :: (tokensOf value ++ memberTokens false members))

end

/-- The text is cut into the token at its start and those of the rest. -/
theorem tokens?_cons {c : Char} {chars rest : List Char} {token : Token} {tokens : List Token}
    (visible : isSpace c = false) (scanned : scanToken (c :: chars) = some (token, rest))
    (further : tokens? rest = some tokens) : tokens? (c :: chars) = some (token :: tokens) := by
  rw [tokens?]
  split
  · next none_left =>
    rw [List.dropWhile_cons_of_neg (by simp [visible])] at none_left
    cases none_left
  · next first tail same =>
    rw [List.dropWhile_cons_of_neg (by simp [visible])] at same
    cases same
    split
    · next failed =>
      rw [scanned] at failed
      cases failed
    · next found after scannedHere =>
      rw [scanned] at scannedHere
      cases scannedHere
      rw [further]
      rfl

theorem tokens?_quoteOnto (text : String) {rest : List Char} {tokens : List Token}
    (further : tokens? rest = some tokens) :
    tokens? (quoteOnto text rest) = some (.string (some text) :: tokens) :=
  tokens?_cons (by decide) (scanToken_quoteOnto text rest) further

theorem endsValue_cons {c : Char} (mark : c = ',' ∨ c = ']' ∨ c = '\x7d') (rest : List Char) :
    EndsValue (c :: rest) := by
  intro first same
  cases same
  exact mark

theorem endsValue_itemsOnto {rest : List Char} (ends : EndsValue rest) (items : List Json) :
    EndsValue (itemsOnto false items rest) := by
  cases items with
  | nil => exact ends
  | cons item items => exact endsValue_cons (Or.inl rfl) _

theorem endsValue_membersOnto {rest : List Char} (ends : EndsValue rest)
    (members : List (String × Json)) : EndsValue (membersOnto false members rest) := by
  cases members with
  | nil => exact ends
  | cons member members => exact endsValue_cons (Or.inl rfl) _

/-- The text of a number begins with what is not white space. -/
theorem tokens?_numberText {number : JsonNumber} (readsBack : number.ReadsBack)
    {rest : List Char} (ends : EndsValue rest) {tokens : List Token}
    (further : tokens? rest = some tokens) :
    tokens? ((numberText number).toList ++ rest) = some (.number (some number) :: tokens) := by
  have scanned := scanToken_append ends readsBack
  cases text : (numberText number).toList with
  | nil =>
    rw [JsonNumber.ReadsBack, text] at readsBack
    cases readsBack
  | cons c chars =>
    rw [text] at scanned
    refine tokens?_cons ?_ scanned further
    cases space : isSpace c with
    | false => rfl
    | true =>
      rw [JsonNumber.ReadsBack, text] at readsBack
      simp only [isSpace, Bool.or_eq_true, decide_eq_true_eq] at space
      rcases space with ((rfl | rfl) | rfl) | rfl <;> cases readsBack

mutual

/-- The text of a value in front of further text is cut into the tokens of the value and those of
the further text. -/
theorem tokens?_renderOnto (value : Json) (faithful : value.Faithful) {rest : List Char}
    (ends : EndsValue rest) {tokens : List Token} (further : tokens? rest = some tokens) :
    tokens? (renderOnto value rest) = some (tokensOf value ++ tokens) := by
  cases value with
  | null => exact tokens?_cons (by decide) rfl further
  | bool value => cases value <;> exact tokens?_cons (by decide) rfl further
  | number value => exact tokens?_numberText faithful ends further
  | string text => exact tokens?_quoteOnto text further
  | array items =>
    have closed : tokens? (']' :: rest) = some (.closeArray :: tokens) :=
      tokens?_cons (by decide) rfl further
    have inner := tokens?_itemsOnto true items faithful
      (endsValue_cons (Or.inr (Or.inl rfl)) rest) closed
    rw [renderOnto, tokensOf, List.cons_append, List.append_assoc]
    exact tokens?_cons (by decide) rfl inner
  | object members =>
    have closed : tokens? ('\x7d' :: rest) = some (.closeObject :: tokens) :=
      tokens?_cons (by decide) rfl further
    have inner := tokens?_membersOnto true members faithful
      (endsValue_cons (Or.inr (Or.inr rfl)) rest) closed
    rw [renderOnto, tokensOf, List.cons_append, List.append_assoc]
    exact tokens?_cons (by decide) rfl inner
  | unreadable => exact faithful.elim

theorem tokens?_itemsOnto (first : Bool) (items : List Json) (faithful : AreFaithful items)
    {rest : List Char} (ends : EndsValue rest) {tokens : List Token}
    (further : tokens? rest = some tokens) :
    tokens? (itemsOnto first items rest) = some (itemTokens first items ++ tokens) := by
  cases items with
  | nil => exact further
  | cons item items =>
    rw [AreFaithful] at faithful
    have tail := tokens?_renderOnto item faithful.1 (endsValue_itemsOnto ends items)
      (tokens?_itemsOnto false items faithful.2 ends further)
    rw [itemsOnto, itemTokens]
    cases first with
    | true => simpa using tail
    | false => simpa using tokens?_cons (c := ',') (by decide) rfl tail

theorem tokens?_membersOnto (first : Bool) (members : List (String × Json))
    (faithful : MembersAreFaithful members) {rest : List Char} (ends : EndsValue rest)
    {tokens : List Token} (further : tokens? rest = some tokens) :
    tokens? (membersOnto first members rest) = some (memberTokens first members ++ tokens) := by
  match members, faithful with
  | [], _ => exact further
  | (name, value) :: members, faithful =>
    rw [MembersAreFaithful] at faithful
    have inner := tokens?_renderOnto value faithful.1 (endsValue_membersOnto ends members)
      (tokens?_membersOnto false members faithful.2 ends further)
    have tail := tokens?_quoteOnto name
      (tokens?_cons (c := ':') (by decide) rfl inner)
    rw [membersOnto, memberTokens]
    cases first with
    | true => simpa using tail
    | false => simpa using tokens?_cons (c := ',') (by decide) rfl tail

end

/-- The text of a value is cut into its tokens. -/
theorem tokens?_render {value : Json} (faithful : value.Faithful) :
    tokens? value.render.toList = some (tokensOf value) := by
  have nothing : tokens? [] = some [] := by
    rw [tokens?]
    rfl
  have cut := tokens?_renderOnto value faithful EndsValue.nil nothing
  rw [List.append_nil] at cut
  rw [render, String.toList_ofList]
  exact cut

end QueryComposer.Json
