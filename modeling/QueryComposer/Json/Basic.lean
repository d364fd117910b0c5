import QueryComposer.Number.Binary64

set_option autoImplicit false

/-!
Data values as they stand in files: the tree of a JSON text. Object members keep their order and
repetitions; what a repetition means is left to the reader of the tree. A part that is well formed
and yet stands for nothing keeps its place in the tree: where nobody asks for it, it does no harm.
-/

namespace QueryComposer

/-- A number of a data file: an integer of 64 bits of either kind, or a floating-point number. -/
inductive JsonNumber
  | integer (value : Int)
  | decimal (value : Number.Binary64)
deriving DecidableEq, Repr

/-- A data value. What is unreadable is well formed but stands for nothing: a number beyond all
numbers, a text with half a character, an object with such a name, or nesting beyond the limit. -/
inductive Json
  | null
  | bool (value : Bool)
  | number (value : JsonNumber)
  | string (value : String)
  | array (items : List Json)
  | object (members : List (String × Json))
  | unreadable
deriving Repr

namespace Json

instance : Inhabited Json := ⟨.null⟩

/-- A whole number. -/
def ofNat (value : Nat) : Json :=
  .number (.integer value)

/-- An integer. -/
def ofInt (value : Int) : Json :=
  .number (.integer value)

/-- A floating-point number; there is no text for one that is not finite, so it becomes null. -/
def ofBinary64 (value : Number.Binary64) : Json :=
  if value.isFinite then .number (.decimal value) else .null

/-- The member for a field that is left out when it is not set. -/
def memberIfSet {α : Type} (name : String) (encode : α → Json) : Option α → List (String × Json)
  | none => []
  | some value => [(name, encode value)]

/-- A field that is null when it is not set. -/
def orNull {α : Type} (encode : α → Json) : Option α → Json
  | none => .null
  | some value => encode value

/-- The deepest nesting that can be read. -/
def depthLimit : Nat := 127

mutual

/-- No part of the value is unreadable. -/
def isReadable : Json → Bool
  | .unreadable => false
  | .array items => areReadable items
  | .object members => membersAreReadable members
  | _ => true

/-- No part of the items of an array is unreadable. -/
def areReadable : List Json → Bool
  | [] => true
  | item :: items => isReadable item && areReadable items

/-- No part of the members of an object is unreadable. -/
def membersAreReadable : List (String × Json) → Bool
  | [] => true
  | (_, value) :: members => isReadable value && membersAreReadable members

end

end Json

end QueryComposer
