set_option autoImplicit false

/-!
The failure to read the name of one of a fixed set of things.
-/

namespace QueryComposer

/-- A text that names none of the things of a kind. -/
structure UnknownName where
  kind : String
  text : String
deriving DecidableEq, Repr

namespace UnknownName

/-- What is wrong, for a reader. -/
def message (unknown : UnknownName) : String :=
  s!"unknown {unknown.kind} '{unknown.text}'"

end UnknownName

end QueryComposer
