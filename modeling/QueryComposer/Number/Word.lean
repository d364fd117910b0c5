set_option autoImplicit false

/-!
Integers that fit into a machine word.
-/

namespace QueryComposer.Number

/-- The integer fits into 64 bits with a sign. -/
def isInt64 (value : Int) : Bool :=
  Int64.minValue.toInt ≤ value && value ≤ Int64.maxValue.toInt

end QueryComposer.Number
