import QueryComposer.Text.Basic

set_option autoImplicit false

/-!
Sets of characters. A set is a list of ranges of code points; the operations keep the ranges apart
and in increasing order, so that two sets with the same characters have the same ranges.
-/

namespace QueryComposer

open QueryComposer.Text

/-- A set of characters: ranges of code points with both ends included, apart from each other and in
increasing order. -/
structure CharSet where
  ranges : List (Nat × Nat)
deriving DecidableEq, Repr

namespace CharSet

/-- The last code point of all. -/
def lastPoint : Nat := 0x10FFFF

/-- The set has the character. -/
def contains (set : CharSet) (c : Char) : Bool :=
  inRanges set.ranges c.toNat

/-! ### Building -/

/-- Add a range to ranges in increasing order, joined with those that it meets. -/
def addRange (range : Nat × Nat) : List (Nat × Nat) → List (Nat × Nat)
  | [] => [range]
  | first :: rest =>
    if range.2 + 1 < first.1 then range :: first :: rest
    else if first.2 + 1 < range.1 then first :: addRange range rest
    else addRange (min range.1 first.1, max range.2 first.2) rest

/-- The set without characters. -/
def empty : CharSet := ⟨[]⟩

/-- The characters of some ranges in any order. -/
def ofRanges (ranges : List (Nat × Nat)) : CharSet :=
  ⟨ranges.foldr addRange []⟩

/-- The characters with some code points. -/
def ofPoints (points : List Nat) : CharSet :=
  ofRanges (points.map (fun point => (point, point)))

/-- The characters from one to another. -/
def range (low high : Char) : CharSet :=
  ⟨[(low.toNat, high.toNat)]⟩

/-- One character. -/
def single (c : Char) : CharSet :=
  range c c

/-- The characters of a text. -/
def ofText (text : String) : CharSet :=
  ofPoints (text.toList.map Char.toNat)

/-! ### Operations -/

/-- The characters of either set. -/
def union (first second : CharSet) : CharSet :=
  ⟨first.ranges.foldr addRange second.ranges⟩

/-- What ranges in increasing order leave free between two code points. -/
def gaps (last : Nat) : Nat → List (Nat × Nat) → List (Nat × Nat)
  | next, [] => if next ≤ last then [(next, last)] else []
  | next, (low, high) :: rest =>
    if next < low then (next, low - 1) :: gaps last (high + 1) rest else gaps last (high + 1) rest

/-- The characters up to a code point that are not in the set. -/
def complementUpTo (last : Nat) (set : CharSet) : CharSet :=
  ⟨gaps last 0 set.ranges⟩

/-- The characters that are not in the set. -/
def complement (set : CharSet) : CharSet :=
  complementUpTo lastPoint set

/-- The characters of both sets. -/
def intersection (first second : CharSet) : CharSet :=
  complement (union (complement first) (complement second))

/-- The characters of the first set that are not in the second. -/
def difference (first second : CharSet) : CharSet :=
  intersection first (complement second)

/-- The characters of exactly one of the sets. -/
def symmetricDifference (first second : CharSet) : CharSet :=
  union (difference first second) (difference second first)

/-- All characters are among the first 128. -/
def isAscii (set : CharSet) : Bool :=
  set.ranges.all (fun range => range.2 < 128)

/-! ### Sets that the text rules know -/

/-- White space of every script. -/
def blank : CharSet := ⟨blankRanges⟩

/-- Decimal digits of every script. -/
def digit : CharSet := ⟨decimalDigitRanges⟩

/-- The characters a word is made of. -/
def word : CharSet := ⟨wordRanges⟩

/-- Every character except the end of a line. -/
def inLine : CharSet :=
  complement (single '\n')

end CharSet

end QueryComposer
