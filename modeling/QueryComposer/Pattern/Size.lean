import QueryComposer.Pattern.Basic

set_option autoImplicit false

/-!
The size of a pattern as a table of states that reads a text byte by byte, and the size beyond which
a pattern is refused. A state takes 32 bytes, a choice among bytes 8 more for each range, and a
branch 4 more for each way.
-/

namespace QueryComposer.CharSet

/-! ### Ranges of code points as sequences of ranges of bytes -/

/-- The bytes of a code point. -/
def bytesOf (point : Nat) : List Nat :=
  if point < 0x80 then [point]
  else if point < 0x800 then [0xC0 + point / 64, 0x80 + point % 64]
  else if point < 0x10000 then
    [0xE0 + point / 4096, 0x80 + point / 64 % 64, 0x80 + point % 64]
  else
    [0xF0 + point / 262144, 0x80 + point / 4096 % 64, 0x80 + point / 64 % 64, 0x80 + point % 64]

/-- Where a range is cut so that the bytes of either part vary independently; the first code point
of the second part. -/
def cut? (low high : Nat) : Option Nat :=
  let byLength := [0x80, 0x800, 0xD800, 0xE000, 0x10000].find? (fun bound =>
    low < bound && bound ≤ high)
  let byBlock := [64, 4096, 262144].findSome? (fun block =>
    if low / block = high / block then none
    else if low % block ≠ 0 then some ((low / block + 1) * block)
    else if high % block ≠ block - 1 then some (high / block * block)
    else none)
  byLength.or (if high < 0x80 then none else byBlock)

/-- The sequences of ranges of bytes of a range of code points, cut at most as deep as given. -/
def byteRanges : Nat → Nat → Nat → List (List (Nat × Nat))
  | 0, _, _ => []
  | depth + 1, low, high =>
    match cut? low high with
    | some bound => byteRanges depth low (bound - 1) ++ byteRanges depth bound high
    | none =>
      if 0xD800 ≤ low && high < 0xE000 then [] else [(bytesOf low).zip (bytesOf high)]

/-- The number of entries that two sequences share at their start. -/
def sharedStart : List (Nat × Nat) → List (Nat × Nat) → Nat
  | first :: firsts, second :: seconds =>
    if first = second then sharedStart firsts seconds + 1 else 0
  | _, _ => 0

/-- The size of sequences that share their starts with their neighbours. -/
def sequencesSize : List (Nat × Nat) → List (List (Nat × Nat)) → Nat
  | _, [] => 0
  | previous, sequence :: rest =>
    4 + 32 * (sequence.length - sharedStart previous sequence) + sequencesSize sequence rest

/-- The size of the states for one character of the set. -/
def size (set : CharSet) : Nat :=
  match set.ranges with
  | [(low, high)] =>
    if low = high then 32 * (bytesOf low).length
    else if high < 128 then 72
    else 64 + sequencesSize [] (byteRanges 24 low high)
  | ranges =>
    if set.isAscii then 64 + 8 * ranges.length
    else 64 + sequencesSize [] (ranges.flatMap (fun range => byteRanges 24 range.1 range.2))

end QueryComposer.CharSet

namespace QueryComposer.Pattern

/-- Every match takes at least one character. -/
def takesSome : Pattern → Bool
  | .empty => false
  | .char _ => true
  | .anchored _ => false
  | .seq first second => takesSome first || takesSome second
  | .alt first second => takesSome first && takesSome second
  | .group inner => takesSome inner
  | .repetition inner least _ => least ≠ 0 && takesSome inner

/-- No match takes a character. -/
def takesNone : Pattern → Bool
  | .empty => true
  | .char _ => false
  | .anchored _ => true
  | .seq first second => takesNone first && takesNone second
  | .alt first second => takesNone first && takesNone second
  | .group inner => takesNone inner
  | .repetition inner _ most => most = some 0 || takesNone inner

/-- The size of the ways to an alternative, given the alternatives after it. -/
def branchSize : Pattern → Nat
  | .alt _ _ => 4
  | _ => 72

/-- The size of a repetition, given the size of what is repeated. -/
def repetitionSize (inner : Nat) (consumes : Bool) (least : Nat) : Option Nat → Nat
  | none =>
    if least = 0 then inner + (if consumes then 40 else 116) else least * inner + 40
  | some most =>
    if least = 0 && most = 1 then inner + 72
    else if least = most then least * inner
    else (if least = 0 then 32 else least * inner) + 32 + (most - least) * (inner + 40)

/-- The size of the states for a pattern. -/
def size : Pattern → Nat
  | .empty => 32
  | .char set => set.size
  | .anchored _ => 32
  | .seq first second => size first + size second
  | .alt first second => size first + size second + branchSize second
  | .group inner => size inner + 64
  | .repetition inner least most => repetitionSize (size inner) (takesSome inner) least most

/-- A repeated pattern. What takes no character is not repeated more than once, no repetition at all
is nothing, and exactly one repetition is the pattern itself. -/
def repeated (inner : Pattern) (least : Nat) (most : Option Nat) : Pattern :=
  let bounded := takesNone inner
  let low := if bounded then min least 1 else least
  let high := if bounded then some ((most.map (min 1)).getD 1) else most
  if low = 0 && high = some 0 then .empty
  else if low = 1 && high = some 1 then inner
  else .repetition inner low high

/-- The states that every pattern has besides its own. -/
def frameSize : Nat := 208

/-- The largest size that is not refused. -/
def sizeLimit : Nat := 10485760

/-- The pattern is not refused for its size. -/
def isSmallEnough (pattern : Pattern) : Bool :=
  pattern.size + frameSize ≤ sizeLimit

end QueryComposer.Pattern
