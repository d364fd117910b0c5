import QueryComposer.Text.Basic
import QueryComposer.Text.CaseRun

set_option autoImplicit false

/-!
Lower and upper case of whole texts. A character may become several, and a capital sigma that ends
a word becomes the final form of the small letter.
-/

namespace QueryComposer.Text

/-- The code point that a list of runs maps a code point to. -/
def mapRun : List CaseRun → Nat → Nat
  | [], point => point
  | run :: rest, point =>
    if point < run.first then point
    else if point ≤ run.last && (point - run.first) % run.stride = 0 then
      (run.offset + point).toNat
    else mapRun rest point

/-- One character under a case mapping. -/
def mapCase (runs : List CaseRun) (expansions : List (Nat × List Nat)) (c : Char) : List Char :=
  match expansions.lookup c.toNat with
  | some points => points.map Char.ofNat
  | none => [Char.ofNat (mapRun runs c.toNat)]

/-- The lower-case form of one character on its own. -/
def lowerChar (c : Char) : List Char :=
  mapCase lowercaseRuns lowercaseExpansions c

/-- The upper-case form of one character. -/
def upperChar (c : Char) : List Char :=
  mapCase uppercaseRuns uppercaseExpansions c

/-- Whether the first character that a search for letters does not pass over is a cased letter. -/
def meetsCased (chars : List Char) : Bool :=
  match chars.dropWhile (fun c => inRanges caseIgnorableRanges c.toNat) with
  | [] => false
  | c :: _ => inRanges casedRanges c.toNat

/-- Lower case of a text, given the characters before it from the nearest outwards. -/
def lowerFrom : List Char → List Char → List Char
  | _, [] => []
  | before, c :: rest =>
    let lowered :=
      if c.toNat = 0x3A3 then
        if meetsCased before && !meetsCased rest then [Char.ofNat 0x3C2] else [Char.ofNat 0x3C3]
      else lowerChar c
    lowered ++ lowerFrom (c :: before) rest

/-- Lower case of a list of characters. -/
def lowerChars (chars : List Char) : List Char :=
  lowerFrom [] chars

/-- Upper case of a list of characters. -/
def upperChars (chars : List Char) : List Char :=
  chars.flatMap upperChar

def toLower (text : String) : String :=
  String.ofList (lowerChars text.toList)

def toUpper (text : String) : String :=
  String.ofList (upperChars text.toList)

end QueryComposer.Text
