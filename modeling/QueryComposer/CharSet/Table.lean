import QueryComposer.CharSet.Basic

set_option autoImplicit false

/-!
Written tables of code points. A table is a text of words with white space between them. A word of a
range table is one code point or two with a hyphen; a word of a run table is the code point at which
a run begins and the code of the run, which begins with a capital letter. Code points are written in
small hexadecimal digits.
-/

namespace QueryComposer.CharSet

open QueryComposer.Text

/-- The words of a table, the present one last first. -/
def tableWords (text : String) : List (List Char) :=
  let (word, words) := text.toList.foldl
    (fun ((word, words) : List Char × List (List Char)) c =>
      if c = ' ' || c = '\n' then
        if word.isEmpty then (word, words) else ([], word.reverse :: words)
      else (c :: word, words))
    ([], [])
  (if word.isEmpty then words else word.reverse :: words).reverse

/-- The number that hexadecimal digits write. -/
def readHex (digits : List Char) : Nat :=
  digits.foldl (fun value c => value * 16 + ((hexValue? c).map Fin.val).getD 0) 0

def readRange (word : List Char) : Nat × Nat :=
  let low := word.takeWhile (· ≠ '-')
  match word.drop low.length with
  | _ :: high => (readHex low, readHex high)
  | [] => (readHex low, readHex low)

def readRanges (text : String) : List (Nat × Nat) :=
  (tableWords text).map readRange

/-- A small hexadecimal digit. -/
def isSmallHexDigit (c : Char) : Bool :=
  isAsciiDigit c || ('a' ≤ c && c ≤ 'f')

def readRun (word : List Char) : Nat × String :=
  (readHex (word.takeWhile isSmallHexDigit), String.ofList (word.dropWhile isSmallHexDigit))

def readRuns (text : String) : List (Nat × String) :=
  (tableWords text).map readRun

/-- The ranges of the runs whose code is chosen; a run ends where the next one begins. -/
def runRanges (chosen : String → Bool) : List (Nat × String) → List (Nat × Nat)
  | [] => []
  | [(first, code)] => if chosen code then [(first, lastPoint)] else []
  | (first, code) :: (next, following) :: rest =>
    let later := runRanges chosen ((next, following) :: rest)
    if chosen code then (first, next - 1) :: later else later

/-- The characters of the runs whose code is chosen. -/
def ofRuns (chosen : String → Bool) (runs : List (Nat × String)) : CharSet :=
  ofRanges (runRanges chosen runs)

end QueryComposer.CharSet
