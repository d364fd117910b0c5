import QueryComposer.Text.Property

set_option autoImplicit false

/-!
Classes of characters and the text operations built on them: trimming, splitting, joining and
doubling. Every operation works on lists of characters; the versions on strings wrap them.
-/

namespace QueryComposer.Text

/-! ### Classes of characters -/

/-- White space of every script. -/
def isBlank (c : Char) : Bool :=
  inRanges blankRanges c.toNat

/-- Decimal digits of every script. -/
def isDecimalDigit (c : Char) : Bool :=
  inRanges decimalDigitRanges c.toNat

/-- Letters and numbers of every script. -/
def isAlphanumeric (c : Char) : Bool :=
  inRanges alphanumericRanges c.toNat

/-- The ten digits `0` to `9`. -/
def isAsciiDigit (c : Char) : Bool :=
  '0' ≤ c && c ≤ '9'

/-- The unaccented letters of either case. -/
def isAsciiLetter (c : Char) : Bool :=
  ('a' ≤ c && c ≤ 'z') || ('A' ≤ c && c ≤ 'Z')

/-- The value of a digit `0` to `9`. -/
def digitValue (c : Char) : Nat :=
  c.toNat - 48

/-- The value of a hexadecimal digit of either case. -/
def hexValue? (c : Char) : Option (Fin 16) :=
  if isAsciiDigit c then some (Fin.ofNat 16 (c.toNat - 48))
  else if 'a' ≤ c && c ≤ 'f' then some (Fin.ofNat 16 (c.toNat - 87))
  else if 'A' ≤ c && c ≤ 'F' then some (Fin.ofNat 16 (c.toNat - 55))
  else none

/-- The lower-case hexadecimal digit of a value. -/
def hexDigit (value : Fin 16) : Char :=
  if value.val < 10 then Char.ofNat (48 + value.val) else Char.ofNat (87 + value.val)

/-- The last digit of a number to the base sixteen. -/
def hexDigitOf (value : Nat) : Char :=
  hexDigit (Fin.ofNat 16 value)

/-! ### Operations on lists of characters -/

/-- Drop white space at both ends. -/
def trimChars (chars : List Char) : List Char :=
  ((chars.dropWhile isBlank).reverse.dropWhile isBlank).reverse

/-- Cut at every separator; the pieces are one more than the separators. -/
def splitChars (separator : Char) : List Char → List (List Char)
  | [] => [[]]
  | c :: rest =>
    if c = separator then [] :: splitChars separator rest
    else
      match splitChars separator rest with
      | [] => [[c]]
      | piece :: pieces => (c :: piece) :: pieces

/-- The longest runs without white space. -/
def wordsOf : List Char → List (List Char)
  | [] => []
  | c :: rest =>
    if isBlank c then wordsOf rest
    else
      match rest with
      | [] => [[c]]
      | next :: _ =>
        if isBlank next then [c] :: wordsOf rest
        else
          match wordsOf rest with
          | [] => [[c]]
          | word :: words => (c :: word) :: words

/-- The rest of the text after the given start, when the text begins with it. -/
def dropStart? : List Char → List Char → Option (List Char)
  | [], rest => some rest
  | _ :: _, [] => none
  | s :: start, c :: rest => if s = c then dropStart? start rest else none

/-- Whether the text begins with the given start. -/
def startsWith (start chars : List Char) : Bool :=
  (dropStart? start chars).isSome

def endsWith (ending chars : List Char) : Bool :=
  startsWith ending.reverse chars.reverse

/-- Cut the given start away as often as the text begins with it. -/
def dropStarts (start : List Char) (chars : List Char) : List Char :=
  match dropStart? start chars with
  | none => chars
  | some rest => if rest.length < chars.length then dropStarts start rest else chars
termination_by chars.length

/-- Cut the given end away as often as the text ends with it. -/
def dropEnds (ending : List Char) (chars : List Char) : List Char :=
  (dropStarts ending.reverse chars.reverse).reverse

/-- The number of bytes of the text in UTF-8. -/
def byteLength : List Char → Nat
  | [] => 0
  | c :: rest => c.utf8Size + byteLength rest

/-- The bytes of the text in UTF-8. -/
def utf8 (chars : List Char) : List UInt8 :=
  chars.flatMap String.utf8EncodeChar

/-! ### The same operations on strings -/

/-- Drop white space at both ends. -/
def trim (text : String) : String :=
  String.ofList (trimChars text.toList)

/-- Nothing but white space. -/
def isBlankText (text : String) : Bool :=
  (trimChars text.toList).isEmpty

/-- Cut at every separator. -/
def split (separator : Char) (text : String) : List String :=
  (splitChars separator text.toList).map String.ofList

/-- The longest runs without white space. -/
def words (text : String) : List String :=
  (wordsOf text.toList).map String.ofList

/-- The pieces with a separator between neighbours. -/
def join (separator : String) (pieces : List String) : String :=
  String.intercalate separator pieces

/-- Cut at the first separator only. -/
def splitOnce? (separator : Char) (text : String) : Option (String × String) :=
  let chars := text.toList
  match chars.dropWhile (· ≠ separator) with
  | [] => none
  | _ :: rest => some (String.ofList (chars.takeWhile (· ≠ separator)), String.ofList rest)

end QueryComposer.Text
