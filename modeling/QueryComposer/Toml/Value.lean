import QueryComposer.Toml.Moment

set_option autoImplicit false

/-!
Keys and values of TOML texts. Each function takes one thing from the start of the text and gives
the rest. A number that is not finite is null.
-/

namespace QueryComposer.Toml

open QueryComposer.Text QueryComposer.Number

/-! ### Between things -/

/-- A blank inside of a line. -/
def isBlankChar (c : Char) : Bool :=
  c = ' ' || c = '\t'

/-- The text after blanks. -/
def skipBlanks (chars : List Char) : List Char :=
  chars.dropWhile isBlankChar

/-- The characters that may not stand in a text as they are. -/
def isForbidden (c : Char) : Bool :=
  (c.toNat < 0x20 && c ≠ '\t') || c.toNat = 0x7f

/-- The text after the end of a line. -/
def takeLineEnd? : List Char → Option (List Char)
  | '\n' :: rest => some rest
  | '\r' :: '\n' :: rest => some rest
  | _ => none

/-- The text after a comment. -/
def skipComment : List Char → List Char
  | '#' :: rest => rest.dropWhile (fun c => !isForbidden c)
  | chars => chars

/-- The text after blanks, ends of lines and comments. -/
def skipLines : Nat → List Char → List Char
  | 0, chars => chars
  | rounds + 1, chars =>
    let rest := skipComment (skipBlanks chars)
    match takeLineEnd? rest with
    | some after => skipLines rounds after
    | none => rest

/-! ### Strings -/

/-- The character of a code in hexadecimal digits. -/
def codeChar? (digits : List Char) : Option Char :=
  (digits.mapM hexValue?).bind (fun values =>
    let code := values.foldl (fun total digit => 16 * total + digit.val) 0
    if h : code.isValidChar then some (Char.ofNatAux code h) else none)

/-- The character after a backslash, with the text after it. -/
def takeEscape? : List Char → Option (Char × List Char)
  | 'b' :: rest => some ('\x08', rest)
  | 't' :: rest => some ('\t', rest)
  | 'n' :: rest => some ('\n', rest)
  | 'f' :: rest => some ('\x0c', rest)
  | 'r' :: rest => some ('\r', rest)
  | '"' :: rest => some ('"', rest)
  | '\\' :: rest => some ('\\', rest)
  | 'u' :: rest =>
    if rest.length < 4 then none else (codeChar? (rest.take 4)).map (fun c => (c, rest.drop 4))
  | 'U' :: rest =>
    if rest.length < 8 then none else (codeChar? (rest.take 8)).map (fun c => (c, rest.drop 8))
  | _ => none

/-- A string on one line after its opening quote, with escapes. -/
def takeBasic? : Nat → List Char → List Char → Option (List Char × List Char)
  | 0, _, _ => none
  | rounds + 1, done, chars =>
    match chars with
    | [] => none
    | '"' :: rest => some (done.reverse, rest)
    | '\\' :: rest =>
      (takeEscape? rest).bind (fun (c, after) => takeBasic? rounds (c :: done) after)
    | c :: rest => if isForbidden c then none else takeBasic? rounds (c :: done) rest

/-- A string on one line after its opening quote, without escapes. -/
def takeLiteral? (chars : List Char) : Option (List Char × List Char) :=
  let content := chars.takeWhile (fun c => c ≠ '\'' && !isForbidden c)
  match chars.drop content.length with
  | '\'' :: rest => some (content, rest)
  | _ => none

/-- The quotes that close a string on several lines: three, with up to two more before them that
belong to the string. -/
def takeClosing? (quote : Char) (chars : List Char) : Option (List Char × List Char) :=
  let quotes := chars.takeWhile (· = quote)
  if quotes.length < 3 then none
  else
    let inside := min (quotes.length - 3) 2
    some (List.replicate inside quote, chars.drop (inside + 3))

/-- The text after blanks and ends of lines. -/
def skipWhite : Nat → List Char → List Char
  | 0, chars => chars
  | rounds + 1, chars =>
    match takeLineEnd? (skipBlanks chars) with
    | some rest => skipWhite rounds rest
    | none => skipBlanks chars

/-- The text after a line end that a backslash takes away, with the blanks and line ends that
follow. -/
def takeContinuation? (chars : List Char) : Option (List Char) :=
  (takeLineEnd? (skipBlanks chars)).map (fun rest => skipWhite rest.length rest)

/-- A string on several lines after its opening quotes. -/
def takeLong? (quote : Char) : Nat → List Char → List Char → Option (List Char × List Char)
  | 0, _, _ => none
  | rounds + 1, done, chars =>
    match takeClosing? quote chars with
    | some (inside, rest) => some (done.reverse ++ inside, rest)
    | none =>
      match chars with
      | [] => none
      | '\r' :: '\n' :: rest => takeLong? quote rounds ('\n' :: done) rest
      | '\\' :: rest =>
        if quote = '\'' then takeLong? quote rounds ('\\' :: done) rest
        else
          match takeContinuation? rest with
          | some after => takeLong? quote rounds done after
          | none =>
            (takeEscape? rest).bind (fun (c, after) => takeLong? quote rounds (c :: done) after)
      | c :: rest =>
        if isForbidden c && c ≠ '\n' then none else takeLong? quote rounds (c :: done) rest

/-- The text after a line end directly behind the opening quotes. -/
def dropFirstLineEnd (chars : List Char) : List Char :=
  (takeLineEnd? chars).getD chars

/-- A string of any kind. -/
def takeString? (chars : List Char) : Option (String × List Char) :=
  let taken := match chars with
    | '"' :: '"' :: '"' :: rest => takeLong? '"' chars.length [] (dropFirstLineEnd rest)
    | '\'' :: '\'' :: '\'' :: rest => takeLong? '\'' chars.length [] (dropFirstLineEnd rest)
    | '"' :: rest => takeBasic? chars.length [] rest
    | '\'' :: rest => takeLiteral? rest
    | _ => none
  taken.map (fun (content, rest) => (String.ofList content, rest))

/-! ### Keys -/

/-- May stand in a key without quotes. -/
def isKeyChar (c : Char) : Bool :=
  isAsciiLetter c || isAsciiDigit c || c = '_' || c = '-'

/-- One name of a key. -/
def takeName? (chars : List Char) : Option (String × List Char) :=
  match chars with
  | '"' :: rest => (takeBasic? chars.length [] rest).map (fun (name, after) =>
      (String.ofList name, after))
  | '\'' :: rest => (takeLiteral? rest).map (fun (name, after) => (String.ofList name, after))
  | _ =>
    let name := chars.takeWhile isKeyChar
    if name.isEmpty then none else some (String.ofList name, chars.drop name.length)

/-- Names with dots between them, and blanks around each. -/
def takeNames? : Nat → List Char → Option (List String × List Char)
  | 0, _ => none
  | rounds + 1, chars =>
    (takeName? (skipBlanks chars)).bind (fun (name, after) =>
      match skipBlanks after with
      | '.' :: rest => (takeNames? rounds rest).map (fun (names, tail) => (name :: names, tail))
      | rest => some ([name], rest))

/-- Keys have fewer names than this, and values are nested less deep. -/
def depthLimit : Nat := 80

def takeKey? (chars : List Char) : Option (List String × List Char) :=
  (takeNames? chars.length chars).filter (fun (names, _) => names.length < depthLimit)

/-! ### Numbers and words -/

/-- Digits, between which single underscores may stand. -/
def plainDigits? (isDigit : Char → Bool) (chars : List Char) : Option (List Char) :=
  let groups := splitChars '_' chars
  if groups.all (fun group => !group.isEmpty && group.all isDigit) then some groups.flatten
  else none

/-- Decimal digits without a leading zero. -/
def wholeDigits? (chars : List Char) : Option (List Char) :=
  (plainDigits? isAsciiDigit chars).filter (fun digits =>
    digits.length = 1 || digits.head? ≠ some '0')

/-- A whole number in a base, from its digits. -/
def ofBase (base : Nat) (digits : List Char) : Nat :=
  digits.foldl (fun total digit =>
    base * total + ((hexValue? digit).map Fin.val).getD 0) 0

/-- A digit below the base. -/
def isDigitOf (base : Nat) (c : Char) : Bool :=
  (hexValue? c).any (fun digit => digit.val < base)

/-- The digits of a number in a base other than ten. -/
def basedNumber? (chars : List Char) : Option Nat :=
  match chars with
  | '0' :: 'x' :: digits => (plainDigits? (isDigitOf 16) digits).map (ofBase 16)
  | '0' :: 'o' :: digits => (plainDigits? (isDigitOf 8) digits).map (ofBase 8)
  | '0' :: 'b' :: digits => (plainDigits? (isDigitOf 2) digits).map (ofBase 2)
  | _ => none

/-- The sign of a number, and the number without it. -/
def splitSign (chars : List Char) : Bool × List Char :=
  match chars with
  | '-' :: rest => (true, rest)
  | '+' :: rest => (false, rest)
  | _ => (false, chars)

/-- An integer of 64 bits. -/
def readInteger? (chars : List Char) : Option Json :=
  let value? : Option Int :=
    match basedNumber? chars with
    | some value => some value
    | none =>
      let (negative, magnitude) := splitSign chars
      (wholeDigits? magnitude).map (fun digits =>
        if negative then -(ofDigits digits : Int) else ofDigits digits)
  (value?.filter isInt64).map Json.ofInt

/-- An exponent after its mark. -/
def readPower? (chars : List Char) : Option Int :=
  let (negative, magnitude) := splitSign chars
  (plainDigits? isAsciiDigit magnitude).map (fun digits =>
    if negative then -(ofDigits digits : Int) else ofDigits digits)

/-- A number with a fraction, an exponent, or both. One beyond all numbers has to be negative. -/
def readDecimal? (chars : List Char) : Option Json := do
  let (negative, magnitude) := splitSign chars
  let whole := magnitude.takeWhile (fun c => isAsciiDigit c || c = '_')
  let digits ← wholeDigits? whole
  let (fraction, rest) ← match magnitude.drop whole.length with
    | '.' :: tail =>
      let part := tail.takeWhile (fun c => isAsciiDigit c || c = '_')
      (plainDigits? isAsciiDigit part).map (fun places => (places, tail.drop part.length))
    | tail => some ([], tail)
  let power ← match rest with
    | [] => if fraction.isEmpty then none else some 0
    | mark :: tail => if mark = 'e' || mark = 'E' then readPower? tail else none
  let value := ofDecimal negative (digits ++ fraction) (power - fraction.length)
  if value = .infinite false then none else some (.ofBinary64 value)

/-- A number that is not finite. -/
def readNamed? (chars : List Char) : Option Json :=
  let word := (splitSign chars).2
  if word = "inf".toList || word = "nan".toList then some .null else none

/-- A word: a truth value or a number. -/
def readWord? (chars : List Char) : Option Json :=
  if chars = "true".toList then some (.bool true)
  else if chars = "false".toList then some (.bool false)
  else (readInteger? chars).or ((readDecimal? chars).or (readNamed? chars))

/-- May stand in a word. -/
def isWordChar (c : Char) : Bool :=
  isAsciiLetter c || isAsciiDigit c || c = '_' || c = '-' || c = '+' || c = '.' || c = ':'

/-- A day, a time or a word, and the text after it. -/
def takeWord? (chars : List Char) : Option (Json × List Char) :=
  match takeMoment chars with
  | .found text rest => some (momentJson text, rest)
  | .malformed => none
  | .absent =>
    let word := chars.takeWhile isWordChar
    (readWord? word).map (fun json => (json, chars.drop word.length))

end QueryComposer.Toml
