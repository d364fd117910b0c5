import QueryComposer.Pattern.Mode

set_option autoImplicit false

/-!
What stands after a backslash in a pattern: characters that would otherwise have a meaning, control
characters, code points in hexadecimal digits, classes of characters, and anchors.
-/

namespace QueryComposer.Pattern

open QueryComposer.Text

/-- What a backslash and the characters after it stand for. -/
inductive Escape
  | literal (c : Char)
  | set (chars : CharSet)
  | anchor (condition : Anchor)
deriving Repr

namespace Escape

/-! ### Code points -/

/-- The character with a code point; the code points of surrogates are no characters. -/
def charOf? (point : Nat) : Option Char :=
  if h : point.isValidChar then some (Char.ofNatAux point h) else none

/-- The character that hexadecimal digits write. -/
def hexChar? (digits : List Char) : Option Char :=
  if digits.isEmpty || digits.any (fun c => (hexValue? c).isNone) then none
  else charOf? (CharSet.readHex digits)

/-- The next characters that count, as many as given. -/
def takeCounted? (mode : Mode) : Nat → List Char → Option (List Char × List Char)
  | 0, chars => some ([], chars)
  | count + 1, chars =>
    match mode.skip chars with
    | [] => none
    | c :: rest => (takeCounted? mode count rest).map (fun (taken, after) => (c :: taken, after))

/-- The characters that count up to a closing brace, with the number of rounds left. -/
def takeBraced? (mode : Mode) : Nat → List Char → Option (List Char × List Char)
  | 0, _ => none
  | rounds + 1, chars =>
    match mode.skip chars with
    | [] => none
    | '\x7d' :: rest => some ([], rest)
    | c :: rest => (takeBraced? mode rounds rest).map (fun (taken, after) => (c :: taken, after))

/-- A code point after its letter, in braces or in the given number of digits. Without full scripts
a byte beyond the first 128 is refused. -/
def takeCodePoint? (mode : Mode) (digits : Nat) (chars : List Char) :
    Option (Escape × List Char) :=
  match mode.skip chars with
  | '\x7b' :: rest =>
    (takeBraced? mode (rest.length + 1) rest).bind (fun (inside, after) =>
      (hexChar? inside).map (fun c => (.literal c, mode.skip after)))
  | rest =>
    (takeCounted? mode digits rest).bind (fun (inside, after) =>
      (hexChar? inside).bind (fun c =>
        if digits = 2 && !mode.fullScripts && 128 ≤ c.toNat then none
        else some (.literal c, mode.skip after)))

/-! ### Classes by name -/

/-- The set that the text between the braces names: a name, or a property and its value with an
equals sign or a colon between them. The sign for unequal counts as the one for equal. -/
def namedSet? (inside : List Char) : Option CharSet :=
  let cutAt := fun (separator : List Char) =>
    (List.range inside.length).find? (fun index => startsWith separator (inside.drop index))
  let valued := fun (separator : List Char) (index : Nat) =>
    CharSet.valued? (inside.take index) (inside.drop (index + separator.length))
  match cutAt ['!', '='], cutAt [':'], cutAt ['='] with
  | some index, _, _ => valued ['!', '='] index
  | none, some index, _ => valued [':'] index
  | none, none, some index => valued ['='] index
  | none, none, none => CharSet.named? inside

/-- A class by its name, after the letter: one more letter, or a name in braces. -/
def takeNamed? (mode : Mode) (negated : Bool) (chars : List Char) :
    Option (Escape × List Char) :=
  let finish := fun (name after : List Char) =>
    if !mode.fullScripts then none
    else (namedSet? name).bind (fun set =>
      (mode.classOf? negated set).map (fun whole => (Escape.set whole, after)))
  match mode.skip chars with
  | [] => none
  | '\\' :: _ => none
  | '\x7b' :: rest =>
    (takeBraced? mode (rest.length + 1) rest).bind (fun (inside, after) => finish inside after)
  | c :: rest =>
    if !mode.fullScripts then none
    else (CharSet.named? [c]).bind (fun set =>
      (mode.classOf? negated set).map (fun whole => (.set whole, rest)))

/-! ### Anchors -/

/-- A character of the names of anchors. -/
def isAnchorChar (c : Char) : Bool :=
  isAsciiLetter c || c = '-'

def anchorNamed? (kind : WordKind) (name : String) : Option Anchor :=
  match name with
  | "start" => some (.wordStart kind)
  | "end" => some (.wordEnd kind)
  | "start-half" => some (.afterNoWord kind)
  | "end-half" => some (.beforeNoWord kind)
  | _ => none

/-- The anchor at the edge of a word, which a name in braces may follow. Braces that begin with
anything but a name are left for a repetition. -/
def takeBoundary? (mode : Mode) (chars : List Char) : Option (Escape × List Char) :=
  match chars with
  | '\x7b' :: rest =>
    match mode.skip rest with
    | [] => none
    | c :: _ =>
      if !isAnchorChar c then some (.anchor (.wordBoundary mode.wordKind), chars)
      else
        (takeBraced? mode (rest.length + 1) rest).bind (fun (inside, after) =>
          (anchorNamed? mode.wordKind (String.ofList inside)).map (fun condition =>
            (.anchor condition, after)))
  | _ => some (.anchor (.wordBoundary mode.wordKind), chars)

/-! ### All escapes -/

/-- The characters that a backslash makes plain. -/
def isEscapable (c : Char) : Bool :=
  c.toNat < 128 && !isAsciiLetter c && !isAsciiDigit c && c ≠ '<' && c ≠ '>'

/-- What a character after a backslash stands for when nothing more belongs to it. -/
def simple? (mode : Mode) (c : Char) : Option Escape :=
  match c with
  | 'a' => some (.literal '\x07')
  | 'f' => some (.literal '\x0c')
  | 't' => some (.literal '\t')
  | 'n' => some (.literal '\n')
  | 'r' => some (.literal '\r')
  | 'v' => some (.literal '\x0b')
  | 'A' => some (.anchor .textStart)
  | 'z' => some (.anchor .textEnd)
  | 'B' => some (.anchor (.notWordBoundary mode.wordKind))
  | '<' => some (.anchor (.wordStart mode.wordKind))
  | '>' => some (.anchor (.wordEnd mode.wordKind))
  | _ =>
    if isEscapable c then some (.literal c) else (mode.shorthand? c).map .set

/-- What the characters after a backslash stand for. -/
def take? (mode : Mode) (chars : List Char) : Option (Escape × List Char) :=
  match chars with
  | [] => none
  | 'x' :: rest => takeCodePoint? mode 2 rest
  | 'u' :: rest => takeCodePoint? mode 4 rest
  | 'U' :: rest => takeCodePoint? mode 8 rest
  | 'p' :: rest => takeNamed? mode false rest
  | 'P' :: rest => takeNamed? mode true rest
  | 'b' :: rest => takeBoundary? mode rest
  | c :: rest => (simple? mode c).map (fun escape => (escape, rest))

def toPattern (mode : Mode) : Escape → Pattern
  | .literal c => mode.literal c
  | .set chars => .char chars
  | .anchor condition => .anchored condition

end Escape

end QueryComposer.Pattern
