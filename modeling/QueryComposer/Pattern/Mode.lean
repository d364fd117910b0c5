import QueryComposer.CharSet.Fold
import QueryComposer.Pattern.Basic

set_option autoImplicit false

/-!
The modes in which a pattern is read. They say whether letters stand for both cases, what the point
and the anchors stand for, which characters count as words and digits, and whether white space in
the pattern is only there for its reader.
-/

namespace QueryComposer.Pattern

open QueryComposer.Text

/-- The modes in force at a place of a pattern. -/
structure Mode where
  caseless : Bool := false
  multiLine : Bool := false
  pointIsAny : Bool := false
  carriageReturns : Bool := false
  fullScripts : Bool := true
  spaced : Bool := false
deriving DecidableEq, Repr

namespace Mode

/-! ### White space in the pattern -/

/-- The rest after white space and notes; a note goes from a number sign to the end of its line. -/
def skipNotes : Bool → List Char → List Char
  | _, [] => []
  | true, c :: rest => if c = '\n' then skipNotes false rest else skipNotes true rest
  | false, c :: rest =>
    if isBlank c then skipNotes false rest
    else if c = '#' then skipNotes true rest
    else c :: rest

/-- The rest of the pattern from the next character that counts. -/
def skip (mode : Mode) (chars : List Char) : List Char :=
  if mode.spaced then skipNotes false chars else chars

/-! ### Sets and anchors -/

/-- The line ending that the mode knows. -/
def ending (mode : Mode) : LineEnding :=
  if mode.carriageReturns then .either else .lineFeed

/-- The words that the mode knows. -/
def wordKind (mode : Mode) : WordKind :=
  if mode.fullScripts then .full else .ascii

/-- The set with the other case of its letters where the mode asks for it. -/
def fold (mode : Mode) (set : CharSet) : CharSet :=
  if !mode.caseless then set
  else if mode.fullScripts then set.folded
  else set.foldedAscii

/-- A class under the mode: its letters in both cases, and then what is not in it if it is negated.
Without full scripts a class is one of bytes, and one that has bytes beyond the first 128 is
refused. -/
def classOf? (mode : Mode) (negated : Bool) (set : CharSet) : Option CharSet :=
  let whole := mode.fold set
  if mode.fullScripts then some (if negated then whole.complement else whole)
  else
    let bytes := if negated then whole.complementUpTo 255 else whole
    if bytes.isAscii then some bytes else none

/-- The class of digits, white space or word characters that a letter stands for; a capital stands
for the others. -/
def shorthand? (mode : Mode) (letter : Char) : Option CharSet :=
  let pick := fun (full ascii : CharSet) => if mode.fullScripts then full else ascii
  let plain := { mode with caseless := false }
  match letter with
  | 'd' => some (pick .digit .asciiDigit)
  | 's' => some (pick .blank .asciiBlank)
  | 'w' => some (pick .word .asciiWord)
  | 'D' => plain.classOf? true (pick .digit .asciiDigit)
  | 'S' => plain.classOf? true (pick .blank .asciiBlank)
  | 'W' => plain.classOf? true (pick .word .asciiWord)
  | _ => none

/-- A character as a pattern. Without full scripts only the unaccented letters have two cases. -/
def literal (mode : Mode) (c : Char) : Pattern :=
  .char (mode.fold (CharSet.single c))

/-- The point as a pattern; it needs full scripts. -/
def point? (mode : Mode) : Option Pattern :=
  if !mode.fullScripts then none
  else if mode.pointIsAny then some (.char (CharSet.empty.complement))
  else if mode.carriageReturns then some (.char (CharSet.ofText "\n\r").complement)
  else some (.char CharSet.inLine)

/-- The start of a line or of the text. -/
def start (mode : Mode) : Pattern :=
  .anchored (if mode.multiLine then .lineStart mode.ending else .textStart)

/-- The end of a line or of the text. -/
def stop (mode : Mode) : Pattern :=
  .anchored (if mode.multiLine then .lineEnd mode.ending else .textEnd)

/-! ### Changes of mode -/

/-- The mode with the one of a letter on or off. The letter for lazy repetitions changes nothing in
what matches. -/
def set? (mode : Mode) (on : Bool) (letter : Char) : Option Mode :=
  match letter with
  | 'i' => some { mode with caseless := on }
  | 'm' => some { mode with multiLine := on }
  | 's' => some { mode with pointIsAny := on }
  | 'R' => some { mode with carriageReturns := on }
  | 'u' => some { mode with fullScripts := on }
  | 'x' => some { mode with spaced := on }
  | 'U' => some mode
  | _ => none

/-- The mode after the letters of a change: those after a hyphen are switched off. No character
comes twice, and the hyphen is not the last one. -/
def change? (letters : List Char) (mode : Mode) : Option Mode :=
  if letters.getLast? = some '-' || letters.any (fun c => 2 ≤ letters.count c) then none
  else
    let on := letters.takeWhile (· ≠ '-')
    let off := letters.drop (on.length + 1)
    (on.foldlM (set? · true) mode).bind (fun changed => off.foldlM (set? · false) changed)

end Mode

end QueryComposer.Pattern
