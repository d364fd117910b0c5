import QueryComposer.Number.Decimal
import QueryComposer.Pattern.Bracket
import QueryComposer.Pattern.Size

set_option autoImplicit false

/-!
Patterns in their usual notation. The text is taken mark by mark, with the groups that are still
open kept in a list; each group has the modes that are in force at its end so far. A pattern that is
nested too deep or grows too large is refused.
-/

namespace QueryComposer.Pattern

open QueryComposer.Text QueryComposer.Number

/-! ### Items and groups -/

/-- An item of a sequence: its pattern, the number of levels of notation below it, and whether it
only changes the modes. -/
structure Item where
  pattern : Pattern
  depth : Nat
  isChange : Bool := false
deriving Repr

/-- A group that is open: the modes in force, the alternatives that are complete and the items of
the present one, each last first. -/
structure OpenGroup where
  mode : Mode
  isCounted : Bool := false
  alternatives : List Item := []
  items : List Item := []
deriving Repr

/-- The depth of items in one construct; a single one is on its own. -/
def depthOf : List Item → Nat
  | [] => 0
  | [item] => item.depth
  | items => items.foldl (fun depth item => max depth item.depth) 0 + 1

namespace OpenGroup

def add (group : OpenGroup) (item : Item) : OpenGroup :=
  { group with items := item :: group.items }

/-- The present alternative. -/
def alternative (group : OpenGroup) : Item :=
  ⟨sequence (group.items.reverse.map Item.pattern), depthOf group.items, false⟩

/-- The group with a new alternative. -/
def split (group : OpenGroup) : OpenGroup :=
  { group with alternatives := group.alternative :: group.alternatives, items := [] }

/-- All alternatives as one item. -/
def toItem (group : OpenGroup) : Item :=
  let alternatives := (group.alternative :: group.alternatives).reverse
  ⟨choice (alternatives.map Item.pattern), depthOf alternatives, false⟩

/-- The closed group as an item. -/
def close (group : OpenGroup) : Item :=
  let inner := group.toItem
  ⟨if group.isCounted then .group inner.pattern else inner.pattern, inner.depth + 1, false⟩

/-- The group with its last item repeated, if it has one that can be. -/
def repeatLast? (group : OpenGroup) (least : Nat) (most : Option Nat) : Option OpenGroup :=
  match group.items with
  | [] => none
  | item :: items =>
    if item.isChange then none
    else some { group with
      items := ⟨repeated item.pattern least most, item.depth + 1, false⟩ :: items }

end OpenGroup

/-- What has been read: the innermost open group, the groups around it, and the names in use. -/
structure Reading where
  group : OpenGroup
  outer : List OpenGroup := []
  names : List (List Char) := []
deriving Repr

namespace Reading

/-- The modes in force. -/
def mode (reading : Reading) : Mode :=
  reading.group.mode

def add (reading : Reading) (item : Item) : Reading :=
  { reading with group := reading.group.add item }

def openGroup (reading : Reading) (mode : Mode) (isCounted : Bool) : Reading :=
  { reading with
    group := { mode := mode, isCounted := isCounted }
    outer := reading.group :: reading.outer }

/-- The innermost group is closed. -/
def closeGroup? (reading : Reading) : Option Reading :=
  match reading.outer with
  | [] => none
  | around :: others =>
    some { reading with group := around.add reading.group.close, outer := others }

/-- The last item is repeated. -/
def repeatLast? (reading : Reading) (least : Nat) (most : Option Nat) : Option Reading :=
  (reading.group.repeatLast? least most).map (fun group => { reading with group := group })

end Reading

/-! ### Repetitions -/

/-- The digits at the start of the text, with what counts after them. -/
def takeDigits (mode : Mode) : Nat → List Char → List Char × List Char
  | rounds + 1, c :: rest =>
    if isAsciiDigit c then
      let (digits, after) := takeDigits mode rounds (mode.skip rest)
      (c :: digits, after)
    else ([], c :: rest)
  | _, chars => ([], chars)

/-- A count with white space around it; it is below two to the power of thirty-two. -/
def takeCount? (mode : Mode) (chars : List Char) : Option (Nat × List Char) :=
  let (digits, after) := takeDigits mode chars.length (chars.dropWhile isBlank)
  match readNat? digits with
  | some count =>
    if count < 4294967296 then some (count, mode.skip (after.dropWhile isBlank)) else none
  | none => none

/-- The counts between braces, after the opening one: one number, a number and a comma, or two
numbers in order. -/
def takeCounts? (mode : Mode) (chars : List Char) : Option ((Nat × Option Nat) × List Char) :=
  (takeCount? mode (mode.skip chars)).bind (fun (least, rest) =>
    match rest with
    | '\x7d' :: after => some ((least, some least), after)
    | ',' :: tail =>
      match mode.skip tail with
      | '\x7d' :: after => some ((least, none), after)
      | next =>
        (takeCount? mode next).bind (fun (most, last) =>
          match last with
          | '\x7d' :: after => if least ≤ most then some ((least, some most), after) else none
          | _ => none)
    | _ => none)

/-- The rest after a question mark, which makes a repetition prefer the shorter match and does not
change what matches. -/
def dropLazy : List Char → List Char
  | '?' :: rest => rest
  | chars => chars

/-! ### Starts of groups -/

/-- May begin the name of a group. -/
def startsGroupName (c : Char) : Bool :=
  c = '_' ||
    (isAlphanumeric c && !isDecimalDigit c &&
      !(CharSet.ofCategories ["No"]).contains c)

/-- May follow in the name of a group. -/
def continuesGroupName (c : Char) : Bool :=
  isAlphanumeric c || c = '_' || c = '.' || c = '[' || c = ']'

/-- The name of a group and the rest after its closing angle. -/
def takeGroupName? (chars : List Char) : Option (List Char × List Char) :=
  let name := chars.takeWhile (· ≠ '>')
  match name, chars.drop name.length with
  | c :: letters, _ :: rest =>
    if startsGroupName c && letters.all continuesGroupName then some (name, rest) else none
  | _, _ => none

/-- A group with a name, after the opening angle. No two groups have one name. -/
def takeNamedGroup? (reading : Reading) (chars : List Char) : Option (Reading × List Char) :=
  (takeGroupName? chars).bind (fun (name, rest) =>
    if reading.names.contains name then none
    else
      let opened := reading.openGroup reading.mode true
      some ({ opened with names := name :: opened.names }, rest))

/-- A change of modes, after the question mark: for the rest of the group if a parenthesis ends it,
and for a group of its own if a colon does. -/
def takeChange? (reading : Reading) (chars : List Char) : Option (Reading × List Char) :=
  let letters := chars.takeWhile (fun c => c ≠ ':' && c ≠ ')')
  (Mode.change? letters reading.mode).bind (fun mode =>
    match chars.drop letters.length with
    | ':' :: rest => some (reading.openGroup mode false, rest)
    | _ :: rest =>
      if letters.isEmpty then none
      else
        let changed := { reading with group := { reading.group with mode := mode } }
        some (changed.add ⟨.empty, 0, true⟩, rest)
    | [] => none)

/-- A group after its opening parenthesis. What looks ahead or behind is refused. -/
def takeGroup? (reading : Reading) (chars : List Char) : Option (Reading × List Char) :=
  match reading.mode.skip chars with
  | '?' :: '=' :: _ => none
  | '?' :: '!' :: _ => none
  | '?' :: '<' :: '=' :: _ => none
  | '?' :: '<' :: '!' :: _ => none
  | '?' :: 'P' :: '<' :: rest => takeNamedGroup? reading rest
  | '?' :: '<' :: rest => takeNamedGroup? reading rest
  | '?' :: rest => takeChange? reading rest
  | rest => some (reading.openGroup reading.mode true, rest)

/-! ### Reading -/

/-- Take the mark at the start of the text, which begins with a character that counts. -/
def takeMark? (reading : Reading) (chars : List Char) : Option (Reading × List Char) :=
  let mode := reading.mode
  match chars with
  | [] => none
  | '(' :: rest => takeGroup? reading rest
  | ')' :: rest => reading.closeGroup?.map (fun closed => (closed, rest))
  | '|' :: rest => some ({ reading with group := reading.group.split }, rest)
  | '[' :: rest =>
    (Bracket.take? mode rest).map (fun (member, after) =>
      (reading.add ⟨.char member.set, member.depth, false⟩, after))
  | '?' :: rest => (reading.repeatLast? 0 (some 1)).map (fun read => (read, dropLazy rest))
  | '*' :: rest => (reading.repeatLast? 0 none).map (fun read => (read, dropLazy rest))
  | '+' :: rest => (reading.repeatLast? 1 none).map (fun read => (read, dropLazy rest))
  | '\x7b' :: rest =>
    (takeCounts? mode rest).bind (fun ((least, most), after) =>
      (reading.repeatLast? least most).map (fun read => (read, dropLazy (mode.skip after))))
  | '\\' :: rest =>
    (Escape.take? mode rest).map (fun (escape, after) =>
      (reading.add ⟨escape.toPattern mode, 0, false⟩, after))
  | '.' :: rest => mode.point?.map (fun point => (reading.add ⟨point, 0, false⟩, rest))
  | '^' :: rest => some (reading.add ⟨mode.start, 0, false⟩, rest)
  | '$' :: rest => some (reading.add ⟨mode.stop, 0, false⟩, rest)
  | c :: rest => some (reading.add ⟨mode.literal c, 0, false⟩, rest)

/-- Take all marks, in at most the given number of rounds; a mark takes at least one character. -/
def takeMarks? : Nat → Reading → List Char → Option Reading
  | 0, _, _ => none
  | rounds + 1, reading, chars =>
    match reading.mode.skip chars with
    | [] => some reading
    | rest => (takeMark? reading rest).bind (fun (next, after) => takeMarks? rounds next after)

/-- The deepest nesting that is not refused. -/
def depthLimit : Nat := 250

/-- The pattern that has been read, if no group is open and it is within the limits. -/
def Reading.finish? (reading : Reading) : Option Pattern :=
  let item := reading.group.toItem
  if reading.outer.isEmpty && item.depth ≤ depthLimit && item.pattern.isSmallEnough then
    some item.pattern
  else none

def parse? (text : String) : Option Pattern :=
  let chars := text.toList
  (takeMarks? (chars.length + 1) { group := { mode := {} } } chars).bind Reading.finish?

end QueryComposer.Pattern
