import QueryComposer.Pattern.Escape

set_option autoImplicit false

/-!
Classes in brackets. A class is read with the brackets that are still open kept in a list. Its
members are characters, ranges, classes behind a backslash, classes by name, and classes in brackets
of their own; what has been read so far may be met, lessened or compared with what follows.
-/

namespace QueryComposer.Pattern

open QueryComposer.Text

/-- A class with the number of levels of notation below it. -/
structure Member where
  set : CharSet
  depth : Nat
deriving Repr

/-- How two parts of a class make one. -/
inductive SetOperation
  | intersection
  | difference
  | symmetricDifference
deriving DecidableEq, Repr

/-- The set that the operation makes of two. -/
def SetOperation.apply : SetOperation → CharSet → CharSet → CharSet
  | .intersection => CharSet.intersection
  | .difference => CharSet.difference
  | .symmetricDifference => CharSet.symmetricDifference

/-- An open bracket: whether it is negated, the part before the latest operation, and the members
read since, last first. -/
structure Bracket where
  negated : Bool
  earlier : Option (SetOperation × Member) := none
  members : List Member := []
deriving Repr

namespace Bracket

def add (bracket : Bracket) (member : Member) : Bracket :=
  { bracket with members := member :: bracket.members }

/-- The members since the latest operation as one. -/
def present (bracket : Bracket) : Member :=
  match bracket.members with
  | [] => ⟨.empty, 0⟩
  | [member] => member
  | members =>
    ⟨members.foldl (fun set member => set.union member.set) .empty,
      members.foldl (fun depth member => max depth member.depth) 0 + 1⟩

/-- All that has been read. Both sides of an operation have the cases that the mode asks for. -/
def whole (mode : Mode) (bracket : Bracket) : Member :=
  let present := bracket.present
  match bracket.earlier with
  | none => present
  | some (operation, earlier) =>
    ⟨operation.apply (mode.fold earlier.set) (mode.fold present.set),
      max earlier.depth present.depth + 1⟩

/-- The bracket before the right side of an operation. -/
def operate (mode : Mode) (operation : SetOperation) (bracket : Bracket) : Bracket :=
  { bracket with earlier := some (operation, bracket.whole mode), members := [] }

/-- The class of a bracket that is closed. -/
def close? (mode : Mode) (bracket : Bracket) : Option Member :=
  let whole := bracket.whole mode
  (mode.classOf? bracket.negated whole.set).map (fun set => ⟨set, whole.depth + 1⟩)

/-! ### Members -/

/-- A single character as a member; without full scripts it is one of the first 128. -/
def single? (mode : Mode) (c : Char) : Option Member :=
  if !mode.fullScripts && 128 ≤ c.toNat then none else some ⟨.single c, 0⟩

/-- What stands at the start of the text: an escape, or the character itself. -/
def takeItem? (mode : Mode) (chars : List Char) : Option (Escape × List Char) :=
  match chars with
  | [] => none
  | '\\' :: rest => Escape.take? mode rest
  | c :: rest => some (.literal c, rest)

/-- An escape as a member; anchors are none. -/
def member? (mode : Mode) : Escape → Option Member
  | .literal c => single? mode c
  | .set chars => some ⟨chars, 0⟩
  | .anchor _ => none

/-- The first character that counts after a hyphen, past the number sign of a note. -/
def afterHyphen (mode : Mode) (chars : List Char) : Option Char :=
  if mode.spaced then
    match chars.dropWhile isBlank with
    | '#' :: rest => (rest.dropWhile isBlank).head?
    | rest => rest.head?
  else chars.head?

/-- A character, a range or a class behind a backslash. A hyphen makes a range unless a closing
bracket or another hyphen follows it; the ends of a range are characters in order. -/
def takeMember? (mode : Mode) (chars : List Char) : Option (Member × List Char) :=
  (takeItem? mode chars).bind (fun (first, rest) =>
    match mode.skip rest with
    | '-' :: tail =>
      if afterHyphen mode tail = some ']' || afterHyphen mode tail = some '-' then
        (member? mode first).map (fun member => (member, '-' :: tail))
      else
        (takeItem? mode (mode.skip tail)).bind (fun (second, after) =>
          match first, second with
          | .literal low, .literal high =>
            if low ≤ high && (single? mode high).isSome then
              some (⟨.range low high, 0⟩, after)
            else none
          | _, _ => none)
    | after => (member? mode first).map (fun member => (member, after)))

/-- A class by its name between colons, after the opening bracket. -/
def takeColonClass? (mode : Mode) (chars : List Char) : Option (Option Member × List Char) :=
  match chars with
  | ':' :: rest =>
    let (negated, letters) := match rest with
      | '^' :: tail => (true, tail)
      | _ => (false, rest)
    let name := letters.takeWhile (· ≠ ':')
    match letters.drop name.length with
    | ':' :: ']' :: after =>
      (CharSet.bracketClass? (String.ofList name)).map (fun set =>
        ((mode.classOf? negated set).map (fun whole => ⟨whole, 0⟩), after))
    | _ => none
  | _ => none

/-! ### Reading -/

/-- Hyphens at the start of a bracket are members; there are at most as many as given. -/
def takeHyphens (mode : Mode) : Nat → Bracket → List Char → Bracket × List Char
  | rounds + 1, bracket, '-' :: rest =>
    takeHyphens mode rounds (bracket.add ⟨.single '-', 0⟩) (mode.skip rest)
  | _, bracket, rest => (bracket, rest)

/-- A bracket after its opening character. A caret negates it; hyphens at its start are members, and
so is a closing bracket that would leave it empty. -/
def takeStart (mode : Mode) (chars : List Char) : Bracket × List Char :=
  let (negated, rest) := match mode.skip chars with
    | '^' :: tail => (true, mode.skip tail)
    | tail => (false, tail)
  match takeHyphens mode rest.length { negated := negated } rest with
  | (bracket, ']' :: after) =>
    if bracket.members.isEmpty then (bracket.add ⟨.single ']', 0⟩, after)
    else (bracket, ']' :: after)
  | taken => taken

/-- Read on with the innermost open bracket and those around it, in at most the given number of
rounds; a round takes at least one character. -/
def takeAll? (mode : Mode) : Nat → Bracket → List Bracket → List Char →
    Option (Member × List Char)
  | 0, _, _, _ => none
  | rounds + 1, bracket, outer, chars =>
    match mode.skip chars with
    | [] => none
    | '[' :: rest =>
      match takeColonClass? mode rest with
      | some (member, after) =>
        member.bind (fun known => takeAll? mode rounds (bracket.add known) outer after)
      | none =>
        let (inner, after) := takeStart mode rest
        takeAll? mode rounds inner (bracket :: outer) after
    | ']' :: rest =>
      (bracket.close? mode).bind (fun closed =>
        match outer with
        | [] => some (closed, rest)
        | around :: others => takeAll? mode rounds (around.add closed) others rest)
    | '&' :: '&' :: rest => takeAll? mode rounds (bracket.operate mode .intersection) outer rest
    | '-' :: '-' :: rest => takeAll? mode rounds (bracket.operate mode .difference) outer rest
    | '~' :: '~' :: rest =>
      takeAll? mode rounds (bracket.operate mode .symmetricDifference) outer rest
    | rest =>
      (takeMember? mode rest).bind (fun (member, after) =>
        takeAll? mode rounds (bracket.add member) outer after)

/-- The class after an opening bracket. -/
def take? (mode : Mode) (chars : List Char) : Option (Member × List Char) :=
  let (bracket, rest) := takeStart mode chars
  takeAll? mode (rest.length + 1) bracket [] rest

end Bracket

end QueryComposer.Pattern
