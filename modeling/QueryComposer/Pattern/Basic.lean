import QueryComposer.CharSet.Named

set_option autoImplicit false

/-!
Patterns of text and their matching. A pattern is matched at a set of places of a text at once: what
it gives is the set of places where a match that began at one of them may end. A set is a list of
places without repetition, so a pattern never costs more than its length times that of the text.
-/

namespace QueryComposer

open QueryComposer.Text

/-! ### Conditions on places -/

/-- What divides the lines of a text: a line feed, or also a carriage return and the two
together. -/
inductive LineEnding
  | lineFeed
  | either
deriving DecidableEq, Repr

/-- Which characters make up words: those of every script, or the unaccented ones. -/
inductive WordKind
  | full
  | ascii
deriving DecidableEq, Repr

/-- A condition on a place in the text. -/
inductive Anchor
  | textStart
  | textEnd
  | lineStart (ending : LineEnding)
  | lineEnd (ending : LineEnding)
  | wordBoundary (kind : WordKind)
  | notWordBoundary (kind : WordKind)
  | wordStart (kind : WordKind)
  | wordEnd (kind : WordKind)
  | afterNoWord (kind : WordKind)
  | beforeNoWord (kind : WordKind)
deriving DecidableEq, Repr

/-- The characters of words. -/
def WordKind.set : WordKind → CharSet
  | .full => .word
  | .ascii => .asciiWord

/-! ### Patterns -/

/-- A pattern. -/
inductive Pattern
  | empty
  | char (set : CharSet)
  | anchored (condition : Anchor)
  | seq (first second : Pattern)
  | alt (first second : Pattern)
  | group (inner : Pattern)
  | repetition (inner : Pattern) (least : Nat) (most : Option Nat)
deriving Repr

namespace Pattern

def sequence : List Pattern → Pattern
  | [] => .empty
  | [pattern] => pattern
  | pattern :: patterns => .seq pattern (sequence patterns)

/-- One of at least one pattern. -/
def choice : List Pattern → Pattern
  | [] => .empty
  | [pattern] => pattern
  | pattern :: patterns => .alt pattern (choice patterns)

/-- A text as it stands. -/
def literal (text : String) : Pattern :=
  sequence (text.toList.map (fun c => .char (CharSet.single c)))

/-- One of some texts. -/
def oneOf (texts : List String) : Pattern :=
  choice (texts.map literal)

/-- Once or not at all. -/
def optional (pattern : Pattern) : Pattern :=
  .repetition pattern 0 (some 1)

/-- Any number of times. -/
def star (pattern : Pattern) : Pattern :=
  .repetition pattern 0 none

/-- At least once. -/
def plus (pattern : Pattern) : Pattern :=
  .repetition pattern 1 none

/-- A place where a word of any script begins or ends. -/
def boundary : Pattern :=
  .anchored (.wordBoundary .full)

/-! ### Places -/

/-- A place in a text: how many characters come before, the last of them, and what follows. -/
structure Place where
  offset : Nat
  previous : Option Char
  rest : List Char
deriving DecidableEq, Repr

def placesFrom (offset : Nat) (previous : Option Char) : List Char → List Place
  | [] => [⟨offset, previous, []⟩]
  | c :: rest => ⟨offset, previous, c :: rest⟩ :: placesFrom (offset + 1) (some c) rest

/-- The places of the first set and those of the second that are not in it. -/
def unite (first second : List Place) : List Place :=
  first ++ second.filter (fun place => !first.any (fun other => other.offset = place.offset))

/-- The place after a character of the set. -/
def Place.after? (set : CharSet) (place : Place) : Option Place :=
  match place.rest with
  | [] => none
  | c :: rest => if set.contains c then some ⟨place.offset + 1, some c, rest⟩ else none

/-- The character before the place belongs to a word. -/
def Place.followsWord (kind : WordKind) (place : Place) : Bool :=
  place.previous.any kind.set.contains

/-- The character after the place belongs to a word. -/
def Place.precedesWord (kind : WordKind) (place : Place) : Bool :=
  place.rest.head?.any kind.set.contains

/-- A line begins at the place. -/
def Place.isLineStart (ending : LineEnding) (place : Place) : Bool :=
  match ending, place.previous with
  | _, none => true
  | _, some '\n' => true
  | .lineFeed, some _ => false
  | .either, some c => c = '\r' && place.rest.head? ≠ some '\n'

def Place.isLineEnd (ending : LineEnding) (place : Place) : Bool :=
  match ending, place.rest with
  | _, [] => true
  | .lineFeed, c :: _ => c = '\n'
  | .either, c :: _ => c = '\r' || (c = '\n' && place.previous ≠ some '\r')

/-- The condition holds at the place. -/
def Place.satisfies (place : Place) : Anchor → Bool
  | .textStart => place.offset = 0
  | .textEnd => place.rest.isEmpty
  | .lineStart ending => place.isLineStart ending
  | .lineEnd ending => place.isLineEnd ending
  | .wordBoundary kind => place.followsWord kind != place.precedesWord kind
  | .notWordBoundary kind => place.followsWord kind == place.precedesWord kind
  | .wordStart kind => !place.followsWord kind && place.precedesWord kind
  | .wordEnd kind => place.followsWord kind && !place.precedesWord kind
  | .afterNoWord kind => !place.followsWord kind
  | .beforeNoWord kind => !place.precedesWord kind

/-! ### Matching -/

/-- Take a step the given number of times, or until no place is left. -/
def iterate (step : List Place → List Place) : Nat → List Place → List Place
  | 0, places => places
  | rounds + 1, places => if places.isEmpty then [] else iterate step rounds (step places)

/-- Add what a step gives for the newest places until it gives nothing new, in at most the given
number of rounds. -/
def saturate (step : List Place → List Place) : Nat → List Place → List Place → List Place
  | 0, found, _ => found
  | rounds + 1, found, newest =>
    let fresh := (step newest).filter (fun place =>
      !found.any (fun other => other.offset = place.offset))
    if fresh.isEmpty then found else saturate step rounds (found ++ fresh) fresh

/-- The number of rounds after which every place that can be reached is found. -/
def roundsFor (places : List Place) : Nat :=
  places.foldl (fun longest place => max longest place.rest.length) 0 + 1

/-- Where matches that begin at the given places may end. -/
def ends : Pattern → List Place → List Place
  | .empty, places => places
  | .char set, places => places.filterMap (Place.after? set)
  | .anchored condition, places => places.filter (fun place => place.satisfies condition)
  | .seq first second, places => ends second (ends first places)
  | .alt first second, places => unite (ends first places) (ends second places)
  | .group inner, places => ends inner places
  | .repetition inner least most, places =>
    let start := iterate (ends inner) least places
    let further := roundsFor start
    saturate (ends inner) ((most.map (fun limit => min (limit - least) further)).getD further)
      start start

/-- The pattern matches somewhere in the text. -/
def matchesIn (pattern : Pattern) (text : List Char) : Bool :=
  !(pattern.ends (placesFrom 0 none text)).isEmpty

end Pattern

end QueryComposer
