import QueryComposer.Proofs.Literal.SelfContained
import QueryComposer.Proofs.Placeholder.Cut

set_option autoImplicit false

/-!
Layouts: SQL texts as pieces that stand for themselves and references to parameters between them.
Where the pieces do not run into each other, the scan of the whole text finds the references and
nothing else, and replacing placeholders replaces the references.
-/

namespace QueryComposer

open QueryComposer.Lexical QueryComposer.Literal QueryComposer.Placeholder QueryComposer.Text

/-- A piece of an SQL text. -/
inductive Fragment
  | text (chars : List Char)
  | reference (name : List Char)
deriving DecidableEq, Repr

namespace Fragment

def chars : Fragment → List Char
  | .text chars => chars
  | .reference name => ':' :: name

def names : Fragment → List String
  | .text _ => []
  | .reference name => [String.ofList name]

/-- The piece with something else in the place of a reference. -/
def filled (fill : String → String) : Fragment → List Char
  | .text chars => chars
  | .reference name => (fill (String.ofList name)).toList

end Fragment

abbrev Layout := List Fragment

namespace Layout

def chars (layout : Layout) : List Char :=
  layout.flatMap Fragment.chars

/-- The names of the references from left to right. -/
def names (layout : Layout) : List String :=
  layout.flatMap Fragment.names

/-- The text with other texts in the place of its references. -/
def filled (fill : String → String) (layout : Layout) : List Char :=
  layout.flatMap (Fragment.filled fill)

/-- The references as placeholders, with the places where they stand. -/
def placesFrom (offset : Nat) : Layout → List Placeholder
  | [] => []
  | .text chars :: rest => placesFrom (offset + byteLength chars) rest
  | .reference name :: rest => namedAt offset name :: placesFrom (offset + 1 + name.length) rest

@[simp]
theorem chars_nil : chars [] = [] :=
  rfl

@[simp]
theorem chars_text (shown : List Char) (rest : Layout) :
    chars (.text shown :: rest) = shown ++ chars rest :=
  rfl

theorem chars_reference (name : List Char) (rest : Layout) :
    chars (.reference name :: rest) = ':' :: (name ++ chars rest) :=
  rfl

@[simp]
theorem chars_append (first second : Layout) :
    chars (first ++ second) = chars first ++ chars second :=
  List.flatMap_append

@[simp]
theorem names_nil : names [] = [] :=
  rfl

@[simp]
theorem names_text (shown : List Char) (rest : Layout) :
    names (.text shown :: rest) = names rest :=
  rfl

@[simp]
theorem names_append (first second : Layout) :
    names (first ++ second) = names first ++ names second :=
  List.flatMap_append

@[simp]
theorem filled_text (fill : String → String) (shown : List Char) (rest : Layout) :
    filled fill (.text shown :: rest) = shown ++ filled fill rest :=
  rfl

theorem filled_reference (fill : String → String) (name : List Char) (rest : Layout) :
    filled fill (.reference name :: rest) =
      (fill (String.ofList name)).toList ++ filled fill rest :=
  rfl

@[simp]
theorem filled_append (fill : String → String) (first second : Layout) :
    filled fill (first ++ second) = filled fill first ++ filled fill second :=
  List.flatMap_append

theorem map_name_placesFrom (offset : Nat) (layout : Layout) :
    (layout.placesFrom offset).map Placeholder.name = layout.names := by
  induction layout generalizing offset with
  | nil => rfl
  | cons fragment rest inner =>
    cases fragment with
    | text chars => exact inner _
    | reference name =>
      rw [placesFrom, List.map_cons, inner]
      rfl

theorem named_of_mem_placesFrom {offset : Nat} {layout : Layout} {placeholder : Placeholder}
    (member : placeholder ∈ layout.placesFrom offset) : placeholder.kind = .named := by
  induction layout generalizing offset with
  | nil => contradiction
  | cons fragment rest inner =>
    cases fragment with
    | text chars => exact inner member
    | reference name =>
      rcases List.mem_cons.mp member with rfl | later
      · rfl
      · exact inner later

/-- Where there are no references, there is nothing to fill in. -/
theorem filled_of_names_eq_nil (fill : String → String) {layout : Layout}
    (plain : layout.names = []) : layout.filled fill = layout.chars := by
  induction layout with
  | nil => rfl
  | cons fragment rest inner =>
    cases fragment with
    | text shown => rw [filled_text, chars_text, inner plain]
    | reference name => contradiction

/-! ### Separated pieces -/

/-- The pieces do not run into each other, nor into the characters before and after them: quotes and
comment marks are all within pieces, and references stand apart from letters, digits and colons. -/
def Separated (previous : Option Char) : Layout → Option Char → Prop
  | [], _ => True
  | .text chars :: rest, next =>
    Settled .code chars ∧ meets chars.getLast? ((Layout.chars rest).head?.or next) = false ∧
      Separated (chars.getLast?.or previous) rest next
  | .reference name :: rest, next =>
    isName name = true ∧ blocksName previous = false ∧
      (∀ c ∈ (Layout.chars rest).head?.or next, continuesName c = false) ∧
      Separated (name.getLast?.or (some ':')) rest next

theorem separated_append (previous next : Option Char) (first second : Layout) :
    Separated previous (first ++ second) next ↔
      Separated previous first ((Layout.chars second).head?.or next) ∧
        Separated ((Layout.chars first).getLast?.or previous) second next := by
  have heads (rest : Layout) : (Layout.chars (rest ++ second)).head?.or next =
      (Layout.chars rest).head?.or ((Layout.chars second).head?.or next) := by
    rw [chars_append, List.head?_append, Option.or_assoc]
  induction first generalizing previous with
  | nil => simp [Separated, chars]
  | cons fragment rest inner =>
    have last (shown : List Char) : ((shown ++ Layout.chars rest).getLast?.or previous) =
        (Layout.chars rest).getLast?.or (shown.getLast?.or previous) := by
      rw [List.getLast?_append, Option.or_assoc]
    cases fragment with
    | text shown =>
      rw [List.cons_append, Separated, Separated, heads, chars_text, last]
      simp only [inner, and_assoc]
    | reference name =>
      have ends : (':' :: name).getLast?.or previous = name.getLast?.or (some ':') :=
        getLast?_cons_or ':' name previous
      rw [List.cons_append, Separated, Separated, heads, chars_reference, ← List.cons_append, last,
        ends]
      simp only [inner, and_assoc]

/-- Every reference has a name that placeholders can have. -/
def Named (layout : Layout) : Prop :=
  ∀ name, .reference name ∈ layout → isName name = true

theorem Separated.named {previous next : Option Char} {layout : Layout}
    (separated : Separated previous layout next) : layout.Named := by
  induction layout generalizing previous with
  | nil =>
    intro name member
    contradiction
  | cons fragment rest inner =>
    intro name member
    cases fragment with
    | text shown =>
      rcases List.mem_cons.mp member with impossible | later
      · contradiction
      · exact inner separated.2.2 name later
    | reference other =>
      rcases List.mem_cons.mp member with same | later
      · cases same
        exact separated.1
      · exact inner separated.2.2.2 name later

theorem continuesName_of_isName {name : List Char} (named : isName name = true) :
    name.all continuesName = true := by
  cases name with
  | nil => contradiction
  | cons c rest =>
    rw [isName, Bool.and_eq_true] at named
    rw [List.all_cons, Bool.and_eq_true]
    refine ⟨?_, named.2⟩
    rw [continuesName, named.1, Bool.true_or]

theorem takeWhile_name {name rest : List Char} (continues : name.all continuesName = true)
    (stops : ∀ c ∈ rest.head?, continuesName c = false) :
    (name ++ rest).takeWhile continuesName = name := by
  have none : rest.takeWhile continuesName = [] := by
    cases rest with
    | nil => rfl
    | cons c rest => exact List.takeWhile_cons_of_neg (by simp [stops c rfl])
  rw [List.takeWhile_append_of_pos (List.all_eq_true.mp continues), none, List.append_nil]

/-- A piece without references is masked and scanned by itself; what stands before the rest is its
last character. -/
theorem scanFrom_text {previous : Option Char} {shown rest : List Char}
    (settled : Settled .code shown) (free : meets shown.getLast? rest.head? = false)
    (offset questions : Nat) :
    scanFrom offset previous questions (maskChars (shown ++ rest)) =
      scanFrom (offset + byteLength shown) (shown.getLast?.or previous) questions
        (maskChars rest) := by
  have ends : (maskChars shown).getLast? = shown.getLast? := settled.ends
  have cut : maskChars (shown ++ rest) = maskChars shown ++ maskChars rest := by
    apply maskChars_append settled.code
    rwa [ends]
  have quiet : silent previous (maskChars shown) (maskChars rest).head? = true :=
    silent_of_missing settled.shows _ _
  have size : byteLength (maskChars shown) = byteLength shown :=
    byteLength_maskFrom .code shown
  rw [cut, scanFrom_silent quiet, ends, size]

theorem scanFrom_reference {previous : Option Char} {name rest : List Char}
    (named : isName name = true) (free : blocksName previous = false)
    (stops : ∀ c ∈ rest.head?, continuesName c = false) (offset questions : Nat) :
    scanFrom offset previous questions (maskChars (':' :: (name ++ rest))) =
      namedAt offset name ::
        scanFrom (offset + 1 + name.length) (name.getLast?.or (some ':')) questions
          (maskChars rest) := by
  have continues := continuesName_of_isName named
  have plain : (':' :: name).all isPlain = true := by
    rw [List.all_cons, name_plain continues]
    rfl
  have cut : maskChars (':' :: (name ++ rest)) = ':' :: (name ++ maskChars rest) :=
    maskChars_plain plain rest
  have inside : name ++ maskChars rest = maskChars (name ++ rest) :=
    (maskChars_plain (name_plain continues) rest).symm
  have begins : beginsName previous (name ++ maskChars rest).head? = true := by
    cases name with
    | nil => contradiction
    | cons c name =>
      rw [isName, Bool.and_eq_true] at named
      simp [beginsName, free, named.1]
  have read : (name ++ maskChars rest).takeWhile continuesName = name := by
    rw [inside, takeWhile_maskChars, takeWhile_name continues stops]
  rw [cut, scanFrom_colon begins, read, scanFrom_silent (silent_name continues _ _),
    byteLength_name continues]

/-- The scan of separated pieces finds their references. -/
theorem scanFrom_chars {previous : Option Char} {layout : Layout}
    (separated : Separated previous layout none) (offset questions : Nat) :
    scanFrom offset previous questions (maskChars (Layout.chars layout)) =
      layout.placesFrom offset := by
  induction layout generalizing offset previous with
  | nil => rfl
  | cons fragment rest inner =>
    cases fragment with
    | text shown =>
      obtain ⟨settled, free, further⟩ := separated
      rw [chars_text, scanFrom_text settled (by simpa using free), inner further]
      rfl
    | reference name =>
      obtain ⟨named, free, stops, further⟩ := separated
      rw [chars_reference, scanFrom_reference named free (by simpa using stops), inner further]
      rfl

/-! ### Replacing references -/

theorem replaceFrom_text (offset : Nat) (before chars : List Char)
    {replacements : List (Placeholder × String)}
    (later : ∀ first ∈ replacements.head?, offset + byteLength before ≤ first.1.start) :
    replaceFrom offset replacements (before ++ chars) =
      before ++ replaceFrom (offset + byteLength before) replacements chars := by
  cases replacements with
  | nil => rfl
  | cons replacement others =>
    obtain ⟨placeholder, text⟩ := replacement
    have starts := later (placeholder, text) rfl
    have distance : placeholder.start - offset =
        byteLength before + (placeholder.start - (offset + byteLength before)) := by
      simp only at starts
      omega
    rw [replaceFrom, distance, splitBytes_append_more]
    simp only [replaceFrom, List.append_assoc]

theorem start_of_head?_placesFrom {offset : Nat} {layout : Layout} {placeholder : Placeholder}
    (first : placeholder ∈ (layout.placesFrom offset).head?) : offset ≤ placeholder.start := by
  induction layout generalizing offset with
  | nil => contradiction
  | cons fragment rest inner =>
    cases fragment with
    | text shown =>
      have further := inner first
      omega
    | reference name =>
      cases first
      exact Nat.le_refl offset

/-- To replace the placeholders of a layout is to fill in its references. -/
theorem replaceFrom_placesFrom (fill : String → String) {layout : Layout} (named : layout.Named)
    (offset : Nat) :
    replaceFrom offset
        ((layout.placesFrom offset).map (fun placeholder => (placeholder, fill placeholder.name)))
        (Layout.chars layout) =
      layout.filled fill := by
  induction layout generalizing offset with
  | nil => rfl
  | cons fragment rest inner =>
    have further : Named rest := fun name member => named name (List.mem_cons_of_mem _ member)
    cases fragment with
    | text shown =>
      rw [chars_text, filled_text, placesFrom, replaceFrom_text, inner further]
      intro replacement first
      rw [List.head?_map] at first
      obtain ⟨placeholder, head, rfl⟩ := Option.map_eq_some_iff.mp first
      exact start_of_head?_placesFrom head
    | reference name =>
      have continues := continuesName_of_isName (named name List.mem_cons_self)
      have size : (namedAt offset name).stop - (namedAt offset name).start =
          byteLength (':' :: name) := by
        rw [byteLength, byteLength_name continues]
        change offset + 1 + name.length - offset = 1 + name.length
        omega
      have gap : (namedAt offset name).start - offset = 0 := Nat.sub_self offset
      have start : splitBytes 0 ((':' :: name) ++ Layout.chars rest) =
          ([], (':' :: name) ++ Layout.chars rest) := rfl
      rw [placesFrom, List.map_cons, replaceFrom, gap, size, chars_reference, ← List.cons_append,
        start, filled_reference]
      simp only [splitBytes_append, List.nil_append]
      exact congrArg ((fill (String.ofList name)).toList ++ ·) (inner further _)

end Layout

end QueryComposer
