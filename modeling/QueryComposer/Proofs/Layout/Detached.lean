import QueryComposer.Proofs.Layout.Fragments

set_option autoImplicit false

/-!
Layouts that are put together with separators between them. A detached layout may stand between any
characters that separators have at their ends, so that detached layouts make up detached ones.
-/

namespace QueryComposer

open QueryComposer.Lexical QueryComposer.Literal QueryComposer.Placeholder QueryComposer.Text

namespace Layout

/-! ### Code -/

/-- Is code wherever it stands in code, and no part of a placeholder. -/
def isCode (c : Char) : Bool :=
  isBare c || c = '*'

/-- Ends a reference before it, and forms no mark with what stands there. -/
def closes (c : Char) : Bool :=
  isPlain c && !continuesName c

/-- The text stands between layouts that are independent of each other. -/
def isSeparator (chars : List Char) : Bool :=
  chars.all isCode && chars.head?.any closes && !blocksName chars.getLast?

theorem isCode_cases {c : Char} (code : isCode c = true) : isBare c = true ∨ c = '*' := by
  simpa [isCode] using code

theorem joined_code {c : Char} (code : isCode c = true) (next : Char) : joined c next = false := by
  have other (d : Char) (marks : isCode d = false) : c ≠ d := by
    rintro rfl
    rw [code] at marks
    contradiction
  simp [joined, other '-' (by decide), other '/' (by decide), other '\'' (by decide),
    other '"' (by decide)]

theorem meets_code {chars : List Char} (code : chars.all isCode = true) (next : Option Char) :
    meets chars.getLast? next = false := by
  cases last : chars.getLast? with
  | none => rfl
  | some c =>
    have own := List.all_eq_true.mp code c (List.mem_of_getLast? last)
    cases next with
    | none => rfl
    | some d => simpa [meets] using joined_code own d

theorem meets_closes {next : Option Char} (closed : ∀ c ∈ next, closes c = true)
    (left : Option Char) : meets left next = false := by
  cases next with
  | none => cases left <;> rfl
  | some c =>
    have plain : isPlain c = true := (Bool.and_eq_true_iff.mp (closed c rfl)).1
    have other (d : Char) (marks : isPlain d = false) : c ≠ d := by
      rintro rfl
      rw [plain] at marks
      contradiction
    cases left with
    | none => rfl
    | some b =>
      simp [meets, joined, other '-' (by decide), other '*' (by decide), other '\'' (by decide),
        other '"' (by decide)]

theorem settled_code {chars : List Char} (code : chars.all isCode = true) :
    Settled .code chars := by
  induction chars with
  | nil => exact .nil
  | cons c rest inner =>
    rw [List.all_cons, Bool.and_eq_true] at code
    have settled := inner code.2
    rcases isCode_cases code.1 with bare | rfl
    · exact .bare bare settled
    · refine .cons ?_ settled (by simp [single, shown]) (.inr (by decide))
      intro next _
      simp [mark?]

/-! ### Detached layouts -/

/-- The layout may stand between separators, or at an end of the text. -/
def Detached (layout : Layout) : Prop :=
  ∀ previous next, blocksName previous = false → (∀ c ∈ next, closes c = true) →
    Separated previous layout next

namespace Detached

theorem nil : Detached [] :=
  fun _ _ _ _ => trivial

theorem text {chars : List Char} (settled : Settled .code chars) : Detached [.text chars] := by
  intro previous next _ closed
  exact ⟨settled, meets_closes closed _, trivial⟩

theorem code {chars : List Char} (code : chars.all isCode = true) : Detached [.text chars] :=
  text (settled_code code)

theorem reference {name : List Char} (named : isName name = true) :
    Detached [.reference name] := by
  intro previous next free closed
  refine ⟨named, free, ?_, trivial⟩
  intro c head
  have ends := (Bool.and_eq_true_iff.mp (closed c (by simpa [Layout.chars] using head))).2
  simpa using ends

/-- Code that ends with a separator keeps a layout apart from what stands before. -/
theorem separated_lead {start separator : List Char} {layout : Layout}
    (code : start.all isCode = true) (separates : isSeparator separator = true)
    (detached : Detached layout) {previous next : Option Char}
    (closed : ∀ c ∈ next, closes c = true) :
    Separated previous (.text (start ++ separator) :: layout) next := by
  simp only [isSeparator, Bool.and_eq_true, Bool.not_eq_true'] at separates
  obtain ⟨⟨further, starts⟩, opens⟩ := separates
  have whole : (start ++ separator).all isCode = true := by
    rw [List.all_append, code, further]
    rfl
  have present : separator.getLast?.isSome = true := by
    cases separator with
    | nil => contradiction
    | cons c separator => simp
  have last : (start ++ separator).getLast?.or previous = separator.getLast? := by
    rw [List.getLast?_append, Option.or_of_isSome present, Option.or_of_isSome present]
  refine ⟨settled_code whole, meets_code whole _, ?_⟩
  rw [last]
  exact detached _ next opens closed

theorem lead {start separator : List Char} {layout : Layout} (code : start.all isCode = true)
    (separates : isSeparator separator = true) (detached : Detached layout) :
    Detached (.text (start ++ separator) :: layout) :=
  fun _ _ _ closed => separated_lead code separates detached closed

theorem join {separator : List Char} {first second : Layout}
    (separates : isSeparator separator = true) (left : Detached first) (right : Detached second) :
    Detached (first ++ .text separator :: second) := by
  intro previous following free closed
  have starts := separates
  simp only [isSeparator, Bool.and_eq_true] at starts
  obtain ⟨c, head, closing⟩ := (Option.any_eq_true _ _).mp starts.1.2
  have next : (Layout.chars (.text separator :: second)).head? = some c := by
    rw [chars_text, List.head?_append, head]
    rfl
  rw [separated_append, next]
  have nothing : ([] : List Char).all isCode = true := rfl
  refine ⟨left previous _ free ?_, separated_lead nothing separates right closed⟩
  intro d same
  cases same
  exact closing

theorem intercalate {separator : List Char} {parts : List Layout}
    (separates : isSeparator separator = true) (detached : ∀ part ∈ parts, Detached part) :
    Detached ([.text separator].intercalate parts) := by
  induction parts with
  | nil =>
    rw [List.intercalate_nil]
    exact nil
  | cons first parts inner =>
    have others := inner (fun part member => detached part (List.mem_cons_of_mem first member))
    cases parts with
    | nil =>
      rw [List.intercalate_singleton]
      exact detached first List.mem_cons_self
    | cons second parts =>
      rw [List.intercalate_cons_cons, List.append_assoc]
      exact join separates (detached first List.mem_cons_self) others

theorem enclosed {opening closing : List Char} {layout : Layout}
    (opens : isSeparator opening = true) (closes : isSeparator closing = true)
    (detached : Detached layout) :
    Detached (.text opening :: (layout ++ [.text closing])) :=
  join opens nil (join closes detached nil)

/-- The scan of a detached layout finds its references. -/
theorem ofMasked_chars {layout : Layout} (detached : Detached layout) :
    ofMasked (maskChars (Layout.chars layout)) = layout.placesFrom 0 :=
  scanFrom_chars (detached none none rfl (by simp)) 0 0

theorem named {layout : Layout} (detached : Detached layout) : layout.Named :=
  Separated.named (detached none none rfl (by simp))

end Detached

end Layout

end QueryComposer
