import QueryComposer.Proofs.Template.Apply
import QueryComposer.Template.InPlace

set_option autoImplicit false

/-!
To write over the placeholders of a text one after the other, from the last to the first, is to
replace all of them in one pass: whenever the turn of a placeholder comes, the text up to its end is
still the one that was scanned, so that its place is a place of the text and holds the placeholder.
-/

namespace QueryComposer

open QueryComposer.Lexical QueryComposer.Text

namespace Placeholder

/-! ### Places of a text -/

theorem splitAt?_append (before after : List Char) :
    splitAt? (byteLength before) (before ++ after) = some (before, after) := by
  induction before with
  | nil => simp [byteLength, splitAt?]
  | cons c before inner =>
    obtain ⟨wide, size⟩ := Nat.exists_eq_add_one_of_ne_zero (Nat.ne_of_gt c.utf8Size_pos)
    have place : byteLength (c :: before) = (wide + byteLength before) + 1 := by
      rw [byteLength, size]
      omega
    have left : (wide + byteLength before) + 1 - c.utf8Size = byteLength before := by omega
    rw [place, List.cons_append, splitAt?, if_neg (by omega), left, inner]
    rfl

theorem overwrite?_append (before taken after inserted : List Char) :
    overwrite? (byteLength before) (byteLength before + byteLength taken) inserted
        (before ++ taken ++ after) = some (before ++ inserted ++ after) := by
  rw [overwrite?, if_neg (by omega), List.append_assoc, splitAt?_append, Option.bind_some]
  simp only [Nat.add_sub_cancel_left, splitAt?_append, Option.map_some]

/-! ### The same pieces in two texts -/

/-- Two texts from a place on that have the same pieces: in the first one the placeholders stand
between them, each at its place, and in the second one the texts that go with them. -/
inductive Splices : Nat → List (Placeholder × String) → List Char → List Char → Prop
  | last (offset : Nat) (piece : List Char) : Splices offset [] piece piece
  | next {offset : Nat} (piece : List Char) {placeholder : Placeholder} (text : String)
      {others : List (Placeholder × String)} {rest changed : List Char}
      (starts : placeholder.start = offset + byteLength piece)
      (stops : placeholder.stop = placeholder.start + byteLength placeholder.token)
      (further : Splices placeholder.stop others rest changed) :
      Splices offset ((placeholder, text) :: others) (piece ++ placeholder.token ++ rest)
        (piece ++ text.toList ++ changed)

theorem Slices.splices {offset : Nat} {previous : Option Char} {chars : List Char}
    {replacements : List (Placeholder × String)}
    (sliced : Slices offset previous chars (replacements.map Prod.fst)) :
    Splices offset replacements chars (replaceFrom offset replacements chars) := by
  induction replacements generalizing offset previous chars with
  | nil => exact .last offset chars
  | cons replacement others inner =>
    obtain ⟨placeholder, text⟩ := replacement
    cases sliced with
    | @next _ _ piece rest _ _ quiet code plain starts stops further =>
      have replaced : replaceFrom offset ((placeholder, text) :: others)
          (piece ++ placeholder.token ++ rest) =
            piece ++ text.toList ++ replaceFrom placeholder.stop others rest := by
        rw [replaceFrom_eq, cutFrom_next starts stops, spliced_cons, replaceFrom_eq,
          List.append_assoc]
      rw [replaced]
      exact .next piece text starts stops (inner further)

end Placeholder

namespace Template

open QueryComposer.Placeholder

variable (template : Template) (values : ParameterValues) (policy : LiteralPolicy)

/-! ### One placeholder after the other -/

/-- Writing over the placeholders from some place on leaves what stands before it. -/
theorem overwriteEach_splices {offset : Nat} {replacements : List (Placeholder × String)}
    {chars changed : List Char} (splices : Splices offset replacements chars changed)
    (literals : ∀ replacement ∈ replacements, ∃ value,
      template.valueFor? values replacement.1 = some value ∧
        replacement.2 = Literal.ofValue policy value)
    {kept : List Char} (size : byteLength kept = offset) (more : List Placeholder) :
    template.overwriteEach values policy ((replacements.map Prod.fst).reverse ++ more)
        (kept ++ chars) =
      template.overwriteEach values policy more (kept ++ changed) := by
  induction splices generalizing kept more with
  | last offset piece => rfl
  | @next offset piece placeholder text others rest changed starts stops further inner =>
    obtain ⟨value, chosen, rfl⟩ := literals (placeholder, text) List.mem_cons_self
    have before : byteLength (kept ++ piece) = placeholder.start := by
      rw [byteLength_append, size, starts]
    have upTo : byteLength (kept ++ piece ++ placeholder.token) = placeholder.stop := by
      rw [byteLength_append, before, stops]
    have later := inner
      (fun replacement listed => literals replacement (List.mem_cons_of_mem _ listed)) upTo
      (placeholder :: more)
    have written := overwrite?_append (kept ++ piece) placeholder.token changed
      (Literal.ofValue policy value).toList
    rw [before, ← stops] at written
    -- the later placeholders come first, then this one is written over where it still stands
    rw [List.map_cons, List.reverse_cons, List.append_assoc, List.singleton_append,
      ← List.append_assoc, ← List.append_assoc, later, overwriteEach, chosen]
    simp only [written, Option.bind_some]
    simp only [List.append_assoc]

theorem exists_literals {placeholders : List Placeholder}
    (valued : ∀ placeholder ∈ placeholders,
      (template.valueFor? values placeholder).isSome = true) :
    ∃ replacements : List (Placeholder × String),
      replacements.map Prod.fst = placeholders ∧
      ∀ replacement ∈ replacements, ∃ value,
        template.valueFor? values replacement.1 = some value ∧
          replacement.2 = Literal.ofValue policy value := by
  induction placeholders with
  | nil => exact ⟨[], rfl, by simp⟩
  | cons placeholder placeholders inner =>
    obtain ⟨value, chosen⟩ := Option.isSome_iff_exists.mp (valued placeholder List.mem_cons_self)
    obtain ⟨others, places, literals⟩ :=
      inner (fun other listed => valued other (List.mem_cons_of_mem _ listed))
    refine ⟨(placeholder, Literal.ofValue policy value) :: others, by simp [places], ?_⟩
    intro replacement listed
    rcases List.mem_cons.mp listed with rfl | later
    · exact ⟨value, chosen, rfl⟩
    · exact literals replacement later

/-- When the turn of a placeholder comes, the text up to its end is the one that was scanned. -/
theorem overwriteEach_later {earlier later : List Placeholder} {placeholder : Placeholder}
    (scanned : Placeholder.scan template.sql = earlier ++ placeholder :: later)
    (valued : ∀ other ∈ later, (template.valueFor? values other).isSome = true) :
    ∃ kept rest changed, template.sql.toList = kept ++ placeholder.token ++ rest ∧
      placeholder.start = byteLength kept ∧
      placeholder.stop = placeholder.start + byteLength placeholder.token ∧
      ∀ more, template.overwriteEach values policy (later.reverse ++ more) template.sql.toList =
        template.overwriteEach values policy more (kept ++ placeholder.token ++ changed) := by
  have sliced := slices_scan template.sql
  rw [scanned] at sliced
  obtain ⟨kept, rest, whole, starts, stops, sliced⟩ := sliced.split
  obtain ⟨replacements, rfl, literals⟩ := template.exists_literals values policy valued
  rw [Nat.zero_add] at starts
  refine ⟨kept, rest, replaceFrom placeholder.stop replacements rest, whole, starts, stops,
    fun more => ?_⟩
  rw [whole]
  exact template.overwriteEach_splices values policy sliced.splices literals
    (by rw [byteLength_append, stops, starts]) more

/-! ### Where a value is missing -/

theorem lastMissing?_eq_find? :
    template.lastMissing? values = (Placeholder.scan template.sql).reverse.find?
      (fun placeholder => (template.valueFor? values placeholder).isNone) := by
  rw [lastMissing?, ← List.head?_filter, List.filter_reverse, List.head?_reverse]

theorem lastMissing?_split {placeholder : Placeholder}
    (missing : template.lastMissing? values = some placeholder) :
    template.valueFor? values placeholder = none ∧
    ∃ earlier later, Placeholder.scan template.sql = earlier ++ placeholder :: later ∧
      ∀ other ∈ later, (template.valueFor? values other).isSome = true := by
  rw [lastMissing?_eq_find?, List.find?_eq_some_iff_append] at missing
  obtain ⟨none, passed, others, split, skipped⟩ := missing
  refine ⟨Option.isNone_iff_eq_none.mp none, others.reverse, passed.reverse, ?_, ?_⟩
  · rw [← List.reverse_reverse (Placeholder.scan template.sql), split]
    simp
  · intro other listed
    simpa using skipped other (List.mem_reverse.mp listed)

/-! ### All placeholders -/

/-- A placeholder is written over at a place of the text, and what comes of all of them is what
comes of one pass. -/
theorem applyInPlace_eq :
    template.applyInPlace values policy = some (template.apply values policy) := by
  unfold applyInPlace
  cases missing : template.lastMissing? values with
  | none =>
    have valued := lastMissing?_eq_none_iff.mp missing
    have places : (template.replacements values policy).map Prod.fst =
        Placeholder.scan template.sql := replacements_places valued
    have sliced : Slices 0 none template.sql.toList
        ((template.replacements values policy).map Prod.fst) := by
      rw [places]
      exact slices_scan template.sql
    have empty : byteLength [] = 0 := rfl
    have written := template.overwriteEach_splices values policy sliced.splices
      (fun replacement listed => (mem_replacements listed).2) empty []
    rw [places, List.append_nil, List.nil_append, List.nil_append] at written
    rw [written, apply, missing]
    rfl
  | some placeholder =>
    -- those behind the last one without a value are written over before the work ends
    obtain ⟨none, earlier, later, scanned, valued⟩ := template.lastMissing?_split values missing
    obtain ⟨kept, rest, changed, _, _, _, left⟩ :=
      template.overwriteEach_later values policy scanned valued
    rw [scanned, List.reverse_append, List.reverse_cons, List.append_assoc, left,
      List.singleton_append, overwriteEach, none, apply, missing]
    rfl

theorem apply_isOk_iff :
    (∃ output, template.apply values policy = .ok output) ↔
      ∀ placeholder ∈ Placeholder.scan template.sql,
        (template.valueFor? values placeholder).isSome = true := by
  rw [← lastMissing?_eq_none_iff, apply]
  cases template.lastMissing? values <;> simp

theorem apply_splices {output : String} (applied : template.apply values policy = .ok output) :
    ∃ replacements : List (Placeholder × String),
      replacements.map Prod.fst = Placeholder.scan template.sql ∧
      (∀ replacement ∈ replacements, ∃ value,
        template.valueFor? values replacement.1 = some value ∧
          replacement.2 = Literal.ofValue policy value) ∧
      Splices 0 replacements template.sql.toList output.toList := by
  obtain ⟨places, rfl⟩ := apply_eq_ok applied
  have sliced := slices_scan template.sql
  rw [← places] at sliced
  refine ⟨template.replacements values policy, places,
    fun replacement listed => (mem_replacements listed).2, ?_⟩
  rw [Placeholder.replace, String.toList_ofList]
  exact sliced.splices

theorem apply_eq_error {error : Error} (failed : template.apply values policy = .error error) :
    ∃ earlier placeholder later,
      Placeholder.scan template.sql = earlier ++ placeholder :: later ∧
      template.valueFor? values placeholder = none ∧
      (∀ other ∈ later, (template.valueFor? values other).isSome = true) ∧
      error = .missingValue placeholder.name := by
  cases missing : template.lastMissing? values with
  | none => simp [apply, missing] at failed
  | some placeholder =>
    obtain ⟨none, earlier, later, scanned, valued⟩ := template.lastMissing?_split values missing
    rw [apply, missing] at failed
    cases failed
    exact ⟨earlier, placeholder, later, scanned, none, valued, rfl⟩

/-- To write over the placeholders in place is one simultaneous replacement. It always ends, and
with a text exactly when every placeholder has a supplied value or a default; the text has the
pieces of the template's text unchanged, and between them the literals of the values. Otherwise the
error names the last placeholder without a value. Whenever the turn of a placeholder comes, the text
still begins like that of the template, up to the end of the placeholder, so that its place holds it
whatever was written behind it. -/
theorem applyInPlace_replaces_at_once :
    (∃ result, template.applyInPlace values policy = some result) ∧
    ((∃ output, template.applyInPlace values policy = some (.ok output)) ↔
      ∀ placeholder ∈ Placeholder.scan template.sql,
        (values.get? placeholder.name).isSome = true ∨
          ((Parameter.find? template.parameters placeholder.name).bind
            Parameter.defaultValue).isSome = true) ∧
    (∀ output, template.applyInPlace values policy = some (.ok output) →
      ∃ replacements : List (Placeholder × String),
        replacements.map Prod.fst = Placeholder.scan template.sql ∧
        (∀ replacement ∈ replacements, ∃ value,
          template.valueFor? values replacement.1 = some value ∧
            replacement.2 = Literal.ofValue policy value) ∧
        Splices 0 replacements template.sql.toList output.toList) ∧
    (∀ error, template.applyInPlace values policy = some (.error error) →
      ∃ earlier placeholder later,
        Placeholder.scan template.sql = earlier ++ placeholder :: later ∧
        template.valueFor? values placeholder = none ∧
        (∀ other ∈ later, (template.valueFor? values other).isSome = true) ∧
        error = .missingValue placeholder.name) ∧
    ∀ earlier placeholder later,
      Placeholder.scan template.sql = earlier ++ placeholder :: later →
      (∀ other ∈ later, (template.valueFor? values other).isSome = true) →
      ∃ kept rest changed, template.sql.toList = kept ++ placeholder.token ++ rest ∧
        template.overwriteEach values policy later.reverse template.sql.toList =
          some (.ok (kept ++ placeholder.token ++ changed)) ∧
        placeholder.start = byteLength kept ∧
        placeholder.stop = placeholder.start + byteLength placeholder.token := by
  rw [applyInPlace_eq]
  refine ⟨⟨_, rfl⟩, ?_, ?_, ?_, ?_⟩
  · have same : (∃ output, some (template.apply values policy) = some (.ok output)) ↔
        ∃ output, template.apply values policy = .ok output := by simp
    rw [same, apply_isOk_iff]
    simp only [valueFor?, Option.isSome_or, Bool.or_eq_true]
  · intro output applied
    exact template.apply_splices values policy (Option.some.inj applied)
  · intro error failed
    exact template.apply_eq_error values policy (Option.some.inj failed)
  · intro earlier placeholder later scanned valued
    obtain ⟨kept, rest, changed, whole, starts, stops, left⟩ :=
      template.overwriteEach_later values policy scanned valued
    refine ⟨kept, rest, changed, whole, ?_, starts, stops⟩
    have alone := left []
    rwa [List.append_nil] at alone

/-- What is written in looks like a placeholder, and characters of several bytes stand before it. -/
example :
    ((Template.ofSql "SELECT 'ü', :a, :b").applyInPlace
        [("a", .string "é :b"), ("b", .int 7)] .permissive).map Except.toOption =
      some (some "SELECT 'ü', 'é :b', 7") := by
  decide +kernel

end Template

end QueryComposer
