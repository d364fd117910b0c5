import QueryComposer.Proofs.Lexical.Regions

set_option autoImplicit false

/-!
A text that is put together from two is read like its parts, unless the last character of the first
and the first character of the second form a mark. Where the first part ends in code, its masked
text shows whether that can happen.
-/

namespace QueryComposer.Lexical

open QueryComposer.Text

/-! ### Texts put together from two -/

/-- The end of the first text and the start of the second form no mark. -/
def Apart (region : Region) (first second : List Char) : Prop :=
  ∀ place ∈ openEnd? region first, ∀ next ∈ second.head?, mark? place.1 place.2 next = none

theorem labelFrom_append {region : Region} {first second : List Char}
    (apart : Apart region first second) :
    labelFrom region (first ++ second) =
      labelFrom region first ++ labelFrom (regionAfter region first) second := by
  -- The seam is only looked at where the first text is down to one character.
  fun_induction openEnd? region first with
  | case1 region => rfl
  | case2 region c =>
    exact labelFrom_single (fun next found => apart (region, c) (by simp [openEnd?]) next found)
  | case3 region c next rest within after mark inner =>
    have further : Apart after rest second := by
      simpa only [Apart, openEnd?, mark] using apart
    rw [List.cons_append, List.cons_append, labelFrom_mark mark, labelFrom_mark mark,
      regionAfter_mark mark, inner further]
    rfl
  | case4 region c next rest alone inner =>
    have further : Apart (single region c).2 (next :: rest) second := by
      simpa only [Apart, openEnd?, alone] using apart
    have first : ∀ more ∈ (next :: rest).head?, mark? region c more = none := by simpa using alone
    rw [List.cons_append, labelFrom_single (by simpa using alone), inner further,
      labelFrom_single first, regionAfter_single first]
    rfl

theorem labelFrom_append_mark {region inner within after : Region} {first : List Char}
    {c next : Char}
    (opened : openEnd? region first = some (inner, c))
    (mark : mark? inner c next = some (within, after)) (rest : List Char) :
    ∃ labels, labelFrom region first = labels ++ [(c, (single inner c).1)] ∧
      labelFrom region (first ++ next :: rest) =
        labels ++ (c, within) :: (next, within) :: labelFrom after rest := by
  fun_induction openEnd? region first with
  | case1 region => cases opened
  | case2 region c =>
    cases opened
    exact ⟨[], rfl, labelFrom_mark mark rest⟩
  | case3 region d e tail inside behind earlier step =>
    obtain ⟨labels, whole, joined⟩ := step opened
    refine ⟨(d, inside) :: (e, inside) :: labels, ?_, ?_⟩
    · rw [labelFrom_mark earlier, whole]
      rfl
    · rw [List.cons_append, List.cons_append, labelFrom_mark earlier, joined]
      rfl
  | case4 region d e tail alone step =>
    obtain ⟨labels, whole, joined⟩ := step opened
    refine ⟨(d, (single region d).1) :: labels, ?_, ?_⟩
    · rw [labelFrom_single (by simpa using alone), whole]
      rfl
    · rw [List.cons_append, labelFrom_single (by simpa using alone), joined]
      rfl

theorem regionAfter_of_openEnd? {region inner : Region} {first : List Char} {c : Char}
    (opened : openEnd? region first = some (inner, c)) :
    regionAfter region first = (single inner c).2 := by
  fun_induction openEnd? region first with
  | case1 region => cases opened
  | case2 region d =>
    cases opened
    rfl
  | case3 region d e tail inside behind mark step => rw [regionAfter_mark mark, step opened]
  | case4 region d e tail alone step =>
    rw [regionAfter_single (by simpa using alone), step opened]

/-! ### Plain characters -/

/-- The character stands for itself: it is no quote and in no mark. -/
def isPlain (c : Char) : Bool :=
  !(['-', '/', '*', '\'', '"'].contains c)

theorem mark?_plain_left {c : Char} (plain : isPlain c) (region : Region) (next : Char) :
    mark? region c next = none := by
  cases region <;> simp_all [isPlain, mark?]

theorem mark?_plain_right {next : Char} (plain : isPlain next) (region : Region) (c : Char) :
    mark? region c next = none := by
  cases region <;> simp_all [isPlain, mark?]

theorem single_plain {c : Char} (plain : isPlain c) : single .code c = (.code, .code) := by
  simp_all [isPlain, single]

theorem Apart.plain {region : Region} {first second : List Char}
    (plain : second.head?.all isPlain) : Apart region first second := by
  intro place _ next found
  rw [found] at plain
  exact mark?_plain_right plain place.1 place.2

theorem labelFrom_plain {token : List Char} (plain : token.all isPlain) (rest : List Char) :
    labelFrom .code (token ++ rest) = token.map (·, .code) ++ labelFrom .code rest := by
  induction token with
  | nil => rfl
  | cons c token inner =>
    rw [List.all_cons, Bool.and_eq_true] at plain
    rw [List.cons_append, labelFrom_single (fun next _ => mark?_plain_left plain.1 .code next),
      single_plain plain.1, inner plain.2]
    rfl

theorem maskChars_plain {token : List Char} (plain : token.all isPlain) (rest : List Char) :
    maskChars (token ++ rest) = token ++ maskChars rest := by
  rw [maskChars, maskFrom_eq, labelFrom_plain plain, List.flatMap_append, ← maskFrom_eq]
  congr 1
  induction token <;> simp_all [shown]

theorem head?_maskFrom (region : Region) (chars : List Char) :
    (maskFrom region chars).head? = chars.head? ∨ (maskFrom region chars).head? = some ' ' := by
  have same := labelFrom_chars region chars
  rw [maskFrom_eq]
  cases labels : labelFrom region chars with
  | nil =>
    rw [labels] at same
    exact .inl (by rw [← same]; rfl)
  | cons label rest =>
    rw [labels] at same
    rw [← same, List.flatMap_cons, List.map_cons, List.head?_cons, List.head?_append,
      Option.or_of_isSome (by simpa using shown_ne_nil label)]
    exact head?_shown label

theorem head?_maskChars (chars : List Char) :
    (maskChars chars).head? = chars.head? ∨ (maskChars chars).head? = some ' ' :=
  head?_maskFrom .code chars

theorem eq_of_mem_shown {label : Char × Region} {c : Char} (visible : c ≠ ' ' ∧ c ≠ '\n')
    (mem : c ∈ shown label) : label = (c, .code) := by
  obtain ⟨d, region⟩ := label
  simp only [shown, blanksFor] at mem
  grind

theorem region_of_single {region : Region} {c : Char} (plain : isPlain c) (visible : c ≠ '\n')
    (code : (single region c).1 = .code) : region = .code := by
  cases region <;> simp_all [single, isPlain]

theorem split_append {α : Type} {front tail before after : List α} {item : α}
    (missing : item ∉ front) (same : front ++ tail = before ++ item :: after) :
    ∃ between, before = front ++ between ∧ tail = between ++ item :: after := by
  rcases List.append_eq_append_iff.mp same with ⟨between, left, right⟩ | ⟨between, left, right⟩
  · exact ⟨between, left, right⟩
  · cases between with
    | nil => exact ⟨[], by simpa using left.symm, by simpa using right.symm⟩
    | cons first between =>
      cases right
      exact absurd (by simp [left]) missing

/-- The place of a plain character in a masked text is its place in the text, in code. -/
theorem split_of_maskFrom {region : Region} {chars before after : List Char} {c : Char}
    (plain : isPlain c) (visible : c ≠ ' ' ∧ c ≠ '\n')
    (found : maskFrom region chars = before ++ c :: after) :
    ∃ gap rest, chars = gap ++ c :: rest ∧ regionAfter region gap = .code ∧
      maskFrom region gap = before ∧ maskFrom .code rest = after := by
  induction region, chars using reading_induction generalizing before with
  | nil region => cases region <;> simp [maskFrom] at found
  | mark region first second rest within ends mark inner =>
    rw [maskFrom_mark mark] at found
    have away : c ∉ shown (first, within) ++ shown (second, within) := by
      intro mem
      have inside := mark?_ne_code mark
      rcases List.mem_append.mp mem with mem | mem <;>
        exact inside (Prod.mk.inj (eq_of_mem_shown visible mem)).2
    obtain ⟨between, rfl, later⟩ := split_append away found
    obtain ⟨gap, tail, rfl, code, rfl, rfl⟩ := inner later
    refine ⟨first :: second :: gap, tail, rfl, ?_, ?_, rfl⟩
    · rw [regionAfter_mark mark, code]
    · rw [maskFrom_mark mark]
  | alone region first rest alone inner =>
    rw [maskFrom_single alone] at found
    -- What stands before the character shows the first one, unless it is the character itself.
    have first_shown : (before = [] ∧ c = first ∧ region = .code ∧ maskFrom .code rest = after) ∨
        ∃ between, before = shown (first, (single region first).1) ++ between ∧
          maskFrom (single region first).2 rest = between ++ c :: after := by
      by_cases mem : c ∈ shown (first, (single region first).1)
      · obtain ⟨rfl, own⟩ := Prod.mk.inj (eq_of_mem_shown visible mem)
        cases region_of_single plain visible.2 own
        rw [single_plain plain] at found ⊢
        cases before with
        | nil => exact .inl ⟨rfl, rfl, rfl, (List.cons.inj found).2⟩
        | cons d before =>
          obtain ⟨rfl, later⟩ := List.cons.inj found
          exact .inr ⟨before, rfl, later⟩
      · exact .inr (split_append mem found)
    rcases first_shown with ⟨rfl, rfl, rfl, rfl⟩ | ⟨between, rfl, later⟩
    · exact ⟨[], rest, rfl, rfl, rfl, rfl⟩
    · obtain ⟨gap, tail, rfl, code, rfl, rfl⟩ := inner later
      have apart : ∀ next ∈ gap.head?, mark? region first next = none := by
        intro next head
        exact alone next (by simp [List.head?_append, Option.mem_def.mp head])
      exact ⟨first :: gap, tail, rfl, by rw [regionAfter_single apart, code],
        maskFrom_single apart, rfl⟩

/-! ### Seams in code -/

/-- Two characters of code that form a mark, or a quote after the end of a literal or an identifier
that stands for a doubled one. -/
def joined (left right : Char) : Bool :=
  (left = '-' && right = '-') || (left = '/' && right = '*') ||
    (left = '\'' && right = '\'') || (left = '"' && right = '"')

/-- The same where one of the sides may be empty. -/
def meets (left right : Option Char) : Bool :=
  left.any (fun first => right.any (fun second => joined first second))

theorem isSome_mark?_eq_joined {region : Region} {c : Char} (code : (single region c).2 = .code)
    (next : Char) : (mark? region c next).isSome = joined c next := by
  cases region <;> simp only [single, mark?, joined] at code ⊢ <;> grind

theorem maskFrom_ne_nil {region : Region} {chars : List Char} (nonempty : chars ≠ []) :
    maskFrom region chars ≠ [] := by
  rw [maskFrom_eq]
  intro blank
  have none : labelFrom region chars = [] := by
    cases labels : labelFrom region chars with
    | nil => rfl
    | cons label rest => simp [labels, shown_ne_nil] at blank
  have size := length_labelFrom region chars
  rw [none] at size
  exact nonempty (List.eq_nil_of_length_eq_zero size.symm)

theorem getLast?_append_maskFrom (front : List Char) {region : Region} {chars : List Char}
    (nonempty : chars ≠ []) :
    (front ++ maskFrom region chars).getLast? = (maskFrom region chars).getLast? := by
  have found : (maskFrom region chars).getLast?.isSome := by
    simpa using maskFrom_ne_nil nonempty
  rw [List.getLast?_append, Option.or_of_isSome found]

/-- Where a text ends in code, its last character shows whether it is open to a mark. -/
theorem meets_getLast?_maskFrom {region : Region} {first : List Char}
    (code : regionAfter region first = .code) (next : Char) :
    meets (maskFrom region first).getLast? (some next) =
      (openEnd? region first).any (fun place => (mark? place.1 place.2 next).isSome) := by
  fun_induction openEnd? region first with
  | case1 region => cases region <;> rfl
  | case2 region c =>
    have own : (single region c).1 = .code := single_to_code code
    rw [maskFrom_eq]
    simp [labelFrom, shown, own, meets, isSome_mark?_eq_joined code]
  | case3 region c second rest within after mark inner =>
    rw [regionAfter_mark mark] at code
    rw [maskFrom_mark mark, ← inner code]
    cases rest with
    | nil =>
      -- Only the end of a block comment leads back to code, and it is shown as blanks.
      cases code
      obtain ⟨rfl, rfl⟩ := mark?_to_code mark
      have blank : (shown ('/', .blockComment)).getLast? = some ' ' := by decide
      rw [maskFrom, List.append_nil, List.getLast?_append, blank]
      rfl
    | cons third rest => rw [getLast?_append_maskFrom _ (by simp)]
  | case4 region c second rest alone inner =>
    have first : ∀ more ∈ (second :: rest).head?, mark? region c more = none := by simpa using alone
    rw [regionAfter_single first] at code
    rw [maskFrom_single first, getLast?_append_maskFrom _ (by simp), inner code]

theorem apart_iff {region : Region} {first second : List Char}
    (code : regionAfter region first = .code) :
    Apart region first second ↔ meets (maskFrom region first).getLast? second.head? = false := by
  cases second with
  | nil => simp [Apart, meets]
  | cons next rest =>
    rw [List.head?_cons, meets_getLast?_maskFrom code]
    cases place : openEnd? region first <;> simp [Apart, place]

theorem maskChars_append {first second : List Char} (code : regionAfter .code first = .code)
    (free : meets (maskChars first).getLast? second.head? = false) :
    maskChars (first ++ second) = maskChars first ++ maskChars second := by
  have apart : Apart .code first second := (apart_iff code).mpr free
  simp only [maskChars, maskFrom_eq, labelFrom_append apart, code, List.flatMap_append]

theorem covered_append {first second : List Char} (code : regionAfter .code first = .code)
    (free : meets (maskChars first).getLast? second.head? = false) :
    covered (first ++ second) = covered first ++ covered second := by
  have apart : Apart .code first second := (apart_iff code).mpr free
  rw [covered, labelFrom_append apart, code, coverage_append]
  rfl

/-- A mark across a seam in code takes a character of code away on its left. -/
theorem labelFrom_append_meets {first : List Char} {next : Char} (rest : List Char)
    (code : regionAfter .code first = .code)
    (met : meets (maskFrom .code first).getLast? (some next) = true) :
    ∃ labels c within after, within ≠ .code ∧ labelFrom .code first = labels ++ [(c, .code)] ∧
      labelFrom .code (first ++ next :: rest) =
        labels ++ (c, within) :: (next, within) :: labelFrom after rest := by
  rw [meets_getLast?_maskFrom code] at met
  cases opened : openEnd? .code first with
  | none => simp [opened] at met
  | some place =>
    obtain ⟨inner, c⟩ := place
    simp only [opened, Option.any_some, Option.isSome_iff_exists] at met
    obtain ⟨⟨within, after⟩, mark⟩ := met
    obtain ⟨labels, before, whole⟩ := labelFrom_append_mark opened mark rest
    rw [regionAfter_of_openEnd? opened] at code
    rw [single_to_code code] at before
    exact ⟨labels, c, within, after, mark?_ne_code mark, before, whole⟩

end QueryComposer.Lexical
