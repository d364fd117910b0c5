import QueryComposer.Sql.Lexical

set_option autoImplicit false

/-!
What each character of an SQL text belongs to. The text is read from left to right; at some places
two characters are read together, as one mark. Masking shows the characters of code and blanks out
the others, each with as many blanks as it has bytes.
-/

namespace QueryComposer.Lexical

open QueryComposer.Text

/-! ### Reading -/

/-- Two characters that form a mark: what they belong to, and what comes after them. -/
def mark? : Region → Char → Char → Option (Region × Region)
  | .code, first, second =>
    if first = '-' ∧ second = '-' then some (.lineComment, .lineComment)
    else if first = '/' ∧ second = '*' then some (.blockComment, .blockComment)
    else none
  | .literal, first, second =>
    if first = '\'' ∧ second = '\'' then some (.literal, .literal) else none
  | .identifier, first, second =>
    if first = '"' ∧ second = '"' then some (.identifier, .identifier) else none
  | .lineComment, _, _ => none
  | .blockComment, first, second =>
    if first = '*' ∧ second = '/' then some (.blockComment, .code) else none

/-- What a character by itself belongs to, and what comes after it. -/
def single : Region → Char → Region × Region
  | .code, c =>
    if c = '\'' then (.code, .literal) else if c = '"' then (.code, .identifier) else (.code, .code)
  | .literal, c => if c = '\'' then (.code, .code) else (.literal, .literal)
  | .identifier, c => if c = '"' then (.code, .code) else (.identifier, .identifier)
  | .lineComment, c => if c = '\n' then (.code, .code) else (.lineComment, .lineComment)
  | .blockComment, _ => (.blockComment, .blockComment)

/-- The characters with what they belong to. Quotes at the ends of a literal or an identifier, and
the end of the line after a comment, count as code. -/
def labelFrom (region : Region) : List Char → List (Char × Region)
  | [] => []
  | [c] => [(c, (single region c).1)]
  | first :: second :: rest =>
    match mark? region first second with
    | some (within, after) => (first, within) :: (second, within) :: labelFrom after rest
    | none => (first, (single region first).1) :: labelFrom (single region first).2 (second :: rest)

/-- What the text after this one belongs to. -/
def regionAfter (region : Region) : List Char → Region
  | [] => region
  | [c] => (single region c).2
  | first :: second :: rest =>
    match mark? region first second with
    | some (_, after) => regionAfter after rest
    | none => regionAfter (single region first).2 (second :: rest)

/-- The last character, if it is not the end of a mark, with what the text before it leads to. -/
def openEnd? (region : Region) : List Char → Option (Region × Char)
  | [] => none
  | [c] => some (region, c)
  | first :: second :: rest =>
    match mark? region first second with
    | some (_, after) => openEnd? after rest
    | none => openEnd? (single region first).2 (second :: rest)

/-- A character as the mask shows it. -/
def shown : Char × Region → List Char
  | (c, region) =>
    if region = .code ∨ (region = .blockComment ∧ c = '\n') then [c] else blanksFor c

theorem mark?_ne_code {region within after : Region} {first second : Char}
    (mark : mark? region first second = some (within, after)) : within ≠ .code := by
  cases region <;> simp only [mark?] at mark <;> grind

theorem mark?_to_code {region within : Region} {first second : Char}
    (mark : mark? region first second = some (within, .code)) :
    within = .blockComment ∧ second = '/' := by
  cases region <;> simp only [mark?] at mark <;> grind

theorem single_to_code {region : Region} {c : Char} (code : (single region c).2 = .code) :
    (single region c).1 = .code := by
  cases region <;> simp only [single] at code ⊢ <;> grind

theorem labelFrom_mark {region within after : Region} {first second : Char}
    (mark : mark? region first second = some (within, after)) (rest : List Char) :
    labelFrom region (first :: second :: rest) =
      (first, within) :: (second, within) :: labelFrom after rest := by
  rw [labelFrom, mark]

theorem labelFrom_single {region : Region} {c : Char} {rest : List Char}
    (alone : ∀ next ∈ rest.head?, mark? region c next = none) :
    labelFrom region (c :: rest) =
      (c, (single region c).1) :: labelFrom (single region c).2 rest := by
  cases rest with
  | nil => rfl
  | cons next rest => rw [labelFrom, alone next rfl]

theorem regionAfter_mark {region within after : Region} {first second : Char}
    (mark : mark? region first second = some (within, after)) (rest : List Char) :
    regionAfter region (first :: second :: rest) = regionAfter after rest := by
  rw [regionAfter, mark]

theorem regionAfter_single {region : Region} {c : Char} {rest : List Char}
    (alone : ∀ next ∈ rest.head?, mark? region c next = none) :
    regionAfter region (c :: rest) = regionAfter (single region c).2 rest := by
  cases rest with
  | nil => rfl
  | cons next rest => rw [regionAfter, alone next rfl]

/-- Texts grow in front by a mark or by a character that begins none. -/
@[elab_as_elim]
theorem reading_induction {motive : Region → List Char → Prop}
    (nil : ∀ region, motive region [])
    (mark : ∀ region first second rest within after,
      mark? region first second = some (within, after) → motive after rest →
        motive region (first :: second :: rest))
    (alone : ∀ region c rest, (∀ next ∈ rest.head?, mark? region c next = none) →
      motive (single region c).2 rest → motive region (c :: rest))
    (region : Region) (chars : List Char) : motive region chars := by
  fun_induction labelFrom region chars with
  | case1 region => exact nil region
  | case2 region c => exact alone region c [] (by simp) (nil _)
  | case3 region first second rest within after found inner =>
    exact mark region first second rest within after found inner
  | case4 region first second rest apart inner =>
    exact alone region first (second :: rest) (by simpa using apart) inner

theorem maskFrom_mark {region within after : Region} {first second : Char}
    (mark : mark? region first second = some (within, after)) (rest : List Char) :
    maskFrom region (first :: second :: rest) =
      shown (first, within) ++ shown (second, within) ++ maskFrom after rest := by
  cases region <;> simp only [mark?] at mark
  case code =>
    split at mark
    · next dashes =>
      obtain ⟨rfl, rfl⟩ := dashes
      cases mark
      rfl
    · split at mark
      · next opening =>
        obtain ⟨rfl, rfl⟩ := opening
        cases mark
        rfl
      · cases mark
  case lineComment => cases mark
  all_goals
    split at mark
    · next both =>
      obtain ⟨rfl, rfl⟩ := both
      cases mark
      rfl
    · cases mark

theorem maskFrom_single {region : Region} {c : Char} {rest : List Char}
    (alone : ∀ next ∈ rest.head?, mark? region c next = none) :
    maskFrom region (c :: rest) =
      shown (c, (single region c).1) ++ maskFrom (single region c).2 rest := by
  -- No mark begins here, so the equations for marks do not apply.
  have apart (next : Char) (tail : List Char) (more : rest = next :: tail) :
      mark? region c next = none := alone next (by rw [more]; rfl)
  cases region <;> simp only [mark?] at apart
  case code =>
    rw [maskFrom]
    · by_cases quote : c = '\''
      · simp [single, shown, quote]
      · by_cases double : c = '"' <;> simp [single, shown, quote, double]
    · rintro tail rfl rfl
      simpa using apart _ _ rfl
    · rintro tail rfl rfl
      simpa using apart _ _ rfl
  case lineComment =>
    rw [maskFrom]
    by_cases ends : c = '\n' <;> simp [single, shown, ends]
  case blockComment =>
    rw [maskFrom]
    · by_cases ends : c = '\n' <;> simp [single, shown, ends]
    · rintro tail rfl rfl
      simpa using apart _ _ rfl
  all_goals
    rw [maskFrom]
    · split <;> simp_all [single, shown]
    · rintro tail rfl rfl
      simpa using apart _ _ rfl

theorem maskFrom_eq (region : Region) (chars : List Char) :
    maskFrom region chars = (labelFrom region chars).flatMap shown := by
  induction region, chars using reading_induction with
  | nil region => cases region <;> rfl
  | mark region first second rest within after mark inner =>
    rw [maskFrom_mark mark, labelFrom_mark mark, inner]
    simp
  | alone region c rest alone inner =>
    rw [maskFrom_single alone, labelFrom_single alone, inner]
    simp

theorem labelFrom_chars (region : Region) (chars : List Char) :
    (labelFrom region chars).map Prod.fst = chars := by
  fun_induction labelFrom region chars <;> simp_all

theorem length_labelFrom (region : Region) (chars : List Char) :
    (labelFrom region chars).length = chars.length := by
  rw [← List.length_map, labelFrom_chars]

theorem shown_ne_nil (label : Char × Region) : shown label ≠ [] := by
  obtain ⟨c, region⟩ := label
  have wide := c.utf8Size_pos
  by_cases visible : region = .code ∨ (region = .blockComment ∧ c = '\n')
  · simp [shown, visible]
  · simp [shown, visible, blanksFor]
    omega

theorem head?_shown (label : Char × Region) :
    (shown label).head? = some label.1 ∨ (shown label).head? = some ' ' := by
  obtain ⟨c, region⟩ := label
  have wide := c.utf8Size_pos
  by_cases visible : region = .code ∨ (region = .blockComment ∧ c = '\n')
  · simp [shown, visible]
  · right
    simp [shown, visible, blanksFor, List.head?_replicate]
    omega

/-! ### Bytes -/

/-- For each byte, whether it is inside of a literal, a quoted identifier or a comment. -/
def coverage (labels : List (Char × Region)) : List Bool :=
  labels.flatMap (fun label => List.replicate label.1.utf8Size (label.2 ≠ .code))

/-- The same for a text that begins in code. -/
def covered (chars : List Char) : List Bool :=
  coverage (labelFrom .code chars)

theorem coverage_cons (label : Char × Region) (labels : List (Char × Region)) :
    coverage (label :: labels) =
      List.replicate label.1.utf8Size (decide (label.2 ≠ .code)) ++ coverage labels :=
  List.flatMap_cons

theorem coverage_append (first second : List (Char × Region)) :
    coverage (first ++ second) = coverage first ++ coverage second :=
  List.flatMap_append

theorem length_coverage (labels : List (Char × Region)) :
    (coverage labels).length = byteLength (labels.map Prod.fst) := by
  induction labels with
  | nil => rfl
  | cons label labels inner =>
    rw [coverage_cons, List.length_append, List.length_replicate, inner, List.map_cons, byteLength]

theorem length_covered (chars : List Char) : (covered chars).length = byteLength chars := by
  rw [covered, length_coverage, labelFrom_chars]

theorem byteLength_append (first second : List Char) :
    byteLength (first ++ second) = byteLength first + byteLength second := by
  induction first with
  | nil => simp [byteLength]
  | cons c first inner => rw [List.cons_append, byteLength, byteLength, inner, Nat.add_assoc]

theorem byteLength_blanks (count : Nat) : byteLength (List.replicate count ' ') = count := by
  induction count with
  | zero => rfl
  | succ count inner =>
    rw [List.replicate_succ, byteLength, inner, Nat.add_comm]
    rfl

theorem byteLength_shown (label : Char × Region) :
    byteLength (shown label) = label.1.utf8Size := by
  obtain ⟨c, region⟩ := label
  by_cases visible : region = .code ∨ (region = .blockComment ∧ c = '\n')
  · simp [shown, visible, byteLength]
  · simp [shown, visible, blanksFor, byteLength_blanks]

/-- Masking keeps the places of characters, counted in bytes. -/
theorem byteLength_maskFrom (region : Region) (chars : List Char) :
    byteLength (maskFrom region chars) = byteLength chars := by
  induction region, chars using reading_induction with
  | nil region => cases region <;> rfl
  | mark region first second rest within after mark inner =>
    rw [maskFrom_mark mark, byteLength_append, byteLength_append, byteLength_shown,
      byteLength_shown, inner, byteLength, byteLength, Nat.add_assoc]
  | alone region c rest alone inner =>
    rw [maskFrom_single alone, byteLength_append, byteLength_shown, inner, byteLength]

end QueryComposer.Lexical
