import QueryComposer.Proofs.Placeholder.Search
import QueryComposer.Proofs.Text.Split

set_option autoImplicit false

/-!
The places of placeholders. Whether one begins at a character of a masked text depends on the
characters next to it and on the name behind a colon, and the search finds all of these places.
-/

namespace QueryComposer.Placeholder

open QueryComposer.Lexical QueryComposer.Text

/-- A colon at a place of the text, not behind a colon, an underscore, a letter or a number, with a
name behind it that goes on as long as it can. -/
def NamedIn (chars : List Char) (placeholder : Placeholder) : Prop :=
  ∃ before name after, chars = before ++ ':' :: (name ++ after) ∧
    (∀ last ∈ before.getLast?, last ≠ ':' ∧ last ≠ '_' ∧ isAlphanumeric last = false) ∧
    Literal.isName name = true ∧ (∀ next ∈ after.head?, Literal.continuesName next = false) ∧
    placeholder = namedAt (byteLength before) name

/-- A question mark at a place of the text, neither before `|` nor before `&`. -/
def QuestionIn (chars : List Char) (start : Nat) : Prop :=
  ∃ before after, chars = before ++ '?' :: after ∧
    (∀ next ∈ after.head?, next ≠ '|' ∧ next ≠ '&') ∧ start = byteLength before

theorem exists_split_cons_iff {α : Type} {c item : α} {rest : List α}
    {holds : List α → List α → Prop} :
    (∃ before after, c :: rest = before ++ item :: after ∧ holds before after) ↔
      (c = item ∧ holds [] rest) ∨
        ∃ before after, rest = before ++ item :: after ∧ holds (c :: before) after := by
  constructor
  · rintro ⟨before, after, whole, held⟩
    cases before with
    | nil =>
      obtain ⟨rfl, rfl⟩ := List.cons.inj whole
      exact .inl ⟨rfl, held⟩
    | cons first before =>
      obtain ⟨rfl, rfl⟩ := List.cons.inj whole
      exact .inr ⟨before, after, rfl, held⟩
  · rintro (⟨rfl, held⟩ | ⟨before, after, rfl, held⟩)
    · exact ⟨[], rest, rfl, held⟩
    · exact ⟨c :: before, after, rfl, held⟩

theorem mem_scanFrom_named_iff {offset questions : Nat} {previous : Option Char}
    {masked : List Char} {placeholder : Placeholder} :
    (placeholder ∈ scanFrom offset previous questions masked ∧ placeholder.kind = .named) ↔
      ∃ before after, masked = before ++ ':' :: after ∧
        beginsName (before.getLast?.or previous) after.head? = true ∧
        placeholder = namedAt (offset + byteLength before)
          (after.takeWhile Literal.continuesName) := by
  induction masked generalizing offset previous questions with
  | nil => simp [scanFrom]
  | cons c rest inner =>
    have later (questions : Nat) := @inner (offset + c.utf8Size) questions (some c)
    rw [exists_split_cons_iff]
    simp only [getLast?_cons_or, byteLength, ← Nat.add_assoc, ← later questions]
    rcases begins_cases previous c rest.head? with ⟨rfl, begins⟩ | ⟨rfl, free⟩ | silent
    · rw [scanFrom_colon begins, List.mem_cons, or_and_right]
      refine or_congr ⟨fun first => ⟨rfl, begins, first.1⟩, ?_⟩ Iff.rfl
      rintro ⟨-, -, rfl⟩
      exact ⟨rfl, rfl⟩
    · rw [scanFrom_question free, List.mem_cons, or_and_right]
      refine or_congr ⟨?_, fun first => absurd first.1 (by decide)⟩
        ((later (questions + 1)).trans (later questions).symm)
      rintro ⟨rfl, named⟩
      cases named
    · rw [scanFrom_pass silent]
      refine (or_iff_right ?_).symm
      rintro ⟨rfl, begins, -⟩
      rw [List.getLast?_nil, Option.none_or] at begins
      simp [beginsAt, begins] at silent

theorem exists_positionalAt_mem_iff {offset questions start : Nat} {previous : Option Char}
    {masked : List Char} :
    (∃ number, positionalAt start number ∈ scanFrom offset previous questions masked) ↔
      ∃ before after, masked = before ++ '?' :: after ∧ blocksQuestion after.head? = false ∧
        start = offset + byteLength before := by
  induction masked generalizing offset previous questions with
  | nil => simp [scanFrom]
  | cons c rest inner =>
    have later (questions : Nat) := @inner (offset + c.utf8Size) questions (some c)
    rw [exists_split_cons_iff]
    simp only [byteLength, ← Nat.add_assoc, ← later questions]
    rcases begins_cases previous c rest.head? with ⟨rfl, begins⟩ | ⟨rfl, free⟩ | silent
    · rw [scanFrom_colon begins]
      simp only [List.mem_cons, exists_or]
      refine or_congr ⟨?_, fun first => absurd first.1 (by decide)⟩ Iff.rfl
      rintro ⟨number, same⟩
      cases congrArg kind same
    · rw [scanFrom_question free]
      simp only [List.mem_cons, exists_or]
      refine or_congr ⟨?_, ?_⟩ ((later (questions + 1)).trans (later questions).symm)
      · rintro ⟨number, same⟩
        exact ⟨trivial, free, congrArg Placeholder.start same⟩
      · rintro ⟨-, -, rfl⟩
        exact ⟨questions + 1, rfl⟩
    · rw [scanFrom_pass silent]
      refine (or_iff_right ?_).symm
      rintro ⟨rfl, free, -⟩
      simp [beginsAt, free] at silent

/-- Question marks are numbered from left to right. -/
theorem filter_scanFrom_numbered {offset questions : Nat} {previous : Option Char}
    {masked : List Char} {index : Nat} {placeholder : Placeholder}
    (found : ((scanFrom offset previous questions masked).filter (fun found => !isNamed found))[
      index]? = some placeholder) :
    placeholder = positionalAt placeholder.start (questions + index + 1) := by
  induction masked generalizing offset previous questions index with
  | nil => simp [scanFrom] at found
  | cons c rest inner =>
    rcases begins_cases previous c rest.head? with ⟨rfl, begins⟩ | ⟨rfl, free⟩ | silent
    · rw [scanFrom_colon begins, List.filter_cons,
        if_neg (by simp [isNamed, namedAt])] at found
      exact inner found
    · rw [scanFrom_question free, List.filter_cons,
        if_pos (by simp [isNamed, positionalAt])] at found
      cases index with
      | zero =>
        cases found
        rfl
      | succ index =>
        rw [List.getElem?_cons_succ] at found
        rw [inner found]
        congr 1
        omega
    · rw [scanFrom_pass silent] at found
      exact inner found

theorem blocksName_eq_false_iff {previous : Option Char} :
    blocksName previous = false ↔
      ∀ last ∈ previous, last ≠ ':' ∧ last ≠ '_' ∧ isAlphanumeric last = false := by
  cases previous <;> simp [blocksName, and_assoc]

theorem blocksQuestion_eq_false_iff {next : Option Char} :
    blocksQuestion next = false ↔ ∀ c ∈ next, c ≠ '|' ∧ c ≠ '&' := by
  cases next <;> simp [blocksQuestion]

/-- The name behind a colon is what can be taken as one. -/
theorem namedIn_iff {chars : List Char} {placeholder : Placeholder} :
    NamedIn chars placeholder ↔ ∃ before after, chars = before ++ ':' :: after ∧
      beginsName before.getLast? after.head? = true ∧
      placeholder = namedAt (byteLength before) (after.takeWhile Literal.continuesName) := by
  constructor
  · rintro ⟨before, name, after, rfl, free, isName, stops, rfl⟩
    cases name with
    | nil => cases isName
    | cons c name =>
      rw [Literal.isName, Bool.and_eq_true] at isName
      have continues : ∀ d ∈ c :: name, Literal.continuesName d = true := by
        intro d listed
        rcases List.mem_cons.mp listed with rfl | later
        · simp [Literal.continuesName, isName.1]
        · exact List.all_eq_true.mp isName.2 d later
      have taken := (takeWhile_run continues stops).1
      refine ⟨before, c :: name ++ after, rfl, ?_, by rw [taken]⟩
      simp [beginsName, blocksName_eq_false_iff.mpr free, isName.1]
  · rintro ⟨before, after, rfl, begins, rfl⟩
    rw [beginsName, Bool.and_eq_true, Bool.not_eq_true'] at begins
    refine ⟨before, after.takeWhile Literal.continuesName, after.dropWhile Literal.continuesName,
      by rw [List.takeWhile_append_dropWhile], blocksName_eq_false_iff.mp begins.1, ?_, ?_, rfl⟩
    · cases after with
      | nil => simp at begins
      | cons c after =>
        have starts : Literal.startsName c = true := begins.2
        rw [List.takeWhile_cons_of_pos (by simp [Literal.continuesName, starts]), Literal.isName,
          starts, Bool.true_and]
        exact List.all_takeWhile
    · intro next head
      have stops := List.head?_dropWhile_not Literal.continuesName after
      rw [Option.mem_def.mp head] at stops
      exact Bool.eq_false_iff.mpr (by simpa using stops)

/-- The search finds placeholders one behind the other. The places of each are places of the text
itself, where the placeholder stands as it is written. Those with names are all that the masked text
holds, those without are at all places where it holds a question mark, and the latter are numbered
from left to right. -/
theorem search_finds_all_places (sql : String) :
    (search sql).Pairwise (fun first second => first.stop ≤ second.start) ∧
    (∀ placeholder ∈ search sql, placeholder.start < placeholder.stop ∧
      ∃ before after : String, sql = before ++ String.ofList placeholder.token ++ after ∧
        placeholder.start = before.utf8ByteSize ∧
        placeholder.stop = (before ++ String.ofList placeholder.token).utf8ByteSize) ∧
    (∀ placeholder, (placeholder ∈ search sql ∧ placeholder.kind = .named) ↔
      NamedIn (maskChars sql.toList) placeholder) ∧
    (∀ start, (∃ number, positionalAt start number ∈ search sql) ↔
      QuestionIn (maskChars sql.toList) start) ∧
    ∀ index placeholder,
      ((search sql).filter (fun found => !isNamed found))[index]? = some placeholder →
      placeholder = positionalAt placeholder.start (index + 1) := by
  rw [search_eq_scan]
  obtain ⟨wide, ordered⟩ := (slices_scan sql).ordered
  refine ⟨ordered, ?_, ?_, ?_, ?_⟩
  · intro placeholder listed
    refine ⟨(wide placeholder listed).2, ?_⟩
    obtain ⟨earlier, later, scanned⟩ := List.append_of_mem listed
    have sliced := slices_scan sql
    rw [scanned] at sliced
    obtain ⟨before, after, whole, starts, stops, -⟩ := sliced.split
    rw [Nat.zero_add] at starts
    refine ⟨String.ofList before, String.ofList after, ?_, ?_, ?_⟩
    · rw [← String.ofList_append, ← String.ofList_append, ← whole, String.ofList_toList]
    · rw [utf8ByteSize_ofList, starts]
    · rw [String.utf8ByteSize_append, utf8ByteSize_ofList, utf8ByteSize_ofList, stops, starts]
  · intro placeholder
    rw [scan, ofMasked, mem_scanFrom_named_iff, namedIn_iff]
    simp only [Option.or_none, Nat.zero_add]
  · intro start
    rw [scan, ofMasked, exists_positionalAt_mem_iff, QuestionIn]
    simp only [blocksQuestion_eq_false_iff, Nat.zero_add]
  · intro index placeholder found
    have numbered := filter_scanFrom_numbered found
    rwa [Nat.zero_add] at numbered

/-- Behind a letter of two bytes, a cast, a literal and a colon inside a word there are a name and a
question mark; a second one is an operator. -/
theorem nameAmongCasts_found :
    (namedAt 16 ['d'] ∈ search "é ::a ':b' x:c :d? ?| 1" ∧ (namedAt 16 ['d']).kind = .named) ∧
      ∃ number, positionalAt 18 number ∈ search "é ::a ':b' x:c :d? ?| 1" := by
  obtain ⟨-, -, names, questions, -⟩ := search_finds_all_places "é ::a ':b' x:c :d? ?| 1"
  constructor
  · have last : "é ::a '  ' x:c ".toList.getLast? = some ' ' := by decide +kernel
    have next : "? ?| 1".toList.head? = some '?' := by decide +kernel
    apply (names (namedAt 16 ['d'])).mpr
    refine ⟨"é ::a '  ' x:c ".toList, ['d'], "? ?| 1".toList, by decide +kernel, ?_,
      by decide +kernel, ?_, by decide +kernel⟩
    · rw [last]
      rintro c ⟨⟩
      decide
    · rw [next]
      rintro c ⟨⟩
      decide
  · have next : " ?| 1".toList.head? = some ' ' := by decide +kernel
    apply (questions 18).mpr
    refine ⟨"é ::a '  ' x:c :d".toList, " ?| 1".toList, by decide +kernel, ?_, by decide +kernel⟩
    rw [next]
    rintro c ⟨⟩
    decide

end QueryComposer.Placeholder
