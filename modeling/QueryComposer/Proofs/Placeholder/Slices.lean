import QueryComposer.Proofs.Lexical.Seams
import QueryComposer.Proofs.Placeholder.Scan

set_option autoImplicit false

/-!
The placeholders of a text cut it into pieces. Every piece but the last ends in code, no placeholder
begins inside of one, and the places of a placeholder are those of its own characters.
-/

namespace QueryComposer.Placeholder

open QueryComposer.Lexical QueryComposer.Text

/-- The placeholder as it stands in the text. -/
def token (placeholder : Placeholder) : List Char :=
  match placeholder.kind with
  | .named => ':' :: placeholder.name.toList
  | .positional => ['?']

/-- A text that placeholders cut into pieces, from a place on, with the character before it. -/
inductive Slices : Nat → Option Char → List Char → List Placeholder → Prop
  | last {offset : Nat} {previous : Option Char} {gap : List Char}
      (quiet : silent previous (maskChars gap) none = true) : Slices offset previous gap []
  | next {offset : Nat} {previous : Option Char} {gap rest : List Char} {placeholder : Placeholder}
      {others : List Placeholder}
      (quiet : silent previous (maskChars gap) placeholder.token.head? = true)
      (code : regionAfter .code gap = .code)
      (plain : placeholder.token.all isPlain = true)
      (starts : placeholder.start = offset + byteLength gap)
      (stops : placeholder.stop = placeholder.start + byteLength placeholder.token)
      (further : Slices placeholder.stop placeholder.token.getLast? rest others) :
      Slices offset previous (gap ++ placeholder.token ++ rest) (placeholder :: others)

theorem continuesName_plain {c : Char} (continues : Literal.continuesName c = true) :
    isPlain c = true ∧ c ≠ ':' ∧ c ≠ '?' := by
  have other (d : Char) (stops : Literal.continuesName d = false) : c ≠ d := by
    rintro rfl
    simp [continues] at stops
  refine ⟨?_, other ':' (by decide), other '?' (by decide)⟩
  simp [isPlain, other '-' (by decide), other '/' (by decide), other '*' (by decide),
    other '\'' (by decide), other '"' (by decide)]

theorem continuesName_utf8Size {c : Char} (continues : Literal.continuesName c = true) :
    c.utf8Size = 1 := by
  simp only [Literal.continuesName, Literal.startsName, isAsciiLetter, isAsciiDigit,
    Bool.or_eq_true, Bool.and_eq_true, decide_eq_true_eq] at continues
  have small : c.val ≤ 0x7F := by
    rcases continues with ((⟨_, high⟩ | ⟨_, high⟩) | rfl) | ⟨_, high⟩
    · exact UInt32.le_trans high (by decide)
    · exact UInt32.le_trans high (by decide)
    · decide
    · exact UInt32.le_trans high (by decide)
  simp [Char.utf8Size, small]

theorem byteLength_name {name : List Char} (continues : name.all Literal.continuesName = true) :
    byteLength name = name.length := by
  induction name with
  | nil => rfl
  | cons c name inner =>
    rw [List.all_cons, Bool.and_eq_true] at continues
    rw [byteLength, continuesName_utf8Size continues.1, inner continues.2, List.length_cons,
      Nat.add_comm]

theorem name_plain {name : List Char} (continues : name.all Literal.continuesName = true) :
    name.all isPlain = true := by
  rw [List.all_eq_true] at continues ⊢
  exact fun c mem => (continuesName_plain (continues c mem)).1

theorem takeWhile_maskChars (chars : List Char) :
    (maskChars chars).takeWhile Literal.continuesName =
      chars.takeWhile Literal.continuesName := by
  induction chars with
  | nil => rfl
  | cons c rest inner =>
    by_cases continues : Literal.continuesName c = true
    · have plain : [c].all isPlain = true := by simpa using (continuesName_plain continues).1
      rw [← List.singleton_append, maskChars_plain plain, List.singleton_append,
        List.takeWhile_cons_of_pos continues, inner]
      simp [continues]
    · have stops : ∀ first ∈ (maskChars (c :: rest)).head?, Literal.continuesName first ≠ true := by
        intro first head
        rcases head?_maskChars (c :: rest) with same | blank
        · rw [same] at head
          cases head
          exact continues
        · rw [blank] at head
          cases head
          decide
      rw [List.takeWhile_cons_of_neg continues]
      cases masked : maskChars (c :: rest) with
      | nil => rfl
      | cons first tail =>
        exact List.takeWhile_cons_of_neg (stops first (by rw [masked]; rfl))

theorem silent_name {name : List Char} (continues : name.all Literal.continuesName = true)
    (previous next : Option Char) : silent previous name next = true := by
  induction name generalizing previous with
  | nil => rfl
  | cons c name inner =>
    rw [List.all_cons, Bool.and_eq_true] at continues
    obtain ⟨-, colon, question⟩ := continuesName_plain continues.1
    simp [silent, beginsAt, colon, question, inner continues.2]

theorem slices_named {offset : Nat} {previous : Option Char} {gap name rest : List Char}
    {others : List Placeholder} (quiet : silent previous (maskChars gap) (some ':') = true)
    (code : regionAfter .code gap = .code)
    (continues : name.all Literal.continuesName = true)
    (further : Slices (offset + byteLength gap + 1 + name.length)
      (name.getLast?.or (some ':')) rest others) :
    Slices offset previous (gap ++ ':' :: (name ++ rest))
      (namedAt (offset + byteLength gap) name :: others) := by
  have token : (namedAt (offset + byteLength gap) name).token = ':' :: name :=
    congrArg (':' :: ·) String.toList_ofList
  have cut : gap ++ ':' :: (name ++ rest) =
      gap ++ (namedAt (offset + byteLength gap) name).token ++ rest := by
    simp [token]
  rw [cut]
  refine .next (by rw [token]; exact quiet) code ?_ rfl ?_ ?_
  · rw [token, List.all_cons, name_plain continues]
    rfl
  · rw [token, byteLength, byteLength_name continues, ← Nat.add_assoc]
    rfl
  · rw [token, List.getLast?_cons]
    cases last : name.getLast? <;> simpa [last, namedAt] using further

theorem slices_positional {offset number : Nat} {previous : Option Char} {gap rest : List Char}
    {others : List Placeholder} (quiet : silent previous (maskChars gap) (some '?') = true)
    (code : regionAfter .code gap = .code)
    (further : Slices (offset + byteLength gap + 1) (some '?') rest others) :
    Slices offset previous (gap ++ '?' :: rest)
      (positionalAt (offset + byteLength gap) number :: others) := by
  have cut : gap ++ '?' :: rest =
      gap ++ (positionalAt (offset + byteLength gap) number).token ++ rest := by
    simp [token, positionalAt]
  rw [cut]
  exact .next quiet code rfl rfl rfl further

theorem scanFrom_name (offset : Nat) (previous : Option Char) (questions : Nat)
    (chars : List Char) :
    scanFrom offset previous questions (maskChars chars) =
      scanFrom (offset + (chars.takeWhile Literal.continuesName).length)
        ((chars.takeWhile Literal.continuesName).getLast?.or previous) questions
        (maskChars (chars.dropWhile Literal.continuesName)) := by
  have continues : (chars.takeWhile Literal.continuesName).all Literal.continuesName = true :=
    List.all_takeWhile
  have whole : maskChars chars = chars.takeWhile Literal.continuesName ++
      maskChars (chars.dropWhile Literal.continuesName) := by
    rw [← maskChars_plain (name_plain continues), List.takeWhile_append_dropWhile]
  rw [whole, scanFrom_silent (silent_name continues _ _), byteLength_name continues]

/-- The scan of a text finds the placeholders that cut it. -/
theorem slices_scanFrom (offset : Nat) (previous : Option Char) (questions : Nat)
    (chars : List Char) :
    Slices offset previous chars (scanFrom offset previous questions (maskChars chars)) := by
  rcases silent_or_first previous (maskChars chars) with quiet | first
  · rw [scanFrom_eq_nil_iff.mpr quiet]
    exact .last quiet
  · obtain ⟨before, c, after, found, quiet, begins⟩ := first
    simp only [beginsAt, Bool.or_eq_true, Bool.and_eq_true, decide_eq_true_eq,
      Bool.not_eq_true'] at begins
    rw [found, scanFrom_silent quiet]
    rcases begins with ⟨rfl, begins⟩ | ⟨rfl, free⟩
    · obtain ⟨gap, rest, rfl, code, rfl, rfl⟩ :=
        split_of_maskFrom (by decide) (by decide) found
      have continues : (rest.takeWhile Literal.continuesName).all Literal.continuesName = true :=
        List.all_takeWhile
      have shorter : (rest.dropWhile Literal.continuesName).length <
          (gap ++ ':' :: rest).length := by
        have fewer := (List.dropWhile_suffix (l := rest) Literal.continuesName).length_le
        simp only [List.length_append, List.length_cons]
        omega
      have further := slices_scanFrom
        (offset + byteLength gap + 1 + (rest.takeWhile Literal.continuesName).length)
        ((rest.takeWhile Literal.continuesName).getLast?.or (some ':')) questions
        (rest.dropWhile Literal.continuesName)
      rw [scanFrom_colon begins, byteLength_maskFrom, ← maskChars, takeWhile_maskChars,
        scanFrom_name]
      have sliced := slices_named quiet code continues further
      rwa [List.takeWhile_append_dropWhile] at sliced
    · obtain ⟨gap, rest, rfl, code, rfl, rfl⟩ :=
        split_of_maskFrom (by decide) (by decide) found
      have shorter : rest.length < (gap ++ '?' :: rest).length := by
        simp only [List.length_append, List.length_cons]
        omega
      have further := slices_scanFrom (offset + byteLength gap + 1) (some '?') (questions + 1) rest
      rw [scanFrom_question free, byteLength_maskFrom]
      exact slices_positional quiet code further
termination_by chars.length

theorem slices_scan (sql : String) : Slices 0 none sql.toList (scan sql) :=
  slices_scanFrom 0 none 0 sql.toList

/-- A text that placeholders cut into pieces, up to the end of one of them and from there on. -/
theorem Slices.split {offset : Nat} {previous : Option Char} {chars : List Char}
    {earlier later : List Placeholder} {placeholder : Placeholder}
    (sliced : Slices offset previous chars (earlier ++ placeholder :: later)) :
    ∃ kept rest, chars = kept ++ placeholder.token ++ rest ∧
      placeholder.start = offset + byteLength kept ∧
      placeholder.stop = placeholder.start + byteLength placeholder.token ∧
      Slices placeholder.stop placeholder.token.getLast? rest later := by
  induction earlier generalizing offset previous chars with
  | nil =>
    cases sliced with
    | next quiet code plain starts stops further => exact ⟨_, _, rfl, starts, stops, further⟩
  | cons first earlier inner =>
    cases sliced with
    | @next _ _ piece rest _ _ quiet code plain starts stops further =>
      obtain ⟨kept, tail, rfl, start, stop, sliced⟩ := inner further
      refine ⟨piece ++ first.token ++ kept, tail, by simp, ?_, stop, sliced⟩
      rw [byteLength_append, byteLength_append]
      omega

end QueryComposer.Placeholder
