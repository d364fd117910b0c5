import QueryComposer.Proofs.Lexical.Masked
import QueryComposer.Sql.Literal

set_option autoImplicit false

/-!
Quoted texts. Without its outer quotes, and with every two quotes inside taken as one, a quoted text
is the text again; and it is one literal wherever it stands in code without a quote next to it.
-/

namespace QueryComposer.Literal

open QueryComposer.Lexical QueryComposer.Text

/-! ### Reading a quoted text -/

/-- Every two quotes as one. -/
def undoubleQuotes : List Char → List Char
  | [] => []
  | '\'' :: '\'' :: rest => '\'' :: undoubleQuotes rest
  | c :: rest => c :: undoubleQuotes rest

/-- A text without its first and its last character, and with every two quotes as one. -/
def unquote (text : String) : String :=
  String.ofList (undoubleQuotes text.toList.tail.dropLast)

theorem undoubleQuotes_doubleQuotes (chars : List Char) :
    undoubleQuotes (doubleQuotes chars) = chars := by
  induction chars with
  | nil => rfl
  | cons c rest inner =>
    rw [doubleQuotes]
    split
    · next same =>
      subst same
      rw [undoubleQuotes, inner]
    · next other =>
      rw [undoubleQuotes, inner]
      rintro tail rfl
      exact absurd rfl other

theorem unquote_quote (text : String) : unquote (quote text) = text := by
  rw [unquote, quote, String.toList_ofList, quoteChars, List.tail_cons, List.dropLast_concat,
    undoubleQuotes_doubleQuotes, String.ofList_toList]

/-! ### A quoted text among others -/

theorem getLast?_of_openEnd? {region inner : Region} {chars : List Char} {c : Char}
    (opened : openEnd? region chars = some (inner, c)) : chars.getLast? = some c := by
  fun_induction openEnd? region chars with
  | case1 region => cases opened
  | case2 region d =>
    cases opened
    rfl
  | case3 region d e rest within after mark step =>
    have last := step opened
    rw [List.getLast?_cons, List.getLast?_cons, last]
    rfl
  | case4 region d e rest alone step => rw [List.getLast?_cons_cons, step opened]

/-- A quote forms a mark with another quote only. -/
theorem mark?_quote {region : Region} {c : Char} (other : c ≠ '\'') :
    mark? region c '\'' = none := by
  cases region <;> simp [mark?, other]

theorem Apart.of_quote {front behind : List Char} (free : front.getLast? ≠ some '\'')
    (quoted : behind.head? = some '\'') : Apart .code front behind := by
  rintro ⟨region, c⟩ opened next head
  rw [quoted] at head
  cases head
  apply mark?_quote
  rintro rfl
  exact free (getLast?_of_openEnd? opened)

/-- From the start of a literal on, doubled quotes are blanks and a single one is its end. -/
theorem maskFrom_doubleQuotes (chars : List Char) {behind : List Char}
    (free : behind.head? ≠ some '\'') :
    maskFrom .literal (doubleQuotes chars ++ '\'' :: behind) =
      List.replicate (byteLength (doubleQuotes chars)) ' ' ++ '\'' :: maskChars behind := by
  induction chars with
  | nil =>
    have alone : ∀ next ∈ behind.head?, mark? .literal '\'' next = none := by
      intro next head
      have other : next ≠ '\'' := by
        rintro rfl
        exact free head
      simp [mark?, other]
    rw [doubleQuotes, List.nil_append, maskFrom_single alone]
    rfl
  | cons c rest inner =>
    by_cases same : c = '\''
    · subst same
      have doubled : mark? .literal '\'' '\'' = some (.literal, .literal) := rfl
      rw [doubleQuotes, if_pos rfl, List.cons_append, List.cons_append, maskFrom_mark doubled,
        inner, byteLength, byteLength, ← List.append_assoc, ← Nat.add_assoc,
        List.replicate_add]
      rfl
    · have alone : ∀ next ∈ (doubleQuotes rest ++ '\'' :: behind).head?,
          mark? .literal c next = none := by
        intro next _
        simp [mark?, same]
      have inside : single .literal c = (.literal, .literal) := if_neg same
      rw [doubleQuotes, if_neg same, List.cons_append, maskFrom_single alone, inside, inner,
        byteLength, List.replicate_add, List.append_assoc]
      rfl

/-- A literal of a size in bytes with blanks inside. -/
def blankLiteral (size : Nat) : String :=
  "'" ++ String.ofList (List.replicate (size - 2) ' ') ++ "'"

theorem utf8ByteSize_quote (text : String) :
    (quote text).utf8ByteSize = byteLength (doubleQuotes text.toList) + 2 := by
  rw [quote, utf8ByteSize_ofList, quoteChars, byteLength, byteLength_append, Nat.add_comm]
  rfl

theorem utf8ByteSize_blankLiteral {size : Nat} (wide : 2 ≤ size) :
    (blankLiteral size).utf8ByteSize = size := by
  have inside : (String.ofList (List.replicate (size - 2) ' ')).utf8ByteSize = size - 2 := by
    rw [utf8ByteSize_ofList, byteLength_blanks]
  have mark : ("'" : String).utf8ByteSize = 1 := rfl
  rw [blankLiteral, String.utf8ByteSize_append, String.utf8ByteSize_append, inside, mark]
  omega

theorem mask_append_quote {front behind : String} (text : String)
    (code : regionAfter .code front.toList = .code)
    (free : front.toList.getLast? ≠ some '\'') (apart : behind.toList.head? ≠ some '\'') :
    mask (front ++ quote text ++ behind) =
      mask front ++ blankLiteral (quote text).utf8ByteSize ++ mask behind := by
  have whole : (front ++ quote text ++ behind).toList = front.toList ++
      '\'' :: (doubleQuotes text.toList ++ '\'' :: behind.toList) := by
    simp [quote, quoteChars]
  have opens : maskChars ('\'' :: (doubleQuotes text.toList ++ '\'' :: behind.toList)) =
      '\'' :: maskFrom .literal (doubleQuotes text.toList ++ '\'' :: behind.toList) :=
    maskFrom_single (fun next _ => by simp [mark?])
  have seam : maskChars (front.toList ++
        '\'' :: (doubleQuotes text.toList ++ '\'' :: behind.toList)) =
      maskChars front.toList ++
        maskChars ('\'' :: (doubleQuotes text.toList ++ '\'' :: behind.toList)) := by
    have distant : Apart .code front.toList
        ('\'' :: (doubleQuotes text.toList ++ '\'' :: behind.toList)) := Apart.of_quote free rfl
    simp only [maskChars, maskFrom_eq, labelFrom_append distant, code, List.flatMap_append]
  rw [← String.toList_inj, toList_mask, whole, seam, opens, maskFrom_doubleQuotes _ apart,
    String.toList_append, String.toList_append, toList_mask, toList_mask, blankLiteral,
    utf8ByteSize_quote]
  simp

/-- Quoting loses nothing and cannot be escaped: without the outer quotes, and with every two quotes
as one, a quoted text is the text again; and between a text that ends in code without a quote at the
end and one without a quote at the start it is one literal of its size, with blanks inside, while
both of them are masked as they are by themselves. -/
theorem quote_is_one_literal (text : String) :
    unquote (quote text) = text ∧
    ∀ front behind : String, regionAfter .code front.toList = .code →
      front.toList.getLast? ≠ some '\'' → behind.toList.head? ≠ some '\'' →
      mask (front ++ quote text ++ behind) =
          mask front ++ blankLiteral (quote text).utf8ByteSize ++ mask behind ∧
        (blankLiteral (quote text).utf8ByteSize).utf8ByteSize = (quote text).utf8ByteSize := by
  refine ⟨unquote_quote text, fun front behind code free apart => ?_⟩
  exact ⟨mask_append_quote text code free apart,
    utf8ByteSize_blankLiteral (by rw [utf8ByteSize_quote]; omega)⟩

/-- Quotes at both ends of a text, and a comment mark inside of it. -/
theorem quotesAndDashes_one_literal :
    unquote (quote "' --ü'") = "' --ü'" ∧
      mask ("a = " ++ quote "' --ü'" ++ " /* b */") = "a = '         '        " := by
  obtain ⟨again, literal⟩ := quote_is_one_literal "' --ü'"
  obtain ⟨masked, -⟩ := literal "a = " " /* b */" (by decide +kernel) (by decide +kernel)
    (by decide +kernel)
  refine ⟨again, masked.trans ?_⟩
  decide +kernel

end QueryComposer.Literal
