import QueryComposer.Parameter.Descriptor
import QueryComposer.Proofs.Lexical.Masked
import QueryComposer.Proofs.Pattern.Breaks
import QueryComposer.Proofs.Placeholder.Search

set_option autoImplicit false

/-!
The parameters of a text depend on its code and on the places of the code only. What stands inside
of literals, quoted identifiers and comments may be replaced by anything of the same size.
-/

namespace QueryComposer

open QueryComposer.Text

namespace Lexical

/-- The characters of code, and for every byte inside of a literal, a quoted identifier or a comment
an empty place. -/
def outline (chars : List Char) : List (Option Char) :=
  (labelFrom .code chars).flatMap (fun label =>
    if label.2 = .code then [some label.1] else List.replicate label.1.utf8Size none)

/-- The outline is what a masked text with joined lines shows. -/
theorem map_unbroken_maskChars (chars : List Char) :
    (maskChars chars).map unbroken =
      (outline chars).map (fun place => (place.map unbroken).getD ' ') := by
  rw [maskChars, maskFrom_eq, outline, List.map_flatMap, List.map_flatMap]
  congr 1
  funext label
  obtain ⟨c, region⟩ := label
  by_cases code : region = .code
  · simp [shown, code]
  · by_cases line : region = .blockComment ∧ c = '\n'
    · obtain ⟨rfl, rfl⟩ := line
      decide
    · have blank : unbroken ' ' = ' ' := rfl
      simp [shown, code, line, blanksFor, blank]

/-- What does not depend on the ends of lines of a masked text depends on the outline only. -/
theorem eq_of_outline {α : Type} {answer : List Char → α}
    (ignores : ∀ masked, answer (masked.map unbroken) = answer masked) {chars other : List Char}
    (same : outline other = outline chars) : answer (maskChars other) = answer (maskChars chars) :=
  calc answer (maskChars other)
    _ = answer ((maskChars other).map unbroken) := (ignores _).symm
    _ = answer ((maskChars chars).map unbroken) := by
      rw [map_unbroken_maskChars, same, ← map_unbroken_maskChars]
    _ = answer (maskChars chars) := ignores _

end Lexical

namespace Placeholder

open QueryComposer.Lexical

theorem utf8Size_unbroken (c : Char) : (unbroken c).utf8Size = c.utf8Size :=
  apply_unbroken Char.utf8Size rfl c

theorem takeWhile_unbroken (chars : List Char) :
    (chars.map unbroken).takeWhile Literal.continuesName =
      chars.takeWhile Literal.continuesName := by
  induction chars with
  | nil => rfl
  | cons c rest inner =>
    have same := apply_unbroken Literal.continuesName (by decide) c
    rw [List.map_cons, List.takeWhile_cons, List.takeWhile_cons, same, inner]
    split
    · next continues =>
      have visible : c ≠ '\n' := by
        rintro rfl
        exact absurd continues (by decide)
      rw [unbroken_of_ne visible]
    · rfl

/-- Where a placeholder begins does not depend on the ends of lines. -/
theorem scanFrom_unbroken (offset : Nat) (previous : Option Char) (questions : Nat)
    (masked : List Char) :
    scanFrom offset (previous.map unbroken) questions (masked.map unbroken) =
      scanFrom offset previous questions masked := by
  induction masked generalizing offset previous questions with
  | nil => rfl
  | cons c rest inner =>
    have onward := fun offset => inner offset (some c)
    rw [Option.map_some] at onward
    have blocked : blocksName (previous.map unbroken) = blocksName previous :=
      any_map_unbroken (by decide) previous
    have starts : (rest.map unbroken).head?.any Literal.startsName =
        rest.head?.any Literal.startsName := by
      rw [List.head?_map]
      exact any_map_unbroken (by decide) rest.head?
    have free : blocksQuestion (rest.map unbroken).head? = blocksQuestion rest.head? := by
      rw [List.head?_map]
      exact any_map_unbroken (by decide) rest.head?
    have named : nameAfter? (previous.map unbroken) (rest.map unbroken) =
        nameAfter? previous rest := by
      rw [nameAfter?, nameAfter?, blocked, starts, takeWhile_unbroken]
    rw [List.map_cons, scanFrom, scanFrom]
    simp only [unbroken_eq_iff (show ':' ≠ ' ' ∧ ':' ≠ '\n' by decide),
      unbroken_eq_iff (show '?' ≠ ' ' ∧ '?' ≠ '\n' by decide), named, free, utf8Size_unbroken,
      onward]

theorem splitBytes_unbroken (count : Nat) (chars : List Char) :
    splitBytes count (chars.map unbroken) =
      ((splitBytes count chars).1.map unbroken, (splitBytes count chars).2.map unbroken) := by
  induction chars generalizing count with
  | nil => rfl
  | cons c rest inner =>
    rw [List.map_cons, splitBytes, splitBytes, utf8Size_unbroken, inner]
    split <;> rfl

/-- Nor does the type that the surroundings suggest. -/
theorem suggests?_unbroken (context : List Char) :
    ParameterContext.suggests? (context.map unbroken) = ParameterContext.suggests? context := by
  have dates := Pattern.matchesIn_unbroken
    (show ParameterContext.datePattern.ignoresBreaks = true by decide +kernel) context
  have numbers := Pattern.matchesIn_unbroken
    (show ParameterContext.numberPattern.ignoresBreaks = true by decide +kernel) context
  have booleans := Pattern.matchesIn_unbroken
    (show ParameterContext.booleanPattern.ignoresBreaks = true by decide +kernel) context
  have lists := Pattern.matchesIn_unbroken
    (show ParameterContext.listPattern.ignoresBreaks = true by decide +kernel) context
  simp only [ParameterContext.suggests?, dates, numbers, booleans, lists]

theorem map_unbroken_window (masked : List Char) (placeholder : Placeholder) :
    (ParameterContext.window (masked.map unbroken) placeholder).map unbroken =
      (ParameterContext.window masked placeholder).map unbroken := by
  have word : ParameterContext.slotWord.toList.map unbroken =
      ParameterContext.slotWord.toList := by decide +kernel
  simp only [ParameterContext.window, splitBytes_unbroken, List.length_map]
  rw [← List.map_drop, ← List.map_take, ← word, ← List.map_append, ← List.map_append,
    map_unbroken_lowerChars, word]

theorem inferredType_unbroken (masked : List Char) (placeholder : Placeholder) :
    placeholder.inferredType (masked.map unbroken) = placeholder.inferredType masked := by
  have same := congrArg ParameterContext.suggests? (map_unbroken_window masked placeholder)
  rw [suggests?_unbroken, suggests?_unbroken] at same
  unfold inferredType
  simp only [same]

end Placeholder

namespace Parameter

open QueryComposer.Lexical QueryComposer.Placeholder

theorem ofPlaceholders_unbroken (masked : List Char) (seen : List String)
    (placeholders : List Placeholder) :
    ofPlaceholders (masked.map unbroken) seen placeholders =
      ofPlaceholders masked seen placeholders := by
  induction placeholders generalizing seen with
  | nil => rfl
  | cons placeholder placeholders inner =>
    have same : ofPlaceholder (masked.map unbroken) placeholder =
        ofPlaceholder masked placeholder := by
      rw [ofPlaceholder, ofPlaceholder, inferredType_unbroken]
    simp only [ofPlaceholders, inner, same]

theorem ofMasked_unbroken (masked : List Char) :
    ofMasked (masked.map unbroken) = ofMasked masked :=
  scanFrom_unbroken 0 none 0 masked

theorem scan_of_outline {sql other : String} (same : outline other.toList = outline sql.toList) :
    scan other = scan sql :=
  eq_of_outline ofMasked_unbroken same

theorem extract_of_outline {sql other : String}
    (same : outline other.toList = outline sql.toList) : extract other = extract sql := by
  have ignores (masked : List Char) :
      ofPlaceholders (masked.map unbroken) [] (ofMasked (masked.map unbroken)) =
        ofPlaceholders masked [] (ofMasked masked) := by
    rw [ofMasked_unbroken, ofPlaceholders_unbroken]
  exact @eq_of_outline _ (fun masked => ofPlaceholders masked [] (ofMasked masked)) ignores _ _ same

/-- A masked text has the size of the text, every byte of it is that of the text or a blank, and to
mask it again changes nothing. The text and the masked text have the same placeholders and the same
parameters, and so has any other text with the same code at the same places, whatever stands in its
literals, quoted identifiers and comments. -/
theorem extract_depends_on_code (sql : String) :
    (mask sql).utf8ByteSize = sql.utf8ByteSize ∧
    (∀ place (inside : place < sql.rawEndPos) (within : place < (mask sql).rawEndPos),
      (mask sql).getUTF8Byte place within = sql.getUTF8Byte place inside ∨
        (mask sql).getUTF8Byte place within = 0x20) ∧
    mask (mask sql) = mask sql ∧
    search (mask sql) = search sql ∧ extract (mask sql) = extract sql ∧
    ∀ other : String, outline other.toList = outline sql.toList →
      search other = search sql ∧ extract other = extract sql := by
  refine ⟨utf8ByteSize_mask sql, fun place => getUTF8Byte_mask sql, mask_mask sql, ?_, ?_, ?_⟩
  · rw [search, search, toList_mask, maskChars_maskChars]
  · rw [extract, extract, toList_mask, maskChars_maskChars]
  · intro other same
    rw [search_eq_scan, search_eq_scan]
    exact ⟨scan_of_outline same, extract_of_outline same⟩

/-- A comment over two lines and a literal with a colon and a letter of two bytes take the space of
others. -/
theorem commentAndLiteral_without_influence :
    outline "day = /* ?\n */ :d AND x = ':éa'".toList =
        outline "day = /* :no*/ :d AND x = 'some'".toList ∧
      extract "day = /* ?\n */ :d AND x = ':éa'" =
        extract "day = /* :no*/ :d AND x = 'some'" := by
  have same : outline "day = /* ?\n */ :d AND x = ':éa'".toList =
      outline "day = /* :no*/ :d AND x = 'some'".toList := by decide +kernel
  obtain ⟨-, -, -, -, -, others⟩ := extract_depends_on_code "day = /* :no*/ :d AND x = 'some'"
  exact ⟨same, (others _ same).2⟩

end Parameter

end QueryComposer
