import QueryComposer.Proofs.Literal.Numerals

set_option autoImplicit false

/-!
Values that name no parameter are written as self-contained texts.
-/

namespace QueryComposer

open QueryComposer.Text

namespace Literal

theorem selfContained_ofText (policy : LiteralPolicy) {text : String}
    (plain : isReference text = false) :
    selfContained false (ofText policy text).toList = true := by
  have named : isReferenceChars text.toList = false := plain
  rw [ofText, String.toList_ofList, textChars, if_neg (by simp [named])]
  by_cases numeric : looksNumericChars policy text.toList = true
  · rw [if_pos numeric]
    cases policy with
    | alwaysQuote => cases numeric
    | strict => exact selfContained_usual numeric
    | permissive =>
      simp only [looksNumericChars, readsAsNumber, Bool.and_eq_true] at numeric
      exact selfContained_number numeric.2
  · rw [if_neg numeric]
    exact selfContained_quoteChars _

end Literal

/-! ### Values -/

mutual

/-- The value is a text that names a parameter, or a list with one in it. -/
def Value.refers : Value → Bool
  | .string text => Literal.isReference text
  | .list items => Value.anyRefers items
  | _ => false

/-- One of the values names a parameter. -/
def Value.anyRefers : List Value → Bool
  | [] => false
  | item :: items => Value.refers item || Value.anyRefers items

end

namespace Literal

theorem selfContained_quote (text : String) : selfContained false (quote text).toList = true := by
  rw [quote, String.toList_ofList]
  exact selfContained_quoteChars _

theorem toList_join_cons (separator first : String) (pieces : List String) :
    (join separator (first :: pieces)).toList =
      first.toList ++ pieces.flatMap (fun piece => separator.toList ++ piece.toList) := by
  rw [join]
  induction pieces generalizing first with
  | nil => rw [String.intercalate_singleton, List.flatMap_nil, List.append_nil]
  | cons second pieces inner =>
    rw [String.intercalate_cons_cons, String.toList_append, inner, List.flatMap_cons,
      String.toList_append, List.append_assoc, List.append_assoc]

mutual

/-- Every value without a reference is written self-contained. -/
theorem selfContained_ofValue (policy : LiteralPolicy) :
    (value : Value) → value.refers = false →
      selfContained false (ofValue policy value).toList = true
  | .null, _ => by
    rw [ofValue]
    decide
  | .bool flag, _ => by
    rw [ofValue]
    cases flag <;> decide
  | .int number, _ => selfContained_int number.toInt
  | .float number, _ => by
    rw [ofValue]
    split
    · next finite => exact selfContained_display number finite
    · exact selfContained_quote _
  | .string text, plain => selfContained_ofText policy plain
  | .date day, _ => selfContained_quote _
  | .moment time, _ => selfContained_quote _
  | .list [], _ => by
    rw [ofValue, ofValues]
    decide
  | .list (item :: items), plain => by
    rw [Value.refers, Value.anyRefers, Bool.or_eq_false_iff] at plain
    rw [ofValue, ofValues, toList_join_cons]
    exact selfContained_append (selfContained_ofValue policy item plain.1)
      (selfContained_ofValues policy items plain.2)

theorem selfContained_ofValues (policy : LiteralPolicy) :
    (items : List Value) → Value.anyRefers items = false →
      selfContained false ((ofValues policy items).flatMap
        (fun text => ", ".toList ++ text.toList)) = true
  | [], _ => rfl
  | item :: items, plain => by
    rw [Value.anyRefers, Bool.or_eq_false_iff] at plain
    rw [ofValues, List.flatMap_cons]
    exact selfContained_append
      (selfContained_bare_append (by decide) (selfContained_ofValue policy item plain.1))
      (selfContained_ofValues policy items plain.2)

end

end Literal

end QueryComposer
