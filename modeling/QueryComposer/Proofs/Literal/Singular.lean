import QueryComposer.Proofs.Literal.Usual
import QueryComposer.Proofs.Literal.Values

set_option autoImplicit false

/-!
Which values are written as exactly one literal or reference. All are that are no lists. A list is
written as its items with commas between them: without items there is nothing, with several there is
a comma outside of quotes, and neither is a literal.
-/

namespace QueryComposer

open QueryComposer.Number QueryComposer.Text

namespace Literal

/-! ### One literal -/

/-- Exactly one literal, or the reference to a parameter. -/
inductive IsOperand : List Char → Prop
  | word (text : String) (known : text ∈ ["NULL", "TRUE", "FALSE"]) : IsOperand text.toList
  | reference {chars : List Char} (named : isReferenceChars chars = true) : IsOperand chars
  | numeral {chars : List Char} (numeric : isNumeral chars = true) : IsOperand chars
  | quoted (chars : List Char) : IsOperand (quoteChars chars)

theorem isOperand_quote (text : String) : IsOperand (quote text).toList := by
  rw [quote, String.toList_ofList]
  exact .quoted text.toList

theorem isOperand_ofText (policy : LiteralPolicy) (text : String) :
    IsOperand (ofText policy text).toList := by
  rw [ofText, String.toList_ofList, textChars]
  by_cases named : isReferenceChars text.toList = true
  · rw [if_pos named]
    exact .reference named
  · rw [if_neg named]
    by_cases numeric : looksNumericChars policy text.toList = true
    · rw [if_pos numeric]
      apply IsOperand.numeral
      unfold isNumeral
      cases policy with
      | alwaysQuote => cases numeric
      | strict =>
        have usual : isUsualNumber text.toList = true := numeric
        rw [trimChars_usual usual, usual]
        rfl
      | permissive =>
        -- The text need not be in the usual form here: it may have an exponent.
        simp only [looksNumericChars, readsAsNumber, Bool.and_eq_true] at numeric
        rw [numeric.1.2, numeric.2, Bool.and_true, Bool.or_true]
    · rw [if_neg numeric]
      exact .quoted _

/-! ### Commas outside of quotes -/

/-- The text ends between quotes, given whether it begins there. -/
def endsQuoted (quoted : Bool) : List Char → Bool
  | [] => quoted
  | c :: rest => endsQuoted (quoted != (c = '\'')) rest

/-- There is a comma outside of quotes, given whether the text begins between quotes. -/
def showsComma (quoted : Bool) : List Char → Bool
  | [] => false
  | c :: rest => (!quoted && c = ',') || showsComma (quoted != (c = '\'')) rest

theorem endsQuoted_append (quoted : Bool) (first second : List Char) :
    endsQuoted quoted (first ++ second) = endsQuoted (endsQuoted quoted first) second := by
  induction first generalizing quoted with
  | nil => rfl
  | cons c first inner => exact inner _

theorem showsComma_append (quoted : Bool) (first second : List Char) :
    showsComma quoted (first ++ second) =
      (showsComma quoted first || showsComma (endsQuoted quoted first) second) := by
  induction first generalizing quoted with
  | nil => rfl
  | cons c first inner =>
    rw [List.cons_append, showsComma, showsComma, endsQuoted, inner, Bool.or_assoc]

theorem endsQuoted_of_selfContained {quoted : Bool} {chars : List Char}
    (contained : selfContained quoted chars = true) : endsQuoted quoted chars = false := by
  fun_induction selfContained quoted chars with
  | case1 quoted => simpa [endsQuoted] using contained
  | case2 c rest inner =>
    have next : (true != decide (c = '\'')) = decide (c ≠ '\'') := by
      by_cases quote : c = '\'' <;> simp [quote]
    rw [endsQuoted, next]
    exact inner contained
  | case3 rest inner => exact inner contained
  | case4 c rest inner =>
    rw [Bool.and_eq_true] at contained
    have bare : c ≠ '\'' := by
      rintro rfl
      exact absurd contained.1 (by decide)
    simpa [endsQuoted, bare] using inner contained.2
  | case5 c rest quote minus inner =>
    rw [Bool.and_eq_true] at contained
    have bare : c ≠ '\'' := by
      rintro rfl
      exact absurd contained.1 (by decide)
    simpa [endsQuoted, bare] using inner contained.2

theorem endsQuoted_of_absent {chars : List Char} (absent : '\'' ∉ chars) (quoted : Bool) :
    endsQuoted quoted chars = quoted := by
  induction chars with
  | nil => rfl
  | cons c chars inner =>
    rw [List.mem_cons, not_or] at absent
    simpa [endsQuoted, Ne.symm absent.1] using inner absent.2

theorem showsComma_of_absent {chars : List Char} (absent : ',' ∉ chars) (quoted : Bool) :
    showsComma quoted chars = false := by
  induction chars generalizing quoted with
  | nil => rfl
  | cons c chars inner =>
    rw [List.mem_cons, not_or] at absent
    simp [showsComma, Ne.symm absent.1, inner absent.2]

theorem showsComma_doubleQuotes (chars : List Char) :
    showsComma true (doubleQuotes chars ++ ['\'']) = false := by
  induction chars with
  | nil => rfl
  | cons c chars inner =>
    by_cases quote : c = '\''
    · simpa [doubleQuotes, quote, showsComma] using inner
    · simpa [doubleQuotes, quote, showsComma] using inner

theorem isReferenceChars_all {chars : List Char} (named : isReferenceChars chars = true) :
    ∀ c ∈ chars, c = ':' ∨ continuesName c = true := by
  unfold isReferenceChars at named
  split at named
  · rename_i name
    intro c member
    rcases List.mem_cons.mp member with rfl | inside
    · exact Or.inl rfl
    · cases name with
      | nil => contradiction
      | cons first rest =>
        rw [isName, Bool.and_eq_true, List.all_eq_true] at named
        rcases List.mem_cons.mp inside with rfl | later
        · exact Or.inr (by simp [continuesName, named.1])
        · exact Or.inr (named.2 c later)
  · contradiction

/-- No comma of a literal stands outside of its quotes. -/
theorem IsOperand.showsComma {chars : List Char} (operand : IsOperand chars) :
    showsComma false chars = false := by
  cases operand with
  | word text known =>
    have none : ["NULL", "TRUE", "FALSE"].all (fun text => !Literal.showsComma false text.toList) =
        true := by decide
    simpa using List.all_eq_true.mp none text known
  | reference named =>
    apply showsComma_of_absent
    intro comma
    rcases isReferenceChars_all named ',' comma with same | continues
    · exact absurd same (by decide)
    · exact absurd continues (by decide)
  | numeral numeric =>
    apply showsComma_of_absent
    intro comma
    rcases Bool.or_eq_true_iff.mp numeric with usual | read
    · have others : chars.all (fun c => c ≠ ',') = true := by
        refine isUsualNumber_all ?_ ?_ rfl rfl usual
        · intro c digit
          apply decide_eq_true
          rintro rfl
          exact absurd digit (by decide)
        · intro c digit
          apply decide_eq_true
          rintro rfl
          exact absurd digit (by decide)
      simpa using List.all_eq_true.mp others ',' comma
    · rw [Bool.and_eq_true, List.all_eq_true] at read
      exact absurd (read.1 ',' comma) (by decide)
  | quoted body => exact showsComma_doubleQuotes body

theorem IsOperand.ne_nil {chars : List Char} (operand : IsOperand chars) : chars ≠ [] := by
  rintro rfl
  generalize empty : ([] : List Char) = chars at operand
  cases operand with
  | word text known =>
    have none : ["NULL", "TRUE", "FALSE"].all (fun text => !text.toList.isEmpty) = true := by decide
    have present := List.all_eq_true.mp none text known
    rw [← empty] at present
    contradiction
  | reference named =>
    subst empty
    contradiction
  | numeral numeric =>
    subst empty
    exact absurd numeric (by decide)
  | quoted body => contradiction

theorem endsQuoted_ofText (policy : LiteralPolicy) (text : String) :
    endsQuoted false (ofText policy text).toList = false := by
  by_cases named : isReferenceChars text.toList = true
  · rw [ofText, String.toList_ofList, textChars, if_pos named]
    apply endsQuoted_of_absent
    intro quote
    rcases isReferenceChars_all named '\'' quote with same | continues
    · exact absurd same (by decide)
    · exact absurd continues (by decide)
  · exact endsQuoted_of_selfContained (selfContained_ofText policy (Bool.not_eq_true _ ▸ named))

mutual

/-- The quotes in a value as it is written are closed. -/
theorem endsQuoted_ofValue (policy : LiteralPolicy) (value : Value) :
    endsQuoted false (ofValue policy value).toList = false := by
  cases value with
  | string text => exact endsQuoted_ofText policy text
  | list items =>
    cases items with
    | nil => rfl
    | cons item items =>
      rw [ofValue, ofValues, toList_join_cons, endsQuoted_append, endsQuoted_ofValue policy item,
        endsQuoted_ofValues policy items]
  | _ => exact endsQuoted_of_selfContained (selfContained_ofValue policy _ rfl)

theorem endsQuoted_ofValues (policy : LiteralPolicy) (items : List Value) :
    endsQuoted false ((ofValues policy items).flatMap
      (fun text => ", ".toList ++ text.toList)) = false := by
  cases items with
  | nil => rfl
  | cons item items =>
    have separator : endsQuoted false ", ".toList = false := by decide
    rw [ofValues, List.flatMap_cons, endsQuoted_append, endsQuoted_append, separator,
      endsQuoted_ofValue policy item, endsQuoted_ofValues policy items]

end

end Literal

/-! ### Values -/

namespace Value

mutual

/-- The value is no list, or a list of one such value. -/
def isSingular : Value → Bool
  | .list items => areSingular items
  | .null | .bool _ | .int _ | .float _ | .string _ | .date _ | .moment _ => true

def areSingular : List Value → Bool
  | [] => false
  | item :: items => isSingular item && items.isEmpty

end

end Value

namespace Literal

/-- A value is written as one literal or reference exactly when it is no list, or a list of one such
value. -/
theorem isOperand_ofValue_iff (policy : LiteralPolicy) (value : Value) :
    IsOperand (ofValue policy value).toList ↔ value.isSingular = true := by
  match value with
  | .null => exact iff_of_true (.word "NULL" (by decide)) rfl
  | .bool true => exact iff_of_true (.word "TRUE" (by decide)) rfl
  | .bool false => exact iff_of_true (.word "FALSE" (by decide)) rfl
  | .int number => exact iff_of_true (.numeral (isNumeral_int number.toInt)) rfl
  | .float number =>
    refine iff_of_true ?_ rfl
    rw [ofValue]
    split
    · rename_i finite
      exact .numeral (isNumeral_display number finite)
    · exact isOperand_quote _
  | .string text => exact iff_of_true (isOperand_ofText policy text) rfl
  | .date day => exact iff_of_true (isOperand_quote _) rfl
  | .moment time => exact iff_of_true (isOperand_quote _) rfl
  | .list [] => exact iff_of_false (fun operand => operand.ne_nil rfl) Bool.noConfusion
  | .list [item] =>
    have alone : (ofValue policy (.list [item])).toList = (ofValue policy item).toList := by
      rw [ofValue, ofValues, ofValues, toList_join_cons, List.flatMap_nil, List.append_nil]
    have same : (Value.list [item]).isSingular = item.isSingular := Bool.and_true _
    rw [alone, same]
    exact isOperand_ofValue_iff policy item
  | .list (first :: second :: items) =>
    refine iff_of_false ?_ ?_
    · intro operand
      -- The quotes of the first item are closed, so that the comma behind it is outside of quotes.
      have comma := operand.showsComma
      rw [ofValue, ofValues, ofValues, toList_join_cons, showsComma_append,
        endsQuoted_ofValue policy first, List.flatMap_cons, List.append_assoc] at comma
      simp [showsComma] at comma
    · simp [Value.isSingular, Value.areSingular]

end Literal

end QueryComposer
