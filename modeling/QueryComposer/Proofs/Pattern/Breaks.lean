import QueryComposer.Parameter.Inference

set_option autoImplicit false

/-!
Patterns that make no difference between a blank and the end of a line. They match in a text exactly
where they match in the same text with its lines joined, and the patterns that suggest the type of a
parameter are of this kind.
-/

namespace QueryComposer

namespace Text

/-- The character, or a blank in the place of the end of a line. -/
def unbroken (c : Char) : Char :=
  if c = '\n' then ' ' else c

theorem unbroken_of_ne {c : Char} (other : c ≠ '\n') : unbroken c = c :=
  if_neg other

theorem unbroken_eq_iff {c d : Char} (visible : d ≠ ' ' ∧ d ≠ '\n') : unbroken c = d ↔ c = d := by
  unfold unbroken
  split
  · next same =>
    subst same
    exact iff_of_false (Ne.symm visible.1) (Ne.symm visible.2)
  · exact Iff.rfl

/-- What is the same for a blank and the end of a line is the same where lines are joined. -/
theorem apply_unbroken {α : Type} (property : Char → α) (same : property '\n' = property ' ')
    (c : Char) : property (unbroken c) = property c := by
  by_cases ends : c = '\n'
  · subst ends
    exact same.symm
  · rw [unbroken_of_ne ends]

theorem any_map_unbroken {property : Char → Bool} (same : property '\n' = property ' ')
    (c : Option Char) : (c.map unbroken).any property = c.any property := by
  cases c with
  | none => rfl
  | some c => exact apply_unbroken property same c

/-- To join lines before letters are made small is to join them afterwards. -/
theorem map_unbroken_lowerFrom (before chars : List Char) :
    (lowerFrom (before.map unbroken) (chars.map unbroken)).map unbroken =
      (lowerFrom before chars).map unbroken := by
  have cased (chars : List Char) : meetsCased (chars.map unbroken) = meetsCased chars := by
    have ignorable (c : Char) : inRanges caseIgnorableRanges (unbroken c).toNat =
        inRanges caseIgnorableRanges c.toNat :=
      apply_unbroken (fun c => inRanges caseIgnorableRanges c.toNat) (by decide) c
    unfold meetsCased
    rw [List.dropWhile_map]
    simp only [Function.comp_def, ignorable]
    cases chars.dropWhile (fun c => inRanges caseIgnorableRanges c.toNat) with
    | nil => rfl
    | cons c rest =>
      exact apply_unbroken (fun c => inRanges casedRanges c.toNat) (by decide) c
  induction chars generalizing before with
  | nil => rfl
  | cons c rest inner =>
    have sigma : (unbroken c).toNat = 0x3A3 ↔ c.toNat = 0x3A3 :=
      iff_of_eq (apply_unbroken (fun c => c.toNat = 0x3A3) (by decide) c)
    have lowered : (lowerChar (unbroken c)).map unbroken = (lowerChar c).map unbroken :=
      apply_unbroken (fun c => (lowerChar c).map unbroken) (by decide +kernel) c
    have onward := inner (c :: before)
    rw [List.map_cons] at onward
    rw [List.map_cons, lowerFrom, lowerFrom, List.map_append, List.map_append, onward]
    simp only [sigma, cased]
    split
    · rfl
    · rw [lowered]

theorem map_unbroken_lowerChars (chars : List Char) :
    (lowerChars (chars.map unbroken)).map unbroken = (lowerChars chars).map unbroken :=
  map_unbroken_lowerFrom [] chars

end Text

/-! ### Patterns that pass over the ends of lines -/

/-- The condition does not look for the ends of lines. -/
def Anchor.ignoresBreaks : Anchor → Bool
  | .lineStart _ => false
  | .lineEnd _ => false
  | _ => true

namespace Pattern

open QueryComposer.Text

/-- No part of the pattern tells a blank from the end of a line. -/
def ignoresBreaks : Pattern → Bool
  | .empty => true
  | .char set => set.contains '\n' == set.contains ' '
  | .anchored condition => Anchor.ignoresBreaks condition
  | .seq first second => first.ignoresBreaks && second.ignoresBreaks
  | .alt first second => first.ignoresBreaks && second.ignoresBreaks
  | .group inner => inner.ignoresBreaks
  | .repetition inner _ _ => inner.ignoresBreaks

/-- The place in the text with its lines joined. -/
def Place.unbroken (place : Place) : Place :=
  { place with previous := place.previous.map Text.unbroken, rest := place.rest.map Text.unbroken }

theorem placesFrom_unbroken (offset : Nat) (previous : Option Char) (text : List Char) :
    placesFrom offset (previous.map Text.unbroken) (text.map Text.unbroken) =
      (placesFrom offset previous text).map Place.unbroken := by
  induction text generalizing offset previous with
  | nil => rfl
  | cons c rest inner =>
    rw [List.map_cons, placesFrom, placesFrom, List.map_cons]
    exact congrArg _ (inner (offset + 1) (some c))

theorem after?_unbroken {set : CharSet} (same : set.contains '\n' = set.contains ' ')
    (place : Place) :
    place.unbroken.after? set = (place.after? set).map Place.unbroken := by
  obtain ⟨offset, previous, rest⟩ := place
  cases rest with
  | nil => rfl
  | cons c rest =>
    simp only [Place.unbroken, Place.after?, List.map_cons,
      apply_unbroken set.contains same]
    split <;> rfl

theorem satisfies_unbroken {condition : Anchor} (ignores : condition.ignoresBreaks = true)
    (place : Place) : place.unbroken.satisfies condition = place.satisfies condition := by
  have words (kind : WordKind) : kind.set.contains '\n' = kind.set.contains ' ' := by
    cases kind <;> decide
  have follows (kind : WordKind) : place.unbroken.followsWord kind = place.followsWord kind :=
    any_map_unbroken (words kind) place.previous
  have precedes (kind : WordKind) : place.unbroken.precedesWord kind = place.precedesWord kind := by
    unfold Place.precedesWord Place.unbroken
    rw [List.head?_map]
    exact any_map_unbroken (words kind) place.rest.head?
  cases condition with
  | lineStart ending => cases ignores
  | lineEnd ending => cases ignores
  | textStart => rfl
  | textEnd => exact List.isEmpty_map
  | wordBoundary kind => simp only [Place.satisfies, follows, precedes]
  | notWordBoundary kind => simp only [Place.satisfies, follows, precedes]
  | wordStart kind => simp only [Place.satisfies, follows, precedes]
  | wordEnd kind => simp only [Place.satisfies, follows, precedes]
  | afterNoWord kind => simp only [Place.satisfies, follows]
  | beforeNoWord kind => simp only [Place.satisfies, precedes]

/-! ### Sets of places -/

theorem unite_unbroken (first second : List Place) :
    unite (first.map Place.unbroken) (second.map Place.unbroken) =
      (unite first second).map Place.unbroken := by
  rw [unite, unite, List.map_append, List.filter_map]
  congr 2
  apply List.filter_congr
  intro place _
  rw [Function.comp_apply, List.any_map]
  rfl

section steps

variable {step : List Place → List Place}

theorem iterate_unbroken
    (commutes : ∀ places, step (places.map Place.unbroken) = (step places).map Place.unbroken)
    (rounds : Nat) (places : List Place) :
    iterate step rounds (places.map Place.unbroken) =
      (iterate step rounds places).map Place.unbroken := by
  induction rounds generalizing places with
  | zero => rfl
  | succ rounds inner =>
    rw [iterate, iterate, List.isEmpty_map, commutes, inner]
    split <;> rfl

theorem saturate_unbroken
    (commutes : ∀ places, step (places.map Place.unbroken) = (step places).map Place.unbroken)
    (rounds : Nat) (found newest : List Place) :
    saturate step rounds (found.map Place.unbroken) (newest.map Place.unbroken) =
      (saturate step rounds found newest).map Place.unbroken := by
  induction rounds generalizing found newest with
  | zero => rfl
  | succ rounds inner =>
    have fresh : (step (newest.map Place.unbroken)).filter (fun place =>
          !(found.map Place.unbroken).any (fun other => other.offset = place.offset)) =
        ((step newest).filter (fun place =>
          !found.any (fun other => other.offset = place.offset))).map Place.unbroken := by
      rw [commutes, List.filter_map]
      congr 1
      apply List.filter_congr
      intro place _
      rw [Function.comp_apply, List.any_map]
      rfl
    rw [saturate, saturate]
    simp only [fresh, List.isEmpty_map, ← List.map_append, inner]
    split <;> rfl

end steps

theorem roundsFor_unbroken (places : List Place) :
    roundsFor (places.map Place.unbroken) = roundsFor places := by
  simp only [roundsFor, List.foldl_map, Place.unbroken, List.length_map]

/-! ### Matching -/

theorem ends_unbroken {pattern : Pattern} (ignores : pattern.ignoresBreaks = true)
    (places : List Place) :
    pattern.ends (places.map Place.unbroken) = (pattern.ends places).map Place.unbroken := by
  induction pattern generalizing places with
  | empty => rfl
  | char set =>
    rw [ends, ends, List.filterMap_map, List.map_filterMap]
    congr 1
    funext place
    exact after?_unbroken (eq_of_beq ignores) place
  | anchored condition =>
    rw [ends, ends, List.filter_map]
    congr 1
    apply List.filter_congr
    intro place _
    exact satisfies_unbroken ignores place
  | seq first second one other =>
    obtain ⟨left, right⟩ := Bool.and_eq_true_iff.mp ignores
    rw [ends, ends, one left, other right]
  | alt first second one other =>
    obtain ⟨left, right⟩ := Bool.and_eq_true_iff.mp ignores
    rw [ends, ends, one left, other right, unite_unbroken]
  | group inner inside => exact inside ignores places
  | repetition inner least most inside =>
    have commutes := inside ignores
    simp only [ends, iterate_unbroken commutes, roundsFor_unbroken, saturate_unbroken commutes]

/-- Where a pattern makes no difference between a blank and the end of a line, lines may be
joined. -/
theorem matchesIn_unbroken {pattern : Pattern} (ignores : pattern.ignoresBreaks = true)
    (text : List Char) : pattern.matchesIn (text.map Text.unbroken) = pattern.matchesIn text := by
  have places := placesFrom_unbroken 0 none text
  rw [Option.map_none] at places
  rw [matchesIn, matchesIn, places, ends_unbroken ignores, List.isEmpty_map]

end Pattern

end QueryComposer
