import QueryComposer.Proofs.Text.Split
import QueryComposer.Uuid

set_option autoImplicit false

/-!
An identifier is read from its written form.
-/

namespace QueryComposer.Uuid

open QueryComposer.Text

theorem hexValue?_hexDigit (value : Fin 16) : hexValue? (hexDigit value) = some value := by
  revert value
  decide

theorem hexDigit_ne_hyphen (value : Fin 16) : hexDigit value ≠ '-' := by
  revert value
  decide

theorem hexDigit_ne_u (value : Fin 16) : hexDigit value ≠ 'u' := by
  revert value
  decide

theorem readGroup?_hexDigits (digits : List (Fin 16)) :
    readGroup? (digits.map hexDigit) = some digits := by
  unfold readGroup?
  induction digits with
  | nil => rfl
  | cons digit digits induct =>
    rw [List.map_cons, List.mapM_cons, hexValue?_hexDigit, induct]
    rfl

/-- Hyphens between groups of hexadecimal digits stand only there. -/
theorem ofHyphenated?_groups {a b c d e : List Char} (id : Uuid)
    (whole : a ++ b ++ c ++ d ++ e = id.digits.map hexDigit)
    (sizes : a.length = 8 ∧ b.length = 4 ∧ c.length = 4 ∧ d.length = 4 ∧ e.length = 12) :
    ofHyphenated? (a ++ '-' :: (b ++ '-' :: (c ++ '-' :: (d ++ '-' :: e)))) = some id := by
  have apart {group : List Char} (part : ∀ x ∈ group, x ∈ a ++ b ++ c ++ d ++ e) :
      '-' ∉ group := by
    intro member
    have listed := part _ member
    rw [whole] at listed
    obtain ⟨value, _, same⟩ := List.mem_map.mp listed
    exact hexDigit_ne_hyphen value same
  have pieces : splitChars '-' (a ++ '-' :: (b ++ '-' :: (c ++ '-' :: (d ++ '-' :: e)))) =
      [a, b, c, d, e] := by
    rw [splitChars_append (apart (by simp +contextual)),
      splitChars_append (apart (by simp +contextual)),
      splitChars_append (apart (by simp +contextual)),
      splitChars_append (apart (by simp +contextual)),
      splitChars_of_not_mem (apart (by simp +contextual))]
  obtain ⟨sizeA, sizeB, sizeC, sizeD, sizeE⟩ := sizes
  simp only [ofHyphenated?, pieces, sizeA, sizeB, sizeC, sizeD, sizeE, decide_true, Bool.and_self,
    if_true, whole, readGroup?_hexDigits]
  exact dif_pos id.digits_length

theorem parse?_render (id : Uuid) : parse? id.render = some id := by
  let chars := id.digits.map hexDigit
  have size : chars.length = 32 := by rw [List.length_map, id.digits_length]
  have text : id.render.toList =
      chars.take 8 ++ '-' :: ((chars.drop 8).take 4 ++ '-' :: ((chars.drop 12).take 4 ++
        '-' :: ((chars.drop 16).take 4 ++ '-' :: chars.drop 20))) := by
    simp only [render, String.toList_ofList, List.append_assoc, List.cons_append, chars]
  have textSize : id.render.toList.length = 36 := by
    rw [text]
    simp [size]
  have next (start count : Nat) :
      (chars.drop start).take count ++ chars.drop (start + count) = chars.drop start := by
    rw [← List.drop_drop, List.take_append_drop]
  have whole : chars.take 8 ++ (chars.drop 8).take 4 ++ (chars.drop 12).take 4 ++
      (chars.drop 16).take 4 ++ chars.drop 20 = chars := by
    rw [List.append_assoc, List.append_assoc, List.append_assoc, next 16 4, next 12 4, next 8 4,
      List.take_append_drop]
  have urn : "urn:uuid:".toList = 'u' :: ['r', 'n', ':', 'u', 'u', 'i', 'd', ':'] := rfl
  have noPrefix : dropStart? "urn:uuid:".toList id.render.toList = none := by
    cases digits : id.digits with
    | nil =>
      have impossible := id.digits_length
      rw [digits] at impossible
      cases impossible
    | cons digit rest =>
      rw [text, urn]
      simp only [chars, digits]
      exact if_neg (Ne.symm (hexDigit_ne_u digit))
  rw [parse?]
  simp only [textSize, noPrefix]
  rw [text]
  exact ofHyphenated?_groups id whole (by simp [size])

theorem ofJson?_toJson (id : Uuid) : ofJson? id.toJson = some id := by
  rw [toJson, ofJson?, Json.asString?, Option.bind_some, parse?_render]

end QueryComposer.Uuid
