import QueryComposer.Proofs.Lexical.Regions

set_option autoImplicit false

/-!
The bytes of a text in UTF-8. A character of ASCII is one byte with its own number; all bytes of
other characters have larger numbers than any of them, so that no byte is mistaken for one.
-/

namespace QueryComposer.Text

theorem utf8_cons (c : Char) (rest : List Char) :
    utf8 (c :: rest) = String.utf8EncodeChar c ++ utf8 rest :=
  List.flatMap_cons

theorem length_utf8 (chars : List Char) : (utf8 chars).length = byteLength chars := by
  induction chars with
  | nil => rfl
  | cons c rest inner =>
    rw [utf8_cons, List.length_append, String.length_utf8EncodeChar, inner, byteLength]

theorem toByteArray_ofList (chars : List Char) :
    (String.ofList chars).toByteArray = (utf8 chars).toByteArray :=
  String.toByteArray_ofList

theorem utf8ByteSize_ofList (chars : List Char) :
    (String.ofList chars).utf8ByteSize = byteLength chars := by
  rw [String.utf8ByteSize, toByteArray_ofList, ← length_utf8, List.size_toByteArray]

theorem utf8ByteSize_eq (text : String) : text.utf8ByteSize = byteLength text.toList := by
  rw [← utf8ByteSize_ofList, String.ofList_toList]

theorem getUTF8Byte_eq (text : String) (place : String.Pos.Raw)
    (inside : place < text.rawEndPos) :
    some (text.getUTF8Byte place inside) = (utf8 text.toList)[place.byteIdx]? := by
  have same : text.toByteArray = (utf8 text.toList).toByteArray := by
    rw [← toByteArray_ofList, String.ofList_toList]
  rw [String.getUTF8Byte_eq_getElem]
  simp [same, List.getElem_toByteArray]

/-- A character is one byte with its number, or bytes that are larger than any such number. -/
theorem utf8EncodeChar_cases (c : Char) :
    (c.toNat < 128 ∧ String.utf8EncodeChar c = [UInt8.ofNat c.toNat]) ∨
      (128 ≤ c.toNat ∧ ∀ byte ∈ String.utf8EncodeChar c, 128 ≤ byte.toNat) := by
  have number : c.val.toNat = c.toNat := rfl
  by_cases small : c.toNat < 128
  · exact .inl ⟨small, by rw [String.utf8EncodeChar, number]; exact if_pos (by omega)⟩
  · refine .inr ⟨by omega, ?_⟩
    intro byte listed
    rw [String.utf8EncodeChar, number] at listed
    simp only [if_neg (show ¬c.toNat ≤ 127 by omega)] at listed
    split at listed
    · simp only [List.mem_cons, List.not_mem_nil, or_false] at listed
      rcases listed with rfl | rfl <;> simp only [UInt8.toNat_ofNat'] <;> omega
    · split at listed
      · simp only [List.mem_cons, List.not_mem_nil, or_false] at listed
        rcases listed with rfl | rfl | rfl <;> simp only [UInt8.toNat_ofNat'] <;> omega
      · simp only [List.mem_cons, List.not_mem_nil, or_false] at listed
        rcases listed with rfl | rfl | rfl | rfl <;> simp only [UInt8.toNat_ofNat'] <;> omega

end QueryComposer.Text
