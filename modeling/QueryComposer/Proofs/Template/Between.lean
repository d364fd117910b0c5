import Mathlib.Data.List.Basic
import QueryComposer.Proofs.Placeholder.Places
import QueryComposer.Proofs.Template.InPlace

set_option autoImplicit false

/-!
What stands between the pieces of an applied template. The text that takes the place of one
placeholder stands between the filled text before it and the filled text behind it, and a character
next to the placeholder that cannot be part of one still stands next to that text.
-/

namespace QueryComposer

open QueryComposer.Lexical QueryComposer.Text

namespace Placeholder

/-- Two beginnings of a text with as many bytes are the same. -/
theorem eq_of_byteLength {first second firstRest secondRest : List Char}
    (whole : first ++ firstRest = second ++ secondRest)
    (size : byteLength first = byteLength second) : first = second ∧ firstRest = secondRest := by
  have cut := splitBytes_append first firstRest
  rw [whole, size, splitBytes_append] at cut
  exact Prod.mk.inj cut.symm

theorem token_namedAt (start : Nat) (name : List Char) :
    (namedAt start name).token = ':' :: name :=
  congrArg (':' :: ·) String.toList_ofList

theorem token_ne_nil (placeholder : Placeholder) : placeholder.token ≠ [] := by
  unfold token
  split
  · exact List.cons_ne_nil _ _
  · exact List.cons_ne_nil _ _

/-- A placeholder that is found is made of a colon and a name, or of a question mark. -/
theorem mem_token_cases {sql : String} {placeholder : Placeholder}
    (scanned : placeholder ∈ scan sql) {c : Char} (mem : c ∈ placeholder.token) :
    c = ':' ∨ c = '?' ∨ Literal.continuesName c = true := by
  cases kind : placeholder.kind with
  | named =>
    obtain ⟨_, after, _, _, rfl⟩ := mem_scanFrom_named_iff.mp ⟨scanned, kind⟩
    rw [token_namedAt] at mem
    rcases List.mem_cons.mp mem with colon | listed
    · exact Or.inl colon
    · exact Or.inr (Or.inr (List.all_eq_true.mp List.all_takeWhile c listed))
  | positional =>
    rw [token, kind] at mem
    exact Or.inr (Or.inl (List.mem_singleton.mp mem))

/-- What stands behind the colon of a placeholder that is found is a name. -/
theorem isName_of_mem_scan {sql : String} {start : Nat} {name : List Char}
    (scanned : namedAt start name ∈ scan sql) : Literal.isName name = true := by
  have named : NamedIn (maskChars sql.toList) (namedAt start name) := by
    rw [namedIn_iff]
    simpa only [Option.or_none, Nat.zero_add] using mem_scanFrom_named_iff.mp ⟨scanned, rfl⟩
  obtain ⟨_, other, _, _, _, isName, _, same⟩ := named
  have equal : name = other := String.ofList_inj.mp (congrArg Placeholder.name same)
  rwa [equal]

namespace Splices

variable {offset : Nat} {chars changed : List Char}

/-- The texts up to the placeholder of a replacement, and from there on. -/
theorem split {earlier later : List (Placeholder × String)} {placeholder : Placeholder}
    {text : String}
    (splices : Splices offset (earlier ++ (placeholder, text) :: later) chars changed) :
    ∃ front back start stop, chars = front ++ placeholder.token ++ back ∧
      changed = start ++ text.toList ++ stop ∧
      placeholder.start = offset + byteLength front ∧ Splices offset earlier front start ∧
      Splices placeholder.stop later back stop := by
  induction earlier generalizing offset chars changed with
  | nil =>
    cases splices with
    | next piece text starts stops further =>
      exact ⟨piece, _, piece, _, rfl, rfl, starts, .last offset piece, further⟩
  | cons first earlier inner =>
    cases splices with
    | @next _ piece other otherText _ rest behind starts stops further =>
      obtain ⟨front, back, start, stop, rfl, rfl, place, before, after⟩ := inner further
      refine ⟨piece ++ other.token ++ front, back, piece ++ otherText.toList ++ start, stop,
        by simp, by simp, ?_, .next piece otherText starts stops before, after⟩
      rw [byteLength_append, byteLength_append]
      omega

/-- A first character that is in no placeholder stays in front. -/
theorem cons {c : Char} {replacements : List (Placeholder × String)}
    (splices : Splices offset replacements (c :: chars) changed)
    (absent : ∀ replacement ∈ replacements, c ∉ replacement.1.token) :
    ∃ rest, changed = c :: rest ∧ Splices (offset + c.utf8Size) replacements chars rest := by
  generalize whole : c :: chars = text at splices
  cases splices with
  | last offset piece =>
    subst whole
    exact ⟨chars, rfl, .last _ chars⟩
  | @next _ piece placeholder inserted others rest behind starts stops further =>
    cases piece with
    | nil =>
      obtain ⟨first, token, split⟩ := List.exists_cons_of_ne_nil placeholder.token_ne_nil
      rw [List.nil_append, split, List.cons_append] at whole
      obtain ⟨rfl, -⟩ := List.cons.inj whole
      have mem : c ∈ placeholder.token := by
        rw [split]
        exact List.mem_cons_self
      exact absurd mem (absent _ List.mem_cons_self)
    | cons first piece =>
      obtain ⟨rfl, rfl⟩ := List.cons.inj whole
      refine ⟨piece ++ inserted.toList ++ behind, rfl, .next piece inserted ?_ stops further⟩
      rw [starts, byteLength]
      omega

/-- A last character that is in no placeholder stays at the end. -/
theorem concat {c : Char} {replacements : List (Placeholder × String)}
    (splices : Splices offset replacements (chars ++ [c]) changed)
    (absent : ∀ replacement ∈ replacements, c ∉ replacement.1.token) :
    ∃ rest, changed = rest ++ [c] ∧ Splices offset replacements chars rest := by
  generalize whole : chars ++ [c] = text at splices
  induction splices generalizing chars with
  | last offset piece =>
    subst whole
    exact ⟨chars, rfl, .last offset chars⟩
  | @next _ piece placeholder inserted others rest behind starts stops further inner =>
    rcases List.eq_nil_or_concat rest with rfl | ⟨front, last, rfl⟩
    -- the text would end with the placeholder, and so with one of its characters
    · have ends := congrArg List.getLast? whole
      rw [List.append_nil, List.getLast?_concat,
        List.getLast?_append_of_ne_nil _ placeholder.token_ne_nil] at ends
      exact absurd (List.mem_of_getLast? ends.symm) (absent _ List.mem_cons_self)
    · rw [List.concat_eq_append, ← List.append_assoc] at whole
      obtain ⟨rfl, same⟩ := List.append_inj' whole rfl
      obtain rfl : c = last := by simpa using same
      obtain ⟨filled, rfl, shorter⟩ := inner
        (fun replacement listed => absent replacement (List.mem_cons_of_mem _ listed))
        (by rw [List.concat_eq_append])
      exact ⟨piece ++ inserted.toList ++ filled, by simp,
        .next piece inserted starts stops shorter⟩

end Splices

end Placeholder

namespace Template

open QueryComposer.Placeholder

variable {template : Template} {values : ParameterValues} {policy : LiteralPolicy}

/-- Where a placeholder of an applied template stands between two characters that are in none, the
literal of its value stands between the same two. -/
theorem apply_between {output : String} (applied : template.apply values policy = .ok output)
    {placeholder : Placeholder} (scanned : placeholder ∈ Placeholder.scan template.sql)
    {front back : List Char} {opening closing : Char}
    (text : template.sql.toList =
      front ++ [opening] ++ placeholder.token ++ closing :: back)
    (place : placeholder.start = byteLength (front ++ [opening]))
    (absent : ∀ other ∈ Placeholder.scan template.sql,
      opening ∉ other.token ∧ closing ∉ other.token) :
    ∃ value earlier later start stop, template.valueFor? values placeholder = some value ∧
      earlier.map Prod.fst ++ placeholder :: later.map Prod.fst = Placeholder.scan template.sql ∧
      Splices 0 earlier front start ∧
      Splices (placeholder.stop + closing.utf8Size) later back stop ∧
      output.toList =
        start ++ opening :: ((Literal.ofValue policy value).toList ++ closing :: stop) := by
  obtain ⟨replacements, places, literals, splices⟩ := template.apply_splices values policy applied
  rw [← places] at scanned absent
  obtain ⟨replacement, listed, rfl⟩ := List.mem_map.mp scanned
  obtain ⟨earlier, later, rfl⟩ := List.append_of_mem listed
  obtain ⟨value, chosen, literal⟩ := literals replacement listed
  obtain ⟨before, after, start, stop, whole, filled, starts, spliced, further⟩ := splices.split
  rw [Nat.zero_add] at starts
  have same : before ++ (replacement.1.token ++ after) =
      (front ++ [opening]) ++ (replacement.1.token ++ closing :: back) := by
    rw [← List.append_assoc, ← whole, text, List.append_assoc]
  obtain ⟨rfl, rest⟩ := eq_of_byteLength same (starts.symm.trans place)
  obtain rfl := List.append_cancel_left rest
  have apart (other : Placeholder × String) (member : other ∈ earlier ++ replacement :: later) :
      opening ∉ other.1.token ∧ closing ∉ other.1.token :=
    absent other.1 (List.mem_map_of_mem member)
  obtain ⟨start, rfl, opened⟩ := spliced.concat
    (fun other member => (apart other (List.mem_append_left _ member)).1)
  obtain ⟨stop, rfl, closed⟩ := further.cons
    (fun other member =>
      (apart other (List.mem_append_right _ (List.mem_cons_of_mem _ member))).2)
  refine ⟨value, earlier, later, start, stop, chosen, ?_, opened, closed, ?_⟩
  · rw [← places, List.map_append, List.map_cons]
  · rw [filled, literal]
    simp

end Template

end QueryComposer
