import QueryComposer.Proofs.Lexical.Seams
import QueryComposer.Sql.Literal

set_option autoImplicit false

/-!
Self-contained texts. Between quotes they hold anything; outside of quotes they hold no quote,
comment mark or placeholder, so that a text that begins in code ends in code.
-/

namespace QueryComposer.Literal

open QueryComposer.Lexical QueryComposer.Text

/-- Stands for itself, and is no part of a placeholder. -/
def isBare (c : Char) : Bool :=
  isPlain c && c != ':' && c != '?'

/-- Outside of quotes there are bare characters only, and minus signs in front of such; quotes are
closed. The flag tells whether the text begins between quotes. -/
def selfContained : Bool → List Char → Bool
  | quoted, [] => !quoted
  | true, c :: rest => selfContained (c ≠ '\'') rest
  | false, '\'' :: rest => selfContained true rest
  | false, '-' :: c :: rest => isBare c && selfContained false rest
  | false, c :: rest => isBare c && selfContained false rest

theorem selfContained_bare {chars : List Char} (bare : chars.all isBare = true) :
    selfContained false chars = true := by
  induction chars with
  | nil => rfl
  | cons c chars inner =>
    rw [List.all_cons, Bool.and_eq_true] at bare
    have quote : c ≠ '\'' := by
      rintro rfl
      exact absurd bare.1 (by decide)
    have minus : c ≠ '-' := by
      rintro rfl
      exact absurd bare.1 (by decide)
    rw [selfContained]
    · rw [bare.1, inner bare.2]
      rfl
    · exact quote
    · rintro d rest rfl
      exact absurd rfl minus

theorem selfContained_minus {c : Char} {rest : List Char} (bare : isBare c = true)
    (contained : selfContained false rest = true) :
    selfContained false ('-' :: c :: rest) = true := by
  rw [selfContained, bare, contained]
  rfl

theorem selfContained_append {quoted : Bool} {first second : List Char}
    (left : selfContained quoted first = true) (right : selfContained false second = true) :
    selfContained quoted (first ++ second) = true := by
  fun_induction selfContained quoted first with
  | case1 quoted => simp_all
  | case2 c rest inner => simpa only [List.cons_append, selfContained] using inner left
  | case3 rest inner => simpa only [List.cons_append, selfContained] using inner left
  | case4 c rest inner =>
    rw [Bool.and_eq_true] at left
    exact selfContained_minus left.1 (inner left.2)
  | case5 c rest quote minus inner =>
    rw [Bool.and_eq_true] at left
    rw [List.cons_append, selfContained]
    · rw [left.1, inner left.2]
      rfl
    · exact quote
    · rintro d tail rfl
      exact absurd left.1 (by decide)

/-! ### How such texts are read -/

/-- What comes after quotes or code. -/
def regionOf (quoted : Bool) : Region :=
  if quoted then .literal else .code

/-- A text that ends in code, shows no placeholder, and can only form a mark with a quote after
it. -/
structure Settled (region : Region) (chars : List Char) : Prop where
  code : regionAfter region chars = .code
  shows : ∀ c ∈ maskFrom region chars, c ≠ ':' ∧ c ≠ '?'
  ends : (maskFrom region chars).getLast? = chars.getLast?
  last : ∀ c ∈ chars.getLast?, c ≠ '-' ∧ c ≠ '/' ∧ c ≠ '"'

theorem Settled.nil : Settled .code [] :=
  ⟨rfl, by simp [maskFrom], rfl, by simp⟩

theorem Settled.ne_nil {rest : List Char} (settled : Settled .literal rest) : rest ≠ [] := by
  rintro rfl
  cases settled.code

theorem Settled.cons {region : Region} {c : Char} {rest : List Char}
    (alone : ∀ next ∈ rest.head?, mark? region c next = none)
    (settled : Settled (single region c).2 rest)
    (shows : ∀ d ∈ shown (c, (single region c).1), d ≠ ':' ∧ d ≠ '?')
    (last : rest ≠ [] ∨ (c ≠ '-' ∧ c ≠ '/' ∧ c ≠ '"')) :
    Settled region (c :: rest) := by
  have later : ∀ d ∈ maskFrom region (c :: rest), d ≠ ':' ∧ d ≠ '?' := by
    rw [maskFrom_single alone]
    intro d mem
    rcases List.mem_append.mp mem with first | after
    · exact shows d first
    · exact settled.shows d after
  refine ⟨by rw [regionAfter_single alone, settled.code], later, ?_, ?_⟩
  · rw [maskFrom_single alone]
    by_cases empty : rest = []
    · subst empty
      have code : (single region c).2 = .code := settled.code
      rw [code, single_to_code code]
      rfl
    · rw [getLast?_append_maskFrom _ empty, settled.ends, ← List.singleton_append,
        List.getLast?_append, Option.or_of_isSome (by simpa using empty)]
  · intro d ends
    cases rest with
    | nil =>
      cases ends
      exact last.resolve_left (by simp)
    | cons e rest =>
      rw [List.getLast?_cons_cons] at ends
      exact settled.last d ends

theorem Settled.of_quote {rest : List Char} (settled : Settled .code ('\'' :: rest)) :
    Settled .literal rest := by
  have alone : ∀ next ∈ rest.head?, mark? .code '\'' next = none := fun next _ => rfl
  have code := settled.code
  rw [regionAfter_single alone] at code
  have masked : maskFrom .code ('\'' :: rest) = ['\''] ++ maskFrom .literal rest :=
    maskFrom_single alone
  have nonempty : rest ≠ [] := by
    rintro rfl
    cases code
  have tail : ('\'' :: rest).getLast? = rest.getLast? := by
    cases rest with
    | nil => exact absurd rfl nonempty
    | cons d rest => exact List.getLast?_cons_cons
  refine ⟨code, ?_, ?_, ?_⟩
  · intro d mem
    exact settled.shows d (by rw [masked]; exact List.mem_cons_of_mem _ mem)
  · rw [← tail, ← settled.ends, masked, getLast?_append_maskFrom _ nonempty]
  · rw [← tail]
    exact settled.last

theorem Settled.doubled {rest : List Char} (settled : Settled .literal rest) :
    Settled .literal ('\'' :: '\'' :: rest) := by
  have mark : mark? .literal '\'' '\'' = some (.literal, .literal) := rfl
  have blank : shown ('\'', .literal) = [' '] := by decide
  have nonempty : rest ≠ [] := settled.ne_nil
  have tail : ('\'' :: '\'' :: rest).getLast? = rest.getLast? := by
    cases rest with
    | nil => exact absurd rfl nonempty
    | cons d rest => rw [List.getLast?_cons_cons, List.getLast?_cons_cons]
  refine ⟨?_, ?_, ?_, ?_⟩
  · rw [regionAfter_mark mark, settled.code]
  · rw [maskFrom_mark mark, blank]
    intro d mem
    rcases List.mem_append.mp mem with first | later
    · simp only [List.cons_append, List.nil_append, List.mem_cons, List.not_mem_nil, or_false,
        or_self] at first
      rw [first]
      decide
    · exact settled.shows d later
  · rw [maskFrom_mark mark, getLast?_append_maskFrom _ nonempty, tail, settled.ends]
  · rw [tail]
    exact settled.last

theorem isBare_iff {c : Char} : isBare c = true ↔ isPlain c = true ∧ c ≠ ':' ∧ c ≠ '?' := by
  simp [isBare, and_assoc]

theorem Settled.bare {c : Char} {rest : List Char} (bare : isBare c = true)
    (settled : Settled .code rest) : Settled .code (c :: rest) := by
  obtain ⟨plain, colon, question⟩ := isBare_iff.mp bare
  refine .cons (fun next _ => mark?_plain_left plain .code next) ?_ ?_ (.inr ?_)
  · rw [single_plain plain]
    exact settled
  · simp [single_plain plain, shown, colon, question]
  · simp only [isPlain, List.contains_eq_mem] at plain
    simp_all

theorem settled_of_selfContained {quoted : Bool} {chars : List Char}
    (contained : selfContained quoted chars = true) : Settled (regionOf quoted) chars := by
  fun_induction selfContained quoted chars with
  | case1 quoted =>
    cases quoted with
    | false => exact .nil
    | true => cases contained
  | case2 c rest inner =>
    have settled := inner contained
    by_cases quote : c = '\''
    · subst quote
      by_cases doubled : rest.head? = some '\''
      · obtain ⟨tail, rfl⟩ := List.head?_eq_some_iff.mp doubled
        exact settled.of_quote.doubled
      · refine .cons ?_ settled (by simp [regionOf, single, shown]) (.inr (by decide))
        intro next head
        have other : next ≠ '\'' := by
          rintro rfl
          exact doubled head
        simp [regionOf, mark?, other]
    · have inside : single .literal c = (.literal, .literal) := by simp [single, quote]
      have next : decide (c ≠ '\'') = true := decide_eq_true quote
      rw [next] at settled
      have literal : Settled .literal rest := settled
      refine .cons ?_ ?_ ?_ (.inl literal.ne_nil)
      · simp [regionOf, mark?, quote]
      · rw [regionOf, if_pos rfl, inside]
        exact literal
      · simp [regionOf, inside, shown, blanksFor]
  | case3 rest inner =>
    exact .cons (fun next _ => rfl) (inner contained) (by simp [regionOf, single, shown])
      (.inr (by decide))
  | case4 c rest inner =>
    rw [Bool.and_eq_true] at contained
    have settled := Settled.bare contained.1 (inner contained.2)
    refine .cons ?_ settled (by simp [regionOf, single, shown]) (.inl (by simp))
    intro next head
    cases head
    exact mark?_plain_right (isBare_iff.mp contained.1).1 .code '-'
  | case5 c rest quote minus inner =>
    rw [Bool.and_eq_true] at contained
    exact .bare contained.1 (inner contained.2)

/-! ### Quoted texts -/

theorem selfContained_doubleQuotes (chars : List Char) :
    selfContained true (doubleQuotes chars ++ ['\'']) = true := by
  induction chars with
  | nil => rfl
  | cons c chars inner =>
    by_cases quote : c = '\''
    · simpa [doubleQuotes, quote, selfContained] using inner
    · simpa [doubleQuotes, quote, selfContained] using inner

theorem selfContained_quoteChars (chars : List Char) :
    selfContained false (quoteChars chars) = true :=
  selfContained_doubleQuotes chars

end QueryComposer.Literal
