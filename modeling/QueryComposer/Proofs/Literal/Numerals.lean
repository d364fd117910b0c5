import QueryComposer.Proofs.Literal.SelfContained
import QueryComposer.Proofs.Number.Digits

set_option autoImplicit false

/-!
Numbers are self-contained, as they are written and as they are read.
-/

namespace QueryComposer.Literal

open QueryComposer.Lexical QueryComposer.Number QueryComposer.Text

/-! ### Numbers as they are written -/

theorem isBare_of_test {test : Char → Bool}
    (fails : ['-', '/', '*', '\'', '"', ':', '?'].all (fun c => !test c) = true) {c : Char}
    (meets : test c = true) : isBare c = true := by
  have other (d : Char) (fails : test d = false) : c ≠ d := by
    rintro rfl
    simp [fails] at meets
  simp only [List.all_cons, List.all_nil, Bool.and_true, Bool.and_eq_true, Bool.not_eq_true']
    at fails
  obtain ⟨minus, slash, star, quote, double, colon, question⟩ := fails
  simp [isBare, isPlain, other _ minus, other _ slash, other _ star, other _ quote,
    other _ double, other _ colon, other _ question]

theorem isBare_asciiDigit {c : Char} (digit : isAsciiDigit c = true) : isBare c = true :=
  isBare_of_test (by decide) digit

theorem isBare_decimalDigit {c : Char} (digit : isDecimalDigit c = true) : isBare c = true :=
  isBare_of_test (by decide) digit

theorem isBare_isDigit {c : Char} (digit : c.isDigit = true) : isBare c = true :=
  isBare_of_test (by decide) digit

theorem all_mono {test further : Char → Bool} (implies : ∀ c, test c = true → further c = true)
    {chars : List Char} (all : chars.all test = true) : chars.all further = true := by
  rw [List.all_eq_true] at all ⊢
  exact fun c mem => implies c (all c mem)

theorem toDigits_bare (value : Nat) : (toDigits value).all isBare = true := by
  rw [List.all_eq_true]
  intro c mem
  exact isBare_isDigit (Nat.isDigit_of_mem_toDigits (by decide) (by decide) mem)

theorem positional_bare {digits : List Char} (bare : digits.all isBare = true) (places : Int) :
    (positional digits places).all isBare = true := by
  have zero : isBare '0' = true := by decide
  have point : isBare '.' = true := by decide
  rw [List.all_eq_true] at bare ⊢
  intro c mem
  unfold positional at mem
  split at mem
  · simp only [List.mem_cons, List.mem_append, List.mem_replicate] at mem
    rcases mem with rfl | rfl | ⟨-, rfl⟩ | mem
    · exact zero
    · exact point
    · exact zero
    · exact bare c mem
  · split at mem
    · rcases List.mem_append.mp mem with mem | mem
      · exact bare c mem
      · rw [(List.mem_replicate.mp mem).2, zero]
    · rcases List.mem_append.mp mem with mem | mem
      · exact bare c (List.mem_of_mem_take mem)
      · rcases List.mem_cons.mp mem with rfl | mem
        · exact point
        · exact bare c (List.mem_of_mem_drop mem)

theorem positional_ne_nil {digits : List Char} (nonempty : digits ≠ []) (places : Int) :
    positional digits places ≠ [] := by
  unfold positional
  split
  · simp
  · split <;> simp [nonempty]

theorem selfContained_cons_minus {chars : List Char} (first : chars.head?.any isBare = true)
    (contained : selfContained false chars = true) :
    selfContained false ('-' :: chars) = true := by
  cases chars with
  | nil => cases first
  | cons c chars =>
    have bare : isBare c = true := first
    rw [selfContained] at contained
    · rw [Bool.and_eq_true] at contained
      exact selfContained_minus bare contained.2
    · rintro rfl
      exact absurd bare (by decide)
    · rintro d rest rfl
      exact absurd bare (by decide)

theorem selfContained_bare_append {first second : List Char} (bare : first.all isBare = true)
    (contained : selfContained false second = true) :
    selfContained false (first ++ second) = true :=
  selfContained_append (selfContained_bare bare) contained

theorem selfContained_signed {chars : List Char} (bare : chars.all isBare = true)
    (nonempty : chars ≠ []) (negative : Bool) :
    selfContained false ((signText negative).toList ++ chars) = true := by
  cases negative with
  | false => exact selfContained_bare bare
  | true =>
    refine selfContained_cons_minus ?_ (selfContained_bare bare)
    cases chars with
    | nil => exact absurd rfl nonempty
    | cons c chars =>
      rw [List.all_cons, Bool.and_eq_true] at bare
      exact bare.1

theorem selfContained_int (number : Int) :
    selfContained false (toString number).toList = true := by
  rw [Int.toString_eq_repr]
  cases number with
  | ofNat value =>
    rw [Int.repr, toList_repr]
    exact selfContained_bare (toDigits_bare value)
  | negSucc value =>
    rw [Int.repr, String.toList_append, toList_repr]
    exact selfContained_signed (toDigits_bare _) Nat.toDigits_ne_nil true

theorem selfContained_display (number : Binary64) (finite : number.isFinite = true) :
    selfContained false number.display.toList = true := by
  cases number with
  | nan => cases finite
  | infinite negative => cases finite
  | finite negative mantissa exponent canonical =>
    rw [Binary64.display]
    split
    · rw [String.toList_append]
      exact selfContained_signed (by decide) (by decide) negative
    · rw [String.toList_append, String.toList_ofList]
      exact selfContained_signed (positional_bare (toDigits_bare _) _)
        (positional_ne_nil Nat.toDigits_ne_nil _) negative

/-! ### Numbers as they are read -/

theorem trimChars_mem {chars : List Char} {c : Char} (mem : c ∈ trimChars chars) : c ∈ chars := by
  have tail := List.mem_reverse.mp mem
  have middle := (List.dropWhile_suffix isBlank).subset tail
  exact (List.dropWhile_suffix isBlank).subset (List.mem_reverse.mp middle)

theorem isFraction_all {test : Char → Bool} {chars : List Char}
    (digits : ∀ c, isDecimalDigit c = true → test c = true) (point : test '.' = true)
    (fraction : isFraction chars = true) : chars.all test = true := by
  unfold isFraction at fraction
  split at fraction
  · rfl
  · rw [Bool.and_eq_true] at fraction
    rw [List.all_cons, point, all_mono digits fraction.2]
    rfl
  · cases fraction

/-- A number without sign begins with a digit, and has digits and points only. -/
theorem isUsualMagnitude_all {test : Char → Bool} {chars : List Char}
    (digits : ∀ c, isDecimalDigit c = true → test c = true)
    (ascii : ∀ c, isAsciiDigit c = true → test c = true) (point : test '.' = true)
    (usual : isUsualMagnitude chars = true) :
    chars.head?.any isAsciiDigit = true ∧ chars.all test = true := by
  unfold isUsualMagnitude at usual
  split at usual
  · next rest =>
    refine ⟨rfl, ?_⟩
    rw [List.all_cons, ascii '0' rfl, isFraction_all digits point usual]
    rfl
  · next c rest zero =>
    rw [Bool.and_eq_true] at usual
    have whole : (rest.takeWhile isDecimalDigit).all test = true :=
      all_mono digits List.all_takeWhile
    refine ⟨usual.1, ?_⟩
    rw [List.all_cons, ascii c usual.1, Bool.true_and,
      ← List.takeWhile_append_dropWhile (p := isDecimalDigit) (l := rest), List.all_append, whole,
      isFraction_all digits point usual.2]
    rfl
  · cases usual

theorem isUsualMagnitude_bare {chars : List Char} (usual : isUsualMagnitude chars = true) :
    chars.head?.any isAsciiDigit = true ∧ chars.all isBare = true :=
  isUsualMagnitude_all (fun c => isBare_decimalDigit) (fun c => isBare_asciiDigit) (by decide) usual

theorem trimChars_minus {c : Char} (visible : isBlank c = false) (rest : List Char) :
    ∃ kept, trimChars ('-' :: c :: rest) = '-' :: c :: kept ∧ ∀ d ∈ kept, d ∈ rest := by
  have minus : isBlank '-' = false := by decide
  have first : ('-' :: c :: rest).dropWhile isBlank = '-' :: c :: rest := by
    rw [List.dropWhile_cons_of_neg (by simp [minus])]
  have last : ('-' :: c :: rest).reverse.dropWhile isBlank =
      rest.reverse.dropWhile isBlank ++ [c, '-'] := by
    rw [List.reverse_cons, List.reverse_cons, List.append_assoc, List.dropWhile_append]
    split
    · next empty =>
      rw [List.isEmpty_iff.mp empty]
      simp [visible]
    · rfl
  refine ⟨(rest.reverse.dropWhile isBlank).reverse, ?_, ?_⟩
  · rw [trimChars, first, last, List.reverse_append]
    rfl
  · intro d mem
    have inside := (List.dropWhile_suffix isBlank).subset (List.mem_reverse.mp mem)
    exact List.mem_reverse.mp inside

theorem selfContained_usual {chars : List Char} (usual : isUsualNumber chars = true) :
    selfContained false (trimChars chars) = true := by
  unfold isUsualNumber at usual
  split at usual
  · next rest =>
    obtain ⟨digit, bare⟩ := isUsualMagnitude_bare usual
    cases rest with
    | nil => cases digit
    | cons c rest =>
      rw [List.all_cons, Bool.and_eq_true] at bare
      obtain ⟨kept, trimmed, inside⟩ := trimChars_minus (isBlank_asciiDigit digit) rest
      rw [trimmed]
      refine selfContained_minus bare.1 (selfContained_bare ?_)
      rw [List.all_eq_true] at bare ⊢
      exact fun d mem => bare.2 d (inside d mem)
  · obtain ⟨-, bare⟩ := isUsualMagnitude_bare usual
    refine selfContained_bare ?_
    rw [List.all_eq_true] at bare ⊢
    exact fun d mem => bare d (trimChars_mem mem)

theorem readNat?_bare {chars : List Char} (reads : (readNat? chars).isSome = true) :
    chars.all isBare = true ∧ chars.head?.any isBare = true := by
  unfold readNat? at reads
  split at reads
  · cases reads
  · next digits =>
    simp only [Bool.or_eq_true, Bool.not_eq_true', not_or, Bool.not_eq_true,
      Bool.not_eq_false] at digits
    have bare := all_mono (fun c => isBare_asciiDigit) digits.2
    refine ⟨bare, ?_⟩
    cases chars with
    | nil => cases digits.1
    | cons c chars =>
      rw [List.all_cons, Bool.and_eq_true] at bare
      exact bare.1

theorem selfContained_exponent {chars : List Char} (reads : (readExponent? chars).isSome = true) :
    selfContained false chars = true := by
  unfold readExponent? at reads
  split at reads
  · next rest =>
    rw [Option.isSome_map] at reads
    exact @selfContained_bare_append ['+'] rest (by decide)
      (selfContained_bare (readNat?_bare reads).1)
  · next rest =>
    rw [Option.isSome_map] at reads
    obtain ⟨bare, first⟩ := readNat?_bare reads
    exact selfContained_cons_minus first (selfContained_bare bare)
  · rw [Option.isSome_map] at reads
    exact selfContained_bare (readNat?_bare reads).1

/-- What may follow the digits: nothing, or a letter and an exponent. -/
theorem selfContained_afterDigits {chars : List Char}
    (reads : (match chars with
      | [] => some 0
      | mark :: tail => if mark = 'e' || mark = 'E' then readExponent? tail else none).isSome =
        true) :
    selfContained false chars = true := by
  cases chars with
  | nil => rfl
  | cons mark tail =>
    simp only at reads
    split at reads
    · next letter =>
      have bare : isBare mark = true := by
        rw [Bool.or_eq_true, decide_eq_true_eq, decide_eq_true_eq] at letter
        rcases letter with rfl | rfl <;> decide
      exact @selfContained_bare_append [mark] tail (by simp [bare])
        (selfContained_exponent reads)
    · cases reads

theorem head?_append_bare {front : List Char} (bare : front.all isBare = true)
    (nonempty : front.isEmpty = false) (rest : List Char) :
    (front ++ rest).head?.any isBare = true := by
  cases front with
  | nil => cases nonempty
  | cons c front =>
    rw [List.all_cons, Bool.and_eq_true] at bare
    exact bare.1

theorem selfContained_magnitude {negative : Bool} {chars : List Char}
    (reads : (readMagnitude? negative chars).isSome = true) :
    selfContained false chars = true ∧ chars.head?.any isBare = true := by
  have parted : chars.takeWhile isAsciiDigit ++ chars.dropWhile isAsciiDigit = chars :=
    List.takeWhile_append_dropWhile
  have whole : (chars.takeWhile isAsciiDigit).all isBare = true :=
    all_mono (fun c => isBare_asciiDigit) List.all_takeWhile
  unfold readMagnitude? at reads
  simp only at reads
  split at reads
  · next tail point =>
    split at reads
    · cases reads
    · rw [Option.isSome_map] at reads
      have fraction : (tail.takeWhile isAsciiDigit).all isBare = true :=
        all_mono (fun c => isBare_asciiDigit) List.all_takeWhile
      have front : (chars.takeWhile isAsciiDigit ++ '.' :: tail.takeWhile isAsciiDigit).all isBare =
          true := by
        rw [List.all_append, List.all_cons, whole, fraction]
        rfl
      rw [← parted, point, ← List.takeWhile_append_dropWhile (p := isAsciiDigit) (l := tail),
        ← List.cons_append, ← List.append_assoc]
      exact ⟨selfContained_bare_append front (selfContained_afterDigits reads),
        head?_append_bare front (by simp) _⟩
  · split at reads
    · cases reads
    · next some =>
      rw [Option.isSome_map] at reads
      simp only [List.isEmpty_nil, Bool.and_true, Bool.not_eq_true] at some
      rw [← parted]
      exact ⟨selfContained_bare_append whole (selfContained_afterDigits reads),
        head?_append_bare whole some _⟩

theorem readNamed?_bare {negative : Bool} {chars : List Char}
    (reads : (readNamed? negative chars).isSome = true) :
    chars.all isBare = true ∧ chars.head?.any isBare = true := by
  have letters : ∃ name ∈ ["inf".toList, "infinity".toList, "nan".toList],
      chars.map Char.toLower = name := by
    by_cases infinite : chars.map Char.toLower = "inf".toList
    · exact ⟨_, List.mem_cons_self, infinite⟩
    by_cases infinity : chars.map Char.toLower = "infinity".toList
    · exact ⟨_, List.mem_cons_of_mem _ List.mem_cons_self, infinity⟩
    by_cases undefined : chars.map Char.toLower = "nan".toList
    · exact ⟨_, List.mem_cons_of_mem _ (List.mem_cons_of_mem _ List.mem_cons_self), undefined⟩
    · simp only [readNamed?, infinite, infinity, undefined, decide_false, Bool.or_self] at reads
      cases reads
  obtain ⟨name, known, same⟩ := letters
  have listed : ["inf".toList, "infinity".toList, "nan".toList].all
      (fun name => name.all "infaty".toList.contains) = true := by decide
  have lowered : (chars.map Char.toLower).all "infaty".toList.contains = true := by
    rw [same]
    exact List.all_eq_true.mp listed name known
  have bare : chars.all isBare = true := by
    rw [List.all_map] at lowered
    exact all_mono (fun c => isBare_of_test (by decide)) lowered
  refine ⟨bare, ?_⟩
  cases chars with
  | nil =>
    rw [← same] at known
    exact absurd known (by decide)
  | cons c chars =>
    rw [List.all_cons, Bool.and_eq_true] at bare
    exact bare.1

theorem readBinary64?_plus (chars : List Char) :
    readBinary64? ('+' :: chars) = (readNamed? false chars).or (readMagnitude? false chars) := by
  simp only [readBinary64?]
  cases readNamed? false chars <;> rfl

theorem readBinary64?_minus (chars : List Char) :
    readBinary64? ('-' :: chars) = (readNamed? true chars).or (readMagnitude? true chars) := by
  simp only [readBinary64?]
  cases readNamed? true chars <;> rfl

theorem readBinary64?_unsigned {chars : List Char} (plus : chars.head? ≠ some '+')
    (minus : chars.head? ≠ some '-') :
    readBinary64? chars = (readNamed? false chars).or (readMagnitude? false chars) := by
  unfold readBinary64?
  split
  next parted =>
    split at parted
    · exact absurd rfl plus
    · exact absurd rfl minus
    · obtain ⟨rfl, rfl⟩ := Prod.mk.inj parted
      cases readNamed? false chars <;> rfl

theorem selfContained_unsigned {negative : Bool} {chars : List Char}
    (reads : ((readNamed? negative chars).or (readMagnitude? negative chars)).isSome = true) :
    selfContained false chars = true ∧ chars.head?.any isBare = true := by
  rw [Option.isSome_or, Bool.or_eq_true] at reads
  rcases reads with named | magnitude
  · obtain ⟨bare, first⟩ := readNamed?_bare named
    exact ⟨selfContained_bare bare, first⟩
  · exact selfContained_magnitude magnitude

theorem selfContained_number {chars : List Char} (reads : (readBinary64? chars).isSome = true) :
    selfContained false chars = true := by
  by_cases plus : chars.head? = some '+'
  · obtain ⟨rest, rfl⟩ := List.head?_eq_some_iff.mp plus
    rw [readBinary64?_plus] at reads
    exact @selfContained_bare_append ['+'] rest (by decide) (selfContained_unsigned reads).1
  by_cases minus : chars.head? = some '-'
  · obtain ⟨rest, rfl⟩ := List.head?_eq_some_iff.mp minus
    rw [readBinary64?_minus] at reads
    exact selfContained_cons_minus (selfContained_unsigned reads).2 (selfContained_unsigned reads).1
  · rw [readBinary64?_unsigned plus minus] at reads
    exact (selfContained_unsigned reads).1

end QueryComposer.Literal
