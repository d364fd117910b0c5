import QueryComposer.Proofs.Literal.Usual

set_option autoImplicit false

/-!
The forms in which texts are written without quotes. A text that reads as a number is, without the
white space around it, a decimal number over ASCII. A number in its usual form may have digits of
any script behind the first one; over ASCII it is a decimal number too.
-/

namespace QueryComposer.Literal

open QueryComposer.Number QueryComposer.Text

/-! ### Decimal numbers -/

/-- No sign, or one of the two. -/
inductive IsSign : List Char → Prop
  | none : IsSign []
  | plus : IsSign ['+']
  | minus : IsSign ['-']

/-- Nothing, or a letter, a sign or none, and at least one digit. -/
inductive IsExponent : List Char → Prop
  | none : IsExponent []
  | marked {mark : Char} {sign digits : List Char} (letter : mark = 'e' ∨ mark = 'E')
      (signed : IsSign sign) (all : AreDigits digits) (nonempty : digits ≠ []) :
      IsExponent (mark :: (sign ++ digits))

/-- At least one digit, a point or none, and an exponent or none. -/
inductive IsMagnitude : List Char → Prop
  | whole {digits power : List Char} (all : AreDigits digits) (nonempty : digits ≠ [])
      (scaled : IsExponent power) : IsMagnitude (digits ++ power)
  | pointed {whole fraction power : List Char} (before : AreDigits whole)
      (after : AreDigits fraction) (nonempty : whole ++ fraction ≠ []) (scaled : IsExponent power) :
      IsMagnitude (whole ++ '.' :: (fraction ++ power))

/-- A decimal number over ASCII with an optional sign. -/
inductive IsDecimal : List Char → Prop
  | signed {sign magnitude : List Char} (signed : IsSign sign) (plain : IsMagnitude magnitude) :
      IsDecimal (sign ++ magnitude)

theorem all_isNumberChar_of_areDigits {digits : List Char} (all : AreDigits digits) :
    digits.all isNumberChar = true :=
  List.all_eq_true.mpr (fun c member => isNumberChar_of_isAsciiDigit (all c member))

theorem IsSign.all_isNumberChar {sign : List Char} (signed : IsSign sign) :
    sign.all isNumberChar = true := by
  cases signed <;> rfl

theorem IsExponent.all_isNumberChar {power : List Char} (scaled : IsExponent power) :
    power.all isNumberChar = true := by
  cases scaled with
  | none => rfl
  | marked letter signed all nonempty =>
    rw [List.all_cons, List.all_append, signed.all_isNumberChar, all_isNumberChar_of_areDigits all]
    rcases letter with rfl | rfl <;> rfl

theorem IsMagnitude.all_isNumberChar {chars : List Char} (plain : IsMagnitude chars) :
    chars.all isNumberChar = true := by
  cases plain with
  | whole all nonempty scaled =>
    rw [List.all_append, all_isNumberChar_of_areDigits all, scaled.all_isNumberChar]
    rfl
  | pointed before after nonempty scaled =>
    rw [List.all_append, List.all_cons, List.all_append, all_isNumberChar_of_areDigits before,
      all_isNumberChar_of_areDigits after, scaled.all_isNumberChar]
    rfl

/-- A magnitude begins with a digit or with a point. -/
theorem IsMagnitude.head?_any {chars : List Char} (plain : IsMagnitude chars) :
    chars.head?.any (fun c => isAsciiDigit c || c = '.') = true := by
  cases plain with
  | @whole digits power all nonempty scaled =>
    cases digits with
    | nil => contradiction
    | cons c digits => simp [all c List.mem_cons_self]
  | @pointed whole fraction power before after nonempty scaled =>
    cases whole with
    | nil => rfl
    | cons c whole => simp [before c List.mem_cons_self]

theorem IsMagnitude.head?_ne {chars : List Char} (plain : IsMagnitude chars) {sign : Char}
    (other : (isAsciiDigit sign || sign = '.') = false) : chars.head? ≠ some sign := by
  intro same
  have first := plain.head?_any
  rw [same, Option.any_some, other] at first
  contradiction

/-! ### Reading them -/

theorem isSome_readNat? {chars : List Char} :
    (readNat? chars).isSome = true ↔ AreDigits chars ∧ chars ≠ [] := by
  rw [← List.isEmpty_eq_false_iff, AreDigits, ← List.all_eq_true, readNat?]
  cases chars.isEmpty <;> cases chars.all isAsciiDigit <;> simp

theorem isSome_readExponent? {chars : List Char} :
    (readExponent? chars).isSome = true ↔
      ∃ sign digits, IsSign sign ∧ AreDigits digits ∧ digits ≠ [] ∧ chars = sign ++ digits := by
  constructor
  · intro reads
    unfold readExponent? at reads
    split at reads
    · next rest =>
      rw [Option.isSome_map, isSome_readNat?] at reads
      exact ⟨['+'], rest, .plus, reads.1, reads.2, rfl⟩
    · next rest =>
      rw [Option.isSome_map, isSome_readNat?] at reads
      exact ⟨['-'], rest, .minus, reads.1, reads.2, rfl⟩
    · rw [Option.isSome_map, isSome_readNat?] at reads
      exact ⟨[], chars, .none, reads.1, reads.2, rfl⟩
  · rintro ⟨sign, digits, signed, all, nonempty, rfl⟩
    have number := isSome_readNat?.mpr ⟨all, nonempty⟩
    cases signed with
    | none =>
      rw [List.nil_append, readExponent?, Option.isSome_map, number]
      · rintro rest rfl
        cases all '+' List.mem_cons_self
      · rintro rest rfl
        cases all '-' List.mem_cons_self
    | plus =>
      rw [List.singleton_append, readExponent?, Option.isSome_map, number]
    | minus =>
      rw [List.singleton_append, readExponent?, Option.isSome_map, number]

/-- What is read behind the digits is an exponent or nothing. -/
theorem isSome_afterDigits {chars : List Char} :
    (match chars with
      | [] => some 0
      | mark :: tail => if mark = 'e' || mark = 'E' then readExponent? tail else none).isSome =
        true ↔ IsExponent chars := by
  cases chars with
  | nil => exact ⟨fun _ => .none, fun _ => rfl⟩
  | cons mark tail =>
    constructor
    · intro reads
      simp only at reads
      split at reads
      · next letter =>
        rw [Bool.or_eq_true, decide_eq_true_eq, decide_eq_true_eq] at letter
        obtain ⟨sign, digits, signed, all, nonempty, rfl⟩ := isSome_readExponent?.mp reads
        exact .marked letter signed all nonempty
      · cases reads
    · intro scaled
      cases scaled with
      | marked letter signed all nonempty =>
        have reads := isSome_readExponent?.mpr ⟨_, _, signed, all, nonempty, rfl⟩
        rcases letter with rfl | rfl <;> exact reads

theorem IsExponent.stops {power : List Char} (scaled : IsExponent power) :
    ∀ c, power.head? = some c → isAsciiDigit c = false ∧ c ≠ '.' := by
  intro c first
  cases scaled with
  | none => cases first
  | marked letter signed all nonempty =>
    cases first
    rcases letter with rfl | rfl <;> decide

theorem isMagnitude_of_reads {negative : Bool} {chars : List Char}
    (reads : (readMagnitude? negative chars).isSome = true) : IsMagnitude chars := by
  have parted : chars.takeWhile isAsciiDigit ++ chars.dropWhile isAsciiDigit = chars :=
    List.takeWhile_append_dropWhile
  have digits (run : List Char) : AreDigits (run.takeWhile isAsciiDigit) :=
    List.all_eq_true.mp List.all_takeWhile
  unfold readMagnitude? at reads
  simp only at reads
  split at reads
  · next tail point =>
    split at reads
    · cases reads
    · next digit =>
      rw [Option.isSome_map] at reads
      rw [← parted, point, ← List.takeWhile_append_dropWhile (p := isAsciiDigit) (l := tail)]
      exact .pointed (digits chars) (digits tail) (by simpa using digit)
        (isSome_afterDigits.mp reads)
  · split at reads
    · cases reads
    · next digit =>
      rw [Option.isSome_map] at reads
      rw [← parted]
      exact .whole (digits chars) (by simpa using digit) (isSome_afterDigits.mp reads)

theorem IsMagnitude.reads {chars : List Char} (plain : IsMagnitude chars) (negative : Bool) :
    (readMagnitude? negative chars).isSome = true := by
  cases plain with
  | @whole digits power all nonempty scaled =>
    obtain ⟨taken, dropped⟩ :=
      takeWhile_run all (fun c first => (scaled.stops c first).1)
    have digit : ¬(digits.isEmpty && ([] : List Char).isEmpty) = true := by simp [nonempty]
    unfold readMagnitude?
    rw [taken, dropped]
    simp only
    split
    · exact absurd rfl (scaled.stops '.' rfl).2
    · rw [if_neg digit, Option.isSome_map]
      exact isSome_afterDigits.mpr scaled
  | @pointed whole fraction power before after nonempty scaled =>
    have stops : ∀ c, ('.' :: (fraction ++ power)).head? = some c → isAsciiDigit c = false := by
      intro c first
      cases first
      rfl
    obtain ⟨taken, dropped⟩ := takeWhile_run before stops
    obtain ⟨further, behind⟩ :=
      takeWhile_run after (fun c first => (scaled.stops c first).1)
    have digit : ¬(whole.isEmpty && fraction.isEmpty) = true := by simpa using nonempty
    unfold readMagnitude?
    rw [taken, dropped]
    simp only [further, behind]
    rw [if_neg digit, Option.isSome_map]
    exact isSome_afterDigits.mpr scaled

/-- What holds of all characters in ASCII holds of one of them. -/
theorem of_ascii {holds : Char → Prop} (table : ∀ point < 128, holds (Char.ofNat point)) {c : Char}
    (ascii : c.toNat < 128) : holds c := by
  have here := table c.toNat ascii
  rwa [Char.ofNat_toNat] at here

theorem isNumberChar_ascii {c : Char} (number : isNumberChar c = true) : c.toNat < 128 := by
  simp only [isNumberChar, isAsciiDigit, Bool.or_eq_true, Bool.and_eq_true,
    decide_eq_true_eq] at number
  rcases number with ((((digit | rfl) | rfl) | rfl) | rfl) | rfl
  · exact Nat.lt_of_le_of_lt digit.2 (by decide)
  all_goals decide

/-- No character of numbers is the letter that all names of numbers without digits have. -/
theorem toLower_isNumberChar {c : Char} (number : isNumberChar c = true) : c.toLower ≠ 'n' :=
  @of_ascii (fun c => isNumberChar c = true → c.toLower ≠ 'n') (by decide) c
    (isNumberChar_ascii number) number

theorem readNamed?_eq_none {chars : List Char} (numeric : chars.all isNumberChar = true)
    (negative : Bool) : readNamed? negative chars = none := by
  have absent : 'n' ∉ chars.map Char.toLower := by
    intro letter
    obtain ⟨c, member, same⟩ := List.mem_map.mp letter
    exact toLower_isNumberChar (List.all_eq_true.mp numeric c member) same
  have other {name : List Char} (letter : 'n' ∈ name) : chars.map Char.toLower ≠ name := by
    rintro rfl
    exact absent letter
  have infinite : chars.map Char.toLower ≠ "inf".toList := other (by decide)
  have infinity : chars.map Char.toLower ≠ "infinity".toList := other (by decide)
  have undefined : chars.map Char.toLower ≠ "nan".toList := other (by decide)
  simp only [readNamed?, infinite, infinity, undefined, decide_false, Bool.or_self]
  rfl

/-- Behind the sign, numbers are digits only: the characters do not make up a name. -/
theorem isSome_unsigned {negative : Bool} {chars : List Char}
    (numeric : chars.all isNumberChar = true) :
    ((readNamed? negative chars).or (readMagnitude? negative chars)).isSome = true ↔
      IsMagnitude chars := by
  rw [readNamed?_eq_none numeric, Option.none_or]
  exact ⟨isMagnitude_of_reads, fun plain => plain.reads negative⟩

theorem isDecimal_of_reads {chars : List Char} (numeric : chars.all isNumberChar = true)
    (reads : (readBinary64? chars).isSome = true) : IsDecimal chars := by
  by_cases plus : chars.head? = some '+'
  · obtain ⟨rest, rfl⟩ := List.head?_eq_some_iff.mp plus
    rw [List.all_cons, Bool.and_eq_true] at numeric
    rw [readBinary64?_plus, isSome_unsigned numeric.2] at reads
    exact .signed .plus reads
  by_cases minus : chars.head? = some '-'
  · obtain ⟨rest, rfl⟩ := List.head?_eq_some_iff.mp minus
    rw [List.all_cons, Bool.and_eq_true] at numeric
    rw [readBinary64?_minus, isSome_unsigned numeric.2] at reads
    exact .signed .minus reads
  · rw [readBinary64?_unsigned plus minus, isSome_unsigned numeric] at reads
    exact .signed .none reads

theorem IsDecimal.all_isNumberChar {chars : List Char} (decimal : IsDecimal chars) :
    chars.all isNumberChar = true := by
  cases decimal with
  | signed signed plain =>
    rw [List.all_append, signed.all_isNumberChar, plain.all_isNumberChar]
    rfl

theorem IsDecimal.reads {chars : List Char} (decimal : IsDecimal chars) :
    (readBinary64? chars).isSome = true := by
  cases decimal with
  | @signed sign magnitude signed plain =>
    have reads (negative : Bool) :=
      (@isSome_unsigned negative _ plain.all_isNumberChar).mpr plain
    cases signed with
    | none =>
      rw [List.nil_append, readBinary64?_unsigned (plain.head?_ne rfl) (plain.head?_ne rfl), reads]
    | plus => rw [List.singleton_append, readBinary64?_plus, reads]
    | minus => rw [List.singleton_append, readBinary64?_minus, reads]

theorem isDecimal_iff {chars : List Char} :
    chars.all isNumberChar = true ∧ (readBinary64? chars).isSome = true ↔ IsDecimal chars :=
  ⟨fun number => isDecimal_of_reads number.1 number.2,
    fun decimal => ⟨decimal.all_isNumberChar, decimal.reads⟩⟩

instance (chars : List Char) : Decidable (IsDecimal chars) :=
  decidable_of_iff _ isDecimal_iff

/-- Exactly the decimal numbers, with white space around them, read as numbers. -/
theorem readsAsNumber_iff {chars : List Char} :
    readsAsNumber chars = true ↔ IsDecimal (trimChars chars) := by
  rw [← isDecimal_iff, readsAsNumber, Bool.and_assoc, Bool.and_eq_true, Bool.and_eq_true]
  constructor
  · exact fun number => number.2
  · intro number
    refine ⟨?_, number⟩
    cases empty : trimChars chars with
    | nil =>
      rw [empty] at number
      exact absurd number.2 (by decide)
    | cons c rest => rfl

/-! ### The usual form -/

/-- Zero, or digits of which the first is ASCII and not zero. -/
inductive IsWhole (digit : Char → Bool) : List Char → Prop
  | zero : IsWhole digit ['0']
  | leading {first : Char} {rest : List Char} (ascii : isAsciiDigit first = true)
      (positive : first ≠ '0') (all : ∀ c ∈ rest, digit c = true) : IsWhole digit (first :: rest)

/-- Nothing, or a point and at least one digit. -/
inductive IsPart (digit : Char → Bool) : List Char → Prop
  | none : IsPart digit []
  | pointed {digits : List Char} (all : ∀ c ∈ digits, digit c = true) (nonempty : digits ≠ []) :
      IsPart digit ('.' :: digits)

/-- A whole number without leading zeros, and digits behind a point or none. -/
inductive IsPlain (digit : Char → Bool) : List Char → Prop
  | parts {whole part : List Char} (before : IsWhole digit whole) (behind : IsPart digit part) :
      IsPlain digit (whole ++ part)

/-- A number in its usual form, written with the given digits: a minus sign or none before it. -/
inductive IsUsual (digit : Char → Bool) : List Char → Prop
  | unsigned {chars : List Char} (plain : IsPlain digit chars) : IsUsual digit chars
  | negative {chars : List Char} (plain : IsPlain digit chars) : IsUsual digit ('-' :: chars)

theorem isFraction_iff {chars : List Char} :
    isFraction chars = true ↔ IsPart isDecimalDigit chars := by
  constructor
  · intro fraction
    unfold isFraction at fraction
    split at fraction
    · exact .none
    · rw [Bool.and_eq_true, List.all_eq_true] at fraction
      exact .pointed fraction.2 (by simpa using fraction.1)
    · cases fraction
  · intro part
    cases part with
    | none => rfl
    | pointed all nonempty => simpa [isFraction, nonempty] using all

theorem isUsualMagnitude_iff {chars : List Char} :
    isUsualMagnitude chars = true ↔ IsPlain isDecimalDigit chars := by
  constructor
  · intro usual
    unfold isUsualMagnitude at usual
    split at usual
    · next rest => exact .parts .zero (isFraction_iff.mp usual)
    · next c rest positive =>
      rw [Bool.and_eq_true] at usual
      have parted : rest.takeWhile isDecimalDigit ++ rest.dropWhile isDecimalDigit = rest :=
        List.takeWhile_append_dropWhile
      rw [← parted, ← List.cons_append]
      refine .parts (.leading usual.1 ?_ ?_) (isFraction_iff.mp usual.2)
      · rintro rfl
        exact positive rfl
      · exact List.all_eq_true.mp List.all_takeWhile
    · cases usual
  · intro plain
    cases plain with
    | @parts whole part before behind =>
      have fraction := isFraction_iff.mpr behind
      cases before with
      | zero => exact fraction
      | @leading first rest ascii positive all =>
        have stops : ∀ c, part.head? = some c → isDecimalDigit c = false := by
          intro c head
          cases behind with
          | none => cases head
          | pointed all nonempty =>
            cases head
            rfl
        have dropped := (takeWhile_run all stops).2
        rw [List.cons_append, isUsualMagnitude, dropped, ascii, fraction]
        · rfl
        · exact positive

theorem isUsualNumber_iff {chars : List Char} :
    isUsualNumber chars = true ↔ IsUsual isDecimalDigit chars := by
  constructor
  · intro usual
    unfold isUsualNumber at usual
    split at usual
    · exact .negative (isUsualMagnitude_iff.mp usual)
    · exact .unsigned (isUsualMagnitude_iff.mp usual)
  · intro usual
    cases usual with
    | negative plain => exact isUsualMagnitude_iff.mpr plain
    | unsigned plain =>
      have magnitude := isUsualMagnitude_iff.mpr plain
      rw [isUsualNumber]
      · exact magnitude
      · rintro rest rfl
        cases magnitude

instance (chars : List Char) : Decidable (IsUsual isDecimalDigit chars) :=
  decidable_of_iff _ isUsualNumber_iff

/-! ### Digits of the usual form -/

theorem IsPlain.mono {digit further : Char → Bool} {chars : List Char}
    (plain : IsPlain digit chars)
    (implies : ∀ c ∈ chars, digit c = true → further c = true) : IsPlain further chars := by
  cases plain with
  | @parts whole part before behind =>
    refine .parts ?_ ?_
    · cases before with
      | zero => exact .zero
      | leading ascii positive all =>
        refine .leading ascii positive (fun c member => implies c ?_ (all c member))
        simp [member]
    · cases behind with
      | none => exact .none
      | pointed all nonempty =>
        refine .pointed (fun c member => implies c ?_ (all c member)) nonempty
        simp [member]

theorem IsUsual.mono {digit further : Char → Bool} {chars : List Char}
    (usual : IsUsual digit chars)
    (implies : ∀ c ∈ chars, digit c = true → further c = true) : IsUsual further chars := by
  cases usual with
  | unsigned plain => exact .unsigned (plain.mono implies)
  | negative plain =>
    exact .negative (plain.mono (fun c member => implies c (List.mem_cons_of_mem _ member)))

theorem IsPlain.isMagnitude {chars : List Char} (plain : IsPlain isAsciiDigit chars) :
    IsMagnitude chars := by
  cases plain with
  | @parts whole part before behind =>
    have digits : AreDigits whole ∧ whole ≠ [] := by
      cases before with
      | zero => exact ⟨fun c member => by rw [List.mem_singleton.mp member]; rfl, by simp⟩
      | leading ascii positive all => exact ⟨List.forall_mem_cons.mpr ⟨ascii, all⟩, by simp⟩
    cases behind with
    | none => exact .whole digits.1 digits.2 .none
    | @pointed fraction all nonempty =>
      have pointed := IsMagnitude.pointed digits.1 all (by simp [nonempty]) .none
      rwa [List.append_nil] at pointed

/-- A number in its usual form over ASCII is a decimal number. -/
theorem IsUsual.isDecimal {chars : List Char} (usual : IsUsual isAsciiDigit chars) :
    IsDecimal chars := by
  cases usual with
  | unsigned plain => exact .signed .none plain.isMagnitude
  | negative plain => exact .signed .minus plain.isMagnitude

theorem isAsciiDigit_of_ascii {c : Char} (ascii : c.toNat < 128)
    (digit : isDecimalDigit c = true) : isAsciiDigit c = true :=
  @of_ascii (fun c => isDecimalDigit c = true → isAsciiDigit c = true) (by decide) c ascii digit

/-- A text in ASCII. -/
def IsAscii (chars : List Char) : Prop :=
  ∀ c ∈ chars, c.toNat < 128

instance (chars : List Char) : Decidable (IsAscii chars) :=
  decidable_of_iff (chars.all (fun c => decide (c.toNat < 128)) = true) (by simp [IsAscii])

theorem IsDecimal.isAscii {chars : List Char} (decimal : IsDecimal chars) : IsAscii chars :=
  fun c member => isNumberChar_ascii (List.all_eq_true.mp decimal.all_isNumberChar c member)

/-- Of the numbers in their usual form those over ASCII are the decimal numbers. -/
theorem IsUsual.isAscii_iff {chars : List Char} (usual : IsUsual isDecimalDigit chars) :
    (IsUsual isAsciiDigit chars ↔ IsAscii chars) ∧ (IsDecimal chars ↔ IsAscii chars) := by
  have narrowed (ascii : IsAscii chars) : IsUsual isAsciiDigit chars :=
    usual.mono (fun c member => isAsciiDigit_of_ascii (ascii c member))
  exact ⟨⟨fun usual => usual.isDecimal.isAscii, narrowed⟩,
    ⟨fun decimal => decimal.isAscii, fun ascii => (narrowed ascii).isDecimal⟩⟩

/-! ### Texts as literals -/

theorem ofText_of_free {text : String} (free : isReference text = false) (policy : LiteralPolicy) :
    ofText policy text =
      if looksNumericChars policy text.toList then trim text else quote text := by
  rw [ofText, textChars, if_neg (by rw [← isReference, free]; exact Bool.false_ne_true)]
  split <;> rfl

theorem ofText_permissive {text : String} (free : isReference text = false) :
    ofText .permissive text = if IsDecimal (trim text).toList then trim text else quote text := by
  rw [ofText_of_free free, looksNumericChars, trim, String.toList_ofList]
  simp only [readsAsNumber_iff]

theorem ofText_strict {text : String} (free : isReference text = false) :
    ofText .strict text = if IsUsual isDecimalDigit text.toList then text else quote text := by
  rw [ofText_of_free free, looksNumericChars]
  simp only [isUsualNumber_iff]
  split
  · next usual => rw [trim, trimChars_usual (isUsualNumber_iff.mpr usual), String.ofList_toList]
  · rfl

theorem length_le_doubleQuotes (chars : List Char) :
    chars.length ≤ (doubleQuotes chars).length := by
  induction chars with
  | nil => exact Nat.le_refl 0
  | cons c rest inner =>
    rw [doubleQuotes]
    split
    · exact Nat.le_succ_of_le (Nat.succ_le_succ inner)
    · exact Nat.succ_le_succ inner

theorem quote_ne_self (text : String) : quote text ≠ text := by
  intro same
  have lengths := congrArg (fun text => text.toList.length) same
  have longer := length_le_doubleQuotes text.toList
  simp only [quote, quoteChars, String.toList_ofList, List.length_cons, List.length_append,
    List.length_nil] at lengths
  omega

/-- Where a text is a number in its usual form, the permissive policy writes it as the strict one
does exactly when it is ASCII. -/
theorem ofText_permissive_eq_self_iff {text : String} (free : isReference text = false)
    (usual : IsUsual isDecimalDigit text.toList) :
    ofText .permissive text = text ↔ IsAscii text.toList := by
  have whole : trim text = text := by
    rw [trim, trimChars_usual (isUsualNumber_iff.mpr usual), String.ofList_toList]
  rw [ofText_permissive free, whole, ← usual.isAscii_iff.2]
  split
  · next decimal => simp [decimal]
  · next other => simp [other, quote_ne_self]

/-- A text that is no reference is a numeral or quoted. One policy always quotes. The permissive one
writes decimal numbers over ASCII, without the white space around them, and the strict one numbers
in their usual form as they stand, with digits of any script behind the first one. Of the latter
exactly those in ASCII have their usual form over ASCII, and exactly those the permissive policy
writes in the same way. -/
theorem text_is_numeral_or_quoted {text : String} (free : isReference text = false) :
    ofText .alwaysQuote text = quote text ∧
    ofText .permissive text = (if IsDecimal (trim text).toList then trim text else quote text) ∧
    ofText .strict text = (if IsUsual isDecimalDigit text.toList then text else quote text) ∧
    (IsUsual isDecimalDigit text.toList →
      (IsUsual isAsciiDigit text.toList ↔ IsAscii text.toList) ∧
      (ofText .permissive text = text ↔ IsAscii text.toList)) := by
  refine ⟨?_, ofText_permissive free, ofText_strict free, fun usual => ?_⟩
  · rw [ofText_of_free free]
    rfl
  · exact ⟨usual.isAscii_iff.1, ofText_permissive_eq_self_iff free usual⟩

theorem price_is_numeral :
    isReference "-12.50" = false ∧ ofText .strict "-12.50" = "-12.50" ∧
      ofText .permissive "-12.50" = "-12.50" ∧ ofText .alwaysQuote "-12.50" = "'-12.50'" := by
  have free : isReference "-12.50" = false := by decide +kernel
  have usual : IsUsual isDecimalDigit "-12.50".toList := by decide +kernel
  obtain ⟨quoted, -, strict, forms⟩ := text_is_numeral_or_quoted free
  rw [if_pos usual] at strict
  have ascii : IsAscii "-12.50".toList := by decide +kernel
  refine ⟨free, strict, (forms usual).2.mpr ascii, quoted.trans ?_⟩
  decide +kernel

/-- A digit of another script behind an ASCII one: the strict policy writes the text without quotes,
although it is no number over ASCII and the permissive policy quotes it. -/
theorem arabicDigit_bare :
    isReference "1٣" = false ∧ ofText .strict "1٣" = "1٣" ∧ quote "1٣" = "'1٣'" ∧
      ¬IsUsual isAsciiDigit "1٣".toList ∧ ofText .permissive "1٣" = "'1٣'" := by
  refine ⟨by decide +kernel, by decide +kernel, by decide +kernel, ?_, by decide +kernel⟩
  intro usual
  have ascii := usual.isDecimal.isAscii '٣' (by decide +kernel)
  exact absurd ascii (by decide)

end QueryComposer.Literal
