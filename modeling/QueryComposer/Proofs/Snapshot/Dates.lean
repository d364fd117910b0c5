import Mathlib.Data.List.TakeWhile
import QueryComposer.Calendar.Reader
import QueryComposer.Proofs.Number.Digits
import QueryComposer.Proofs.Text.Split

set_option autoImplicit false

/-!
Days and moments are read from their texts in data files: every year, with its sign when it does not
fit four digits, and every fraction of a second.
-/

namespace QueryComposer.Calendar

open QueryComposer.Text QueryComposer.Number

/-! ### Numbers in front of marks -/

/-- The text does not go on with a digit or with white space. -/
def Marked (rest : List Char) : Prop :=
  ∀ c, rest.head? = some c → isAsciiDigit c = false ∧ isBlank c = false

theorem Marked.nil : Marked [] := by
  intro c first
  cases first

theorem Marked.cons {c : Char} (mark : isAsciiDigit c = false ∧ isBlank c = false)
    (rest : List Char) : Marked (c :: rest) := by
  intro first same
  cases same
  exact mark

theorem Marked.dropWhile {rest : List Char} (marked : Marked rest) :
    rest.dropWhile isBlank = rest := by
  cases rest with
  | nil => rfl
  | cons c rest =>
    rw [List.dropWhile_cons_of_neg]
    rw [(marked c rfl).2]
    exact Bool.false_ne_true

theorem takeWhile_digits {digits rest : List Char} (all : AreDigits digits)
    (marked : Marked rest) : (digits ++ rest).takeWhile isAsciiDigit = digits :=
  (takeWhile_run all (fun c first => (marked c first).1)).1

theorem takeNumber_append {most : Nat} {digits rest : List Char} (all : AreDigits digits)
    (present : digits ≠ []) (fits : digits.length ≤ most) (marked : Marked rest) :
    takeNumber most (digits ++ rest) = some (ofDigits digits, rest) := by
  have start : Marked (rest.take (most - digits.length)) := by
    intro c first
    cases rest with
    | nil => simp at first
    | cons d rest =>
      cases count : most - digits.length with
      | zero => simp [count] at first
      | succ count' =>
        rw [count, List.take_succ_cons] at first
        exact marked c first
  have taken : ((digits ++ rest).take most).takeWhile isAsciiDigit = digits := by
    rw [List.take_append, List.take_of_length_le fits]
    exact takeWhile_digits all start
  rw [takeNumber, taken]
  simp [present]

/-- As many digits as may be taken are taken, whatever stands behind them. -/
theorem takeNumber_full {digits : List Char} (all : AreDigits digits) (present : digits ≠ [])
    (rest : List Char) :
    takeNumber digits.length (digits ++ rest) = some (ofDigits digits, rest) := by
  rw [takeNumber, List.take_left, List.takeWhile_eq_self_iff.mpr all]
  simp [present]

/-! ### Parts of a form -/

theorem dropWhile_digits {digits : List Char} (all : AreDigits digits) (present : digits ≠ [])
    (rest : List Char) : (digits ++ rest).dropWhile isBlank = digits ++ rest := by
  obtain ⟨c, digits, rfl⟩ := List.exists_cons_of_ne_nil present
  rw [List.cons_append, List.dropWhile_cons_of_neg]
  rw [isBlank_asciiDigit (all c List.mem_cons_self)]
  exact Bool.false_ne_true

theorem takeForm_cons {part : Part} {fields taken : Fields} {chars rest : List Char}
    (found : part.take fields chars = some (taken, rest)) (form : List Part) :
    takeForm (part :: form) fields chars = takeForm form taken rest := by
  rw [takeForm, found, Option.bind_some]

theorem takeForm_mark (c : Char) (form : List Part) (fields : Fields) (rest : List Char) :
    takeForm (.mark c :: form) fields (c :: rest) = takeForm form fields rest := by
  refine takeForm_cons ?_ form
  rw [Part.take, if_pos rfl]

/-- After a number the white space that may follow it is not there. -/
theorem takeForm_blank (form : List Part) (fields : Fields) {rest : List Char}
    (marked : Marked rest) : takeForm (.blank :: form) fields rest = takeForm form fields rest := by
  refine takeForm_cons ?_ form
  rw [Part.take, marked.dropWhile]

/-- A field of two digits is taken, whatever stands behind it. -/
theorem takeField_padded {low high value : Nat} (bounds : low ≤ value ∧ value ≤ high)
    (small : value < 100) (set : Nat → Fields) (rest : List Char) :
    takeField low high set ((padded 2 value).toList ++ rest) = some (set value, rest) := by
  have digits := areDigits_padded 2 value
  have present := padded_ne_nil 2 value
  have size : (padded 2 value).toList.length = 2 := length_padded (by decide) small
  have taken := takeNumber_full digits present rest
  rw [size, ofDigits_padded] at taken
  rw [takeField, dropWhile_digits digits present, taken, Option.bind_some]
  simp [bounds]

section Fields

variable (fields : Fields) (rest : List Char)

theorem take_month {month : Nat} (bounds : 1 ≤ month ∧ month ≤ 12) :
    Part.month.take fields ((padded 2 month).toList ++ rest) = some ({ fields with month }, rest) :=
  takeField_padded bounds (by omega) (fun month => { fields with month }) rest

theorem take_day {day : Nat} (bounds : 1 ≤ day ∧ day ≤ 31) :
    Part.day.take fields ((padded 2 day).toList ++ rest) = some ({ fields with day }, rest) :=
  takeField_padded bounds (by omega) (fun day => { fields with day }) rest

theorem take_hour {hour : Nat} (bound : hour < 24) :
    Part.hour.take fields ((padded 2 hour).toList ++ rest) = some ({ fields with hour }, rest) :=
  takeField_padded ⟨Nat.zero_le hour, by omega⟩ (by omega) (fun hour => { fields with hour }) rest

theorem take_minute {minute : Nat} (bound : minute < 60) :
    Part.minute.take fields ((padded 2 minute).toList ++ rest) =
      some ({ fields with minute }, rest) :=
  takeField_padded ⟨Nat.zero_le minute, by omega⟩ (by omega)
    (fun minute => { fields with minute }) rest

theorem take_second {second : Nat} (bound : second ≤ 60) :
    Part.second.take fields ((padded 2 second).toList ++ rest) =
      some ({ fields with second }, rest) :=
  takeField_padded ⟨Nat.zero_le second, bound⟩ (by omega)
    (fun second => { fields with second }) rest

end Fields

/-- Digits without a sign are at most four. -/
theorem takeYear_digits {digits rest : List Char} (all : AreDigits digits) (present : digits ≠ [])
    (fits : digits.length ≤ 4) (marked : Marked rest) :
    takeYear (digits ++ rest) = some ((ofDigits digits : Int), rest) := by
  obtain ⟨c, digits, rfl⟩ := List.exists_cons_of_ne_nil present
  have digit := all c List.mem_cons_self
  have plain : takeYear (c :: digits ++ rest) =
      (takeNumber 4 (c :: digits ++ rest)).map (fun taken => ((taken.1 : Int), taken.2)) := by
    rw [List.cons_append, takeYear]
    · rintro tail same
      cases same
      exact absurd digit (by decide)
    · rintro tail same
      cases same
      exact absurd digit (by decide)
  rw [plain, takeNumber_append all present fits marked]
  rfl

theorem takeYear_yearText (year : Int) {rest : List Char} (marked : Marked rest) :
    takeYear ((yearText year).toList ++ rest) = some (year, rest) := by
  have digits (value : Nat) := areDigits_padded 4 value
  have present (value : Nat) := padded_ne_nil 4 value
  have signed (value : Nat) :
      takeNumber ((padded 4 value).toList ++ rest).length ((padded 4 value).toList ++ rest) =
        some (value, rest) := by
    rw [takeNumber_append (digits value) (present value) (by simp) marked, ofDigits_padded]
  by_cases common : (0 ≤ year && year ≤ 9999) = true
  · simp only [Bool.and_eq_true, decide_eq_true_eq] at common
    have small : year.toNat < Nat.pow 10 4 := by
      have limit : Nat.pow 10 4 = 10000 := rfl
      omega
    have fits : (padded 4 year.toNat).toList.length ≤ 4 :=
      Nat.le_of_eq (length_padded (by decide) small)
    rw [yearText, if_pos (by simpa using common),
      takeYear_digits (digits _) (present _) fits marked,
      ofDigits_padded, Int.toNat_of_nonneg common.1]
  · rw [yearText, if_neg common, String.toList_append, List.append_assoc]
    by_cases negative : year < 0
    · have taken : takeYear ('-' :: ((padded 4 year.natAbs).toList ++ rest)) =
          some (-(year.natAbs : Int), rest) := by
        rw [takeYear, signed]
        rfl
      have minus : "-".toList = ['-'] := rfl
      rw [if_pos negative, minus, List.singleton_append, taken,
        Int.ofNat_natAbs_of_nonpos (by omega), Int.neg_neg]
    · have taken : takeYear ('+' :: ((padded 4 year.natAbs).toList ++ rest)) =
          some ((year.natAbs : Int), rest) := by
        rw [takeYear, signed]
        rfl
      have plus : "+".toList = ['+'] := rfl
      rw [if_neg negative, plus, List.singleton_append, taken, Int.natAbs_of_nonneg (by omega)]

/-- A year has digits or a sign at its start. -/
theorem dropWhile_yearText (year : Int) (rest : List Char) :
    ((yearText year).toList ++ rest).dropWhile isBlank = (yearText year).toList ++ rest := by
  unfold yearText
  split
  · exact dropWhile_digits (areDigits_padded 4 _) (padded_ne_nil 4 _) rest
  · rw [String.toList_append]
    split
    · exact List.dropWhile_cons_of_neg (by decide)
    · exact List.dropWhile_cons_of_neg (by decide)

theorem take_year (fields : Fields) (year : Int) {rest : List Char} (marked : Marked rest) :
    Part.year.take fields ((yearText year).toList ++ rest) = some ({ fields with year }, rest) := by
  rw [Part.take, dropWhile_yearText, takeYear_yearText year marked]
  rfl

/-! ### Days -/

/-- The longest month has thirty-one days. -/
theorem daysInMonth_le (year : Int) (month : Nat) : daysInMonth year month ≤ 31 := by
  unfold daysInMonth
  split
  · split <;> omega
  · split <;> omega

/-- The parts of a day are numbers that their fields have room for. -/
theorem Date.bounds (date : Date) :
    (1 ≤ date.month ∧ date.month ≤ 12) ∧ (1 ≤ date.day ∧ date.day ≤ 31) := by
  obtain ⟨_, _, monthLow, monthHigh, dayLow, dayHigh⟩ := date.valid
  exact ⟨⟨monthLow, monthHigh⟩, dayLow, Nat.le_trans dayHigh (daysInMonth_le date.year date.month)⟩

/-- The text of a day, part by part. -/
theorem Date.render_append (date : Date) (rest : List Char) :
    date.render.toList ++ rest =
      (yearText date.year).toList ++ '-' :: ((padded 2 date.month).toList ++
        '-' :: ((padded 2 date.day).toList ++ rest)) := by
  simp [Date.render, String.toList_append]

/-- The form of a day takes the text of a day, whatever mark follows. -/
theorem takeForm_dataDay (date : Date) (form : List Part) {rest : List Char}
    (marked : Marked rest) :
    takeForm (dataDayForm ++ form) {} (date.render.toList ++ rest) =
      takeForm form { year := date.year, month := date.month, day := date.day } rest := by
  obtain ⟨months, days⟩ := date.bounds
  have hyphen (tail : List Char) : Marked ('-' :: tail) := Marked.cons (by decide) tail
  rw [date.render_append]
  simp only [dataDayForm, List.cons_append, List.nil_append]
  rw [takeForm_cons (take_year _ _ (hyphen _)), takeForm_blank _ _ (hyphen _), takeForm_mark,
    takeForm_cons (take_month _ _ months), takeForm_blank _ _ (hyphen _), takeForm_mark,
    takeForm_cons (take_day _ _ days), takeForm_blank _ _ marked]

theorem Fields.date?_eq_some {fields : Fields} {date : Date} (year : fields.year = date.year)
    (month : fields.month = date.month) (day : fields.day = date.day) :
    fields.date? = some date := by
  rw [Fields.date?, year, month, day]
  exact dif_pos date.valid

/-- A day is read from its text. -/
theorem readDataDay?_render (date : Date) : readDataDay? date.render = some date := by
  have taken := takeForm_dataDay date [] Marked.nil
  rw [List.append_nil, List.append_nil] at taken
  rw [readDataDay?, readForm?, taken]
  exact Fields.date?_eq_some rfl rfl rfl

/-! ### Moments -/

theorem takeNanoseconds_padded {width value : Nat} (positive : 0 < width) (most : width ≤ 9)
    (bound : value < Nat.pow 10 width) :
    takeNanoseconds (padded width value).toList = some (value * Nat.pow 10 (9 - width), []) := by
  have size := length_padded positive bound
  have digits := areDigits_padded width value
  have present := padded_ne_nil width value
  have all : (padded width value).toList.takeWhile isAsciiDigit = (padded width value).toList :=
    List.takeWhile_eq_self_iff.mpr digits
  have none_left : (padded width value).toList.dropWhile isAsciiDigit = [] :=
    List.dropWhile_eq_nil_iff.mpr digits
  have kept : (padded width value).toList.take 9 = (padded width value).toList :=
    List.take_of_length_le (by omega)
  rw [takeNanoseconds, all, none_left]
  simp only [kept, ofDigits_padded, size]
  rw [if_neg (by simpa using present)]

/-- A fraction of a second is read from its places. -/
theorem take_fractionText {nanosecond : Nat} (bound : nanosecond < 1000000000)
    (fields : Fields) (whole : fields.nanosecond = 0) :
    Part.fraction.take fields (DateTime.fractionText nanosecond).toList =
      some ({ fields with nanosecond }, []) := by
  have placed {width : Nat} (positive : 0 < width) (most : width ≤ 9) {shown : Nat}
      (fits : shown < Nat.pow 10 width) (value : shown * Nat.pow 10 (9 - width) = nanosecond) :
      Part.fraction.take fields ("." ++ padded width shown).toList =
        some ({ fields with nanosecond }, []) := by
    have text : ("." ++ padded width shown).toList = '.' :: (padded width shown).toList := by
      rw [String.toList_append]
      rfl
    rw [text, Part.take, takeNanoseconds_padded positive most fits, value]
    rfl
  have power3 : Nat.pow 10 3 = 1000 := rfl
  have power6 : Nat.pow 10 6 = 1000000 := rfl
  have power9 : Nat.pow 10 9 = 1000000000 := rfl
  unfold DateTime.fractionText
  split
  · next zero =>
    subst zero
    rw [← whole]
    rfl
  · split
    · exact placed (by decide) (by decide) (by omega) (by rw [power6]; omega)
    · split
      · exact placed (by decide) (by decide) (by omega) (by rw [power3]; omega)
      · exact placed (by decide) (by decide) (by omega) (Nat.mul_one nanosecond)

theorem marked_fractionText (nanosecond : Nat) :
    Marked (DateTime.fractionText nanosecond).toList := by
  have point (places : String) : Marked ("." ++ places).toList := by
    rw [String.toList_append]
    exact Marked.cons (by decide) _
  unfold DateTime.fractionText
  split
  · exact Marked.nil
  · split
    · exact point _
    · split <;> exact point _

/-- The parts after the day take the clock with the fraction. -/
theorem takeForm_clock (moment : DateTime) (year : Int) (month day : Nat) :
    takeForm [.hour, .blank, .mark ':', .minute, .blank, .mark ':', .second, .fraction, .blank]
        { year, month, day }
        ((padded 2 moment.hour).toList ++ ':' :: ((padded 2 moment.minute).toList ++
          ':' :: ((padded 2 moment.second).toList ++
            (DateTime.fractionText moment.nanosecond).toList))) =
      some ({ year, month, day, hour := moment.hour, minute := moment.minute,
              second := moment.second, nanosecond := moment.nanosecond }, []) := by
  obtain ⟨hours, minutes, seconds, nanoseconds⟩ := moment.valid
  have colon (tail : List Char) : Marked (':' :: tail) := Marked.cons (by decide) tail
  have fraction := marked_fractionText moment.nanosecond
  rw [takeForm_cons (take_hour _ _ hours), takeForm_blank _ _ (colon _), takeForm_mark,
    takeForm_cons (take_minute _ _ minutes), takeForm_blank _ _ (colon _), takeForm_mark,
    takeForm_cons (take_second _ _ seconds), takeForm_cons (take_fractionText nanoseconds _ rfl),
    takeForm_blank _ _ Marked.nil]
  rfl

/-- A moment is read from its text. -/
theorem readDataMoment?_dataText (moment : DateTime) :
    readDataMoment? moment.dataText = some moment := by
  have text : moment.dataText.toList =
      moment.date.render.toList ++ 'T' :: ((padded 2 moment.hour).toList ++
        ':' :: ((padded 2 moment.minute).toList ++ ':' :: ((padded 2 moment.second).toList ++
          (DateTime.fractionText moment.nanosecond).toList))) := by
    simp [DateTime.dataText, DateTime.clockText, String.toList_append]
  rw [readDataMoment?, readForm?, dataMomentForm, text,
    takeForm_dataDay moment.date _ (Marked.cons (by decide) _), takeForm_mark, takeForm_clock]
  have date : Fields.date?
      { year := moment.date.year, month := moment.date.month, day := moment.date.day,
        hour := moment.hour, minute := moment.minute, second := moment.second,
        nanosecond := moment.nanosecond } = some moment.date :=
    Fields.date?_eq_some rfl rfl rfl
  simp only [Option.bind_some, List.isEmpty_nil, if_true, Fields.dateTime?, date]
  exact dif_pos moment.valid

end QueryComposer.Calendar
