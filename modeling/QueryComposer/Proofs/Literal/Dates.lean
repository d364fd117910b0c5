import QueryComposer.Parameter.Binder
import QueryComposer.Proofs.Literal.Quoted
import QueryComposer.Proofs.Snapshot.Dates

set_option autoImplicit false

/-!
Days and moments in SQL. A day is written as a text that reads as the day. A moment is written to
the second: its text reads as the moment without the fraction of its last second, and moments that
differ in that fraction only are written alike.
-/

namespace QueryComposer

open QueryComposer.Text QueryComposer.Number

namespace Calendar

/-! ### The forms that people enter -/

theorem takeForm_day (date : Date) (form : List Part) (rest : List Char) :
    takeForm (dayForm '-' ++ form) {} (date.render.toList ++ rest) =
      takeForm form { year := date.year, month := date.month, day := date.day } rest := by
  obtain ⟨months, days⟩ := date.bounds
  have hyphen (tail : List Char) : Marked ('-' :: tail) := Marked.cons (by decide) tail
  rw [date.render_append]
  simp only [dayForm, List.cons_append, List.nil_append]
  rw [takeForm_cons (take_year _ _ (hyphen _)), takeForm_mark,
    takeForm_cons (take_month _ _ months), takeForm_mark, takeForm_cons (take_day _ _ days)]

namespace DateTime

/-- The moment without the fraction of its last second. -/
def wholeSeconds (moment : DateTime) : DateTime :=
  { moment with
    nanosecond := 0
    valid := ⟨moment.valid.1, moment.valid.2.1, moment.valid.2.2.1, by decide⟩ }

theorem wholeSeconds_eq_self_iff {moment : DateTime} :
    moment.wholeSeconds = moment ↔ moment.nanosecond = 0 := by
  constructor
  · intro same
    rw [← same]
    rfl
  · intro whole
    cases moment
    cases whole
    rfl

theorem render_wholeSeconds (moment : DateTime) : moment.wholeSeconds.render = moment.render :=
  rfl

theorem toList_clockText (moment : DateTime) :
    moment.clockText.toList = (padded 2 moment.hour).toList ++
      ':' :: ((padded 2 moment.minute).toList ++ ':' :: (padded 2 moment.second).toList) := by
  simp [clockText, String.toList_append]

theorem toList_render (moment : DateTime) :
    moment.render.toList = moment.date.render.toList ++ ' ' :: moment.clockText.toList := by
  simp [render, String.toList_append]

end DateTime

theorem takeForm_time (fields : Fields) (moment : DateTime) :
    takeForm secondForm fields moment.clockText.toList =
      some ({ fields with
        hour := moment.hour
        minute := moment.minute
        second := moment.second }, []) := by
  obtain ⟨hours, minutes, seconds, -⟩ := moment.valid
  have last := take_second { fields with hour := moment.hour, minute := moment.minute } [] seconds
  rw [List.append_nil] at last
  rw [moment.toList_clockText, secondForm, takeForm_cons (take_hour _ _ hours), takeForm_mark,
    takeForm_cons (take_minute _ _ minutes), takeForm_mark, takeForm_cons last]
  rfl

theorem readMoment?_render (moment : DateTime) :
    readMoment? moment.render.toList = some moment.wholeSeconds := by
  have digit : (moment.clockText.toList).dropWhile isBlank = moment.clockText.toList := by
    rw [moment.toList_clockText]
    exact dropWhile_digits (areDigits_padded 2 _) (padded_ne_nil 2 _) _
  have space (fields : Fields) : takeForm (.blank :: secondForm) fields
      (' ' :: moment.clockText.toList) =
        takeForm secondForm fields moment.clockText.toList := by
    refine takeForm_cons ?_ secondForm
    rw [Part.take, List.dropWhile_cons_of_pos (by decide), digit]
  have date : Fields.date?
      { year := moment.date.year, month := moment.date.month, day := moment.date.day,
        hour := moment.hour, minute := moment.minute, second := moment.second } =
      some moment.date := Fields.date?_eq_some rfl rfl rfl
  have read : (readForm? (dayForm '-' ++ .blank :: secondForm) moment.render.toList).bind
      Fields.dateTime? = some moment.wholeSeconds := by
    rw [readForm?, moment.toList_render, takeForm_day, space, takeForm_time]
    simp only [Option.bind_some, List.isEmpty_nil, if_true, Fields.dateTime?, date]
    exact dif_pos moment.wholeSeconds.valid
  rw [readMoment?, momentForms, List.findSome?_cons, read]

/-- The text of a day has no time in it. -/
theorem readMoment?_day (date : Date) : readMoment? date.render.toList = none := by
  -- each form of a moment asks for more behind the day than the end of the text
  have ended (form : List Part) (fails : ∀ fields, takeForm form fields [] = none) :
      (readForm? (dayForm '-' ++ form) date.render.toList).bind Fields.dateTime? = none := by
    have taken := takeForm_day date form []
    rw [List.append_nil] at taken
    rw [readForm?, taken, fails]
    rfl
  rw [readMoment?, momentForms, List.findSome?_eq_none_iff]
  simp only [List.forall_mem_cons, List.not_mem_nil, false_imp_iff, implies_true, and_true]
  exact ⟨ended _ fun _ => rfl, ended _ fun _ => rfl, ended _ fun _ => rfl, ended _ fun _ => rfl⟩

theorem readDay?_render (date : Date) : readDay? date.render.toList = some date := by
  have taken := takeForm_day date [] []
  rw [List.append_nil, List.append_nil] at taken
  have read : (readForm? (dayForm '-') date.render.toList).bind Fields.date? = some date := by
    rw [readForm?, taken]
    exact Fields.date?_eq_some rfl rfl rfl
  rw [readDay?, dayForms, List.findSome?_cons, read]

/-! ### Texts without a time zone -/

theorem takeExactly_padded {width value : Nat} (positive : 0 < width)
    (bound : value < Nat.pow 10 width) (rest : List Char) :
    takeExactly width ((padded width value).toList ++ rest) = some (value, rest) := by
  have size := length_padded positive bound
  have front : ((padded width value).toList ++ rest).take width = (padded width value).toList :=
    List.take_left' size
  have behind : ((padded width value).toList ++ rest).drop width = rest := List.drop_left' size
  have digits : (padded width value).toList.all isAsciiDigit = true :=
    List.all_eq_true.mpr (areDigits_padded width value)
  rw [takeExactly, front, behind]
  simp [size, digits, ofDigits_padded]

theorem takeExactly_sign {c : Char} (sign : isAsciiDigit c = false) (count : Nat)
    (rest : List Char) : takeExactly (count + 1) (c :: rest) = none := by
  simp [takeExactly, sign]

/-- A year of the usual size is written in four digits, any other one behind a sign. -/
theorem yearText_cases (year : Int) :
    (∃ value, value < 10000 ∧ yearText year = padded 4 value) ∨
      ∃ sign digits, (yearText year).toList = sign :: digits ∧ isAsciiDigit sign = false := by
  unfold yearText
  split
  · rename_i usual
    simp only [Bool.and_eq_true, decide_eq_true_eq] at usual
    exact Or.inl ⟨year.toNat, by omega, rfl⟩
  · refine Or.inr ?_
    rw [String.toList_append]
    split
    · exact ⟨'-', _, rfl, by decide⟩
    · exact ⟨'+', _, rfl, by decide⟩

theorem bind_eq_none_of_some {α β : Type} {first : Option α} {next : α → Option β} {value : α}
    (found : first = some value) (fails : next value = none) : (first >>= next) = none := by
  rw [found]
  exact fails

theorem takeMark_self (c : Char) (rest : List Char) : takeMark c (c :: rest) = some rest := by
  rw [takeMark, if_pos rfl]

/-- Without a time zone at its end a text is no moment with one. -/
theorem readZoned?_render_append (date : Date) {rest : List Char}
    (zoneless : rest = [] ∨ ∃ moment : DateTime, rest = ' ' :: moment.clockText.toList) :
    readZoned? (date.render.toList ++ rest) = none := by
  obtain ⟨⟨_, months⟩, _, days⟩ := date.bounds
  have two {value : Nat} (small : value < 100) (after : List Char) :
      takeExactly 2 ((padded 2 value).toList ++ after) = some (value, after) :=
    takeExactly_padded (by decide) small after
  rw [date.render_append]
  unfold readZoned?
  obtain ⟨value, small, year⟩ | ⟨sign, digits, year, mark⟩ := yearText_cases date.year
  · rw [year]
    refine bind_eq_none_of_some (takeExactly_padded (by decide) small _) ?_
    refine bind_eq_none_of_some (takeMark_self '-' _) ?_
    refine bind_eq_none_of_some (two (by omega) _) ?_
    refine bind_eq_none_of_some (takeMark_self '-' _) ?_
    refine bind_eq_none_of_some (two (by omega) _) ?_
    obtain rfl | ⟨moment, rfl⟩ := zoneless
    · -- nothing stands where the mark before the time would
      rfl
    · -- nothing stands where the time zone would
      obtain ⟨hours, minutes, seconds, -⟩ := moment.valid
      have ended : takeExactly 2 (padded 2 moment.second).toList = some (moment.second, []) := by
        rw [← two (by omega) [], List.append_nil]
      rw [moment.toList_clockText]
      dsimp only
      rw [if_pos (by decide)]
      refine bind_eq_none_of_some rfl ?_
      refine bind_eq_none_of_some (two (by omega) _) ?_
      refine bind_eq_none_of_some (takeMark_self ':' _) ?_
      refine bind_eq_none_of_some (two (by omega) _) ?_
      refine bind_eq_none_of_some (takeMark_self ':' _) ?_
      refine bind_eq_none_of_some ended ?_
      rfl
  · rw [year, List.cons_append, takeExactly_sign mark]
    rfl

theorem readZoned?_day (date : Date) : readZoned? date.render.toList = none := by
  rw [← List.append_nil date.render.toList]
  exact readZoned?_render_append date (Or.inl rfl)

theorem readZoned?_moment (moment : DateTime) : readZoned? moment.render.toList = none := by
  rw [moment.toList_render]
  exact readZoned?_render_append moment.date (Or.inr ⟨moment, rfl⟩)

/-! ### White space around a text -/

theorem trimChars_of_digits {chars front digits : List Char}
    (start : chars.dropWhile isBlank = chars) (shape : chars = front ++ digits)
    (all : AreDigits digits) (present : digits ≠ []) : trimChars chars = chars := by
  have backwards : AreDigits digits.reverse := fun c member => all c (List.mem_reverse.mp member)
  have ending : chars.reverse.dropWhile isBlank = chars.reverse := by
    rw [shape, List.reverse_append,
      dropWhile_digits backwards (List.reverse_ne_nil_iff.mpr present)]
  rw [trimChars, start, ending, List.reverse_reverse]

theorem dropWhile_render (date : Date) (rest : List Char) :
    (date.render.toList ++ rest).dropWhile isBlank = date.render.toList ++ rest := by
  rw [date.render_append, dropWhile_yearText]

theorem trimChars_day (date : Date) : trimChars date.render.toList = date.render.toList := by
  have start := dropWhile_render date []
  rw [List.append_nil] at start
  have shape : date.render.toList = ((yearText date.year).toList ++ '-' ::
      ((padded 2 date.month).toList ++ ['-'])) ++ (padded 2 date.day).toList := by
    simp [Date.render, String.toList_append]
  exact trimChars_of_digits start shape (areDigits_padded 2 _) (padded_ne_nil 2 _)

theorem trimChars_moment (moment : DateTime) :
    trimChars moment.render.toList = moment.render.toList := by
  have start : moment.render.toList.dropWhile isBlank = moment.render.toList := by
    rw [moment.toList_render, dropWhile_render]
  have shape : moment.render.toList = (moment.date.render.toList ++ ' ' ::
      ((padded 2 moment.hour).toList ++ ':' :: ((padded 2 moment.minute).toList ++ [':']))) ++
        (padded 2 moment.second).toList := by
    simp [moment.toList_render, moment.toList_clockText]
  exact trimChars_of_digits start shape (areDigits_padded 2 _) (padded_ne_nil 2 _)

end Calendar

/-! ### Values and their literals -/

namespace Value

/-- The value without the fraction of the last second, if it is a moment. -/
def wholeSeconds : Value → Value
  | .moment time => .moment time.wholeSeconds
  | value => value

theorem readDate?_day (day : Calendar.Date) : readDate? day.render = some (.date day) := by
  unfold readDate?
  simp only [Calendar.trimChars_day, Calendar.readZoned?_day, Calendar.readMoment?_day,
    Calendar.readDay?_render, Option.map_none, Option.map_some, Option.none_or]

theorem readDate?_moment (time : Calendar.DateTime) :
    readDate? time.render = some (.moment time.wholeSeconds) := by
  unfold readDate?
  simp only [Calendar.trimChars_moment, Calendar.readZoned?_moment, Calendar.readMoment?_render,
    Option.map_none, Option.map_some, Option.none_or, Option.some_or]

/-- A value changes unless it is a moment with a fraction. -/
theorem wholeSeconds_eq_self_iff {value : Value} :
    value.wholeSeconds = value ↔ ∀ time, value = .moment time → time.nanosecond = 0 := by
  cases value with
  | moment time =>
    rw [wholeSeconds, moment.injEq, Calendar.DateTime.wholeSeconds_eq_self_iff]
    constructor
    · rintro whole _ ⟨⟩
      exact whole
    · intro whole
      exact whole time rfl
  | _ => exact iff_of_true rfl (fun _ other => by contradiction)

/-- What is read as a day or a moment is one. -/
theorem type_of_readDate? {text : String} {value : Value} (read : readDate? text = some value) :
    value.type = .date := by
  unfold readDate? at read
  simp only [Option.or_eq_some_iff, Option.map_eq_some_iff] at read
  obtain ⟨_, _, rfl⟩ | ⟨_, ⟨_, _, rfl⟩ | ⟨_, _, _, rfl⟩⟩ := read <;> rfl

theorem type_eq_date_iff {value : Value} :
    value.type = .date ↔ (∃ day, value = .date day) ∨ ∃ time, value = .moment time := by
  cases value <;> simp [type]

end Value

namespace Literal

variable {policy : LiteralPolicy}

theorem readDate?_unquote {value : Value} (dated : value.type = .date) :
    Value.readDate? (unquote (ofValue policy value)) = some value.wholeSeconds := by
  obtain ⟨day, rfl⟩ | ⟨time, rfl⟩ := Value.type_eq_date_iff.mp dated
  · rw [ofValue, unquote_quote]
    exact Value.readDate?_day day
  · rw [ofValue, unquote_quote]
    exact Value.readDate?_moment time

/-- A value that a parameter for days and moments takes becomes one of them: a text the one that it
reads as, and any other value is one already. -/
theorem coerce_date {supplied : Value} (fits : Parameter.fitsType .date supplied = true) :
    (Parameter.coerce .date supplied).type = .date ∧
      ∀ text, supplied = .string text →
        Value.readDate? text = some (Parameter.coerce .date supplied) := by
  cases supplied with
  | string text =>
    obtain ⟨value, read⟩ := Option.isSome_iff_exists.mp fits
    have bound : Parameter.coerce .date (.string text) = value := by
      rw [Parameter.coerce, read]
      rfl
    rw [bound]
    refine ⟨Value.type_of_readDate? read, ?_⟩
    rintro _ ⟨⟩
    exact read
  | date day => exact ⟨rfl, fun text other => by contradiction⟩
  | moment time => exact ⟨rfl, fun text other => by contradiction⟩
  | _ => contradiction

theorem ofValue_wholeSeconds (value : Value) :
    ofValue policy value.wholeSeconds = ofValue policy value := by
  cases value with
  | moment time => rw [Value.wholeSeconds, ofValue, ofValue, time.render_wholeSeconds]
  | _ => rfl

/-- The literal of a day or a moment reads as the value without the fraction of its last second: as
the value itself exactly when it is no moment with a fraction. The literals of two such values are
the same exactly when the values differ in fractions only. A value that a parameter for days and
moments takes is bound to one, a text to the one that it reads as, and that is written without the
fraction too. -/
theorem date_literals_to_the_second (policy : LiteralPolicy) :
    (∀ value : Value, value.type = .date →
      Value.readDate? (unquote (ofValue policy value)) = some value.wholeSeconds) ∧
    (∀ value : Value,
      value.wholeSeconds = value ↔ ∀ time, value = .moment time → time.nanosecond = 0) ∧
    (∀ first second : Value, first.type = .date → second.type = .date →
      (ofValue policy first = ofValue policy second ↔
        first.wholeSeconds = second.wholeSeconds)) ∧
    (∀ supplied : Value, Parameter.fitsType .date supplied = true →
      ∃ bound, Parameter.coerce .date supplied = bound ∧ bound.type = .date ∧
        (∀ text, supplied = .string text → Value.readDate? text = some bound) ∧
        Value.readDate? (unquote (ofValue policy bound)) = some bound.wholeSeconds) := by
  refine ⟨fun value dated => readDate?_unquote dated, fun value => Value.wholeSeconds_eq_self_iff,
    fun first second dated other => ?_, fun supplied fits => ?_⟩
  · constructor
    · intro same
      apply Option.some.inj
      rw [← readDate?_unquote dated, ← readDate?_unquote other, same]
    · intro same
      rw [← ofValue_wholeSeconds first, same, ofValue_wholeSeconds]
  · obtain ⟨dated, read⟩ := coerce_date fits
    exact ⟨_, rfl, dated, read, readDate?_unquote dated⟩

/-- A quarter of a second after a full one. -/
def quarterPast : Calendar.DateTime :=
  ⟨⟨2024, 1, 31, by decide⟩, 8, 15, 0, 250000000, by decide⟩

theorem readDate?_quarterPast :
    Value.readDate? "2024-01-31T08:15:00.250" = some (.moment quarterPast) := by
  have zoned : Calendar.readZoned? (trimChars "2024-01-31T08:15:00.250".toList) = none := by
    decide +kernel
  have read : Calendar.readMoment? (trimChars "2024-01-31T08:15:00.250".toList) =
      some quarterPast := by
    decide +kernel
  unfold Value.readDate?
  simp only [zoned, read, Option.map_none, Option.map_some, Option.none_or, Option.some_or]

/-- A text with a fraction is bound to the moment it reads as, and written without the fraction. -/
theorem quarterPast_to_the_second :
    Parameter.fitsType .date (.string "2024-01-31T08:15:00.250") = true ∧
    Value.readDate? "2024-01-31T08:15:00.250" = some (.moment quarterPast) ∧
    Value.readDate? (unquote (ofValue .permissive (.moment quarterPast))) =
      some (.moment quarterPast.wholeSeconds) := by
  have fits : Parameter.fitsType .date (.string "2024-01-31T08:15:00.250") = true := by
    rw [Parameter.fitsType, readDate?_quarterPast]
    rfl
  obtain ⟨-, -, -, accepted⟩ := date_literals_to_the_second .permissive
  obtain ⟨bound, -, -, read, again⟩ := accepted _ fits
  have same := read _ rfl
  rw [readDate?_quarterPast] at same
  cases same
  exact ⟨fits, readDate?_quarterPast, again⟩

/-- The fraction is lost: the literal reads as another moment, which has the same literal. -/
theorem quarterPast_written_as_another :
    Value.readDate? "2024-01-31T08:15:00.250" = some (.moment quarterPast) ∧
    ofValue .permissive (.moment quarterPast) = "'2024-01-31 08:15:00'" ∧
    ofValue .permissive (.moment quarterPast.wholeSeconds) = "'2024-01-31 08:15:00'" ∧
    quarterPast.wholeSeconds ≠ quarterPast ∧
    ¬ ∀ value : Value, value.type = .date →
      Value.readDate? (unquote (ofValue .permissive value)) = some value := by
  refine ⟨readDate?_quarterPast, by decide +kernel, by decide +kernel, by decide, ?_⟩
  intro kept
  have same := kept (.moment quarterPast) rfl
  rw [readDate?_unquote rfl] at same
  have whole : quarterPast.wholeSeconds = quarterPast := Value.moment.inj (Option.some.inj same)
  exact absurd whole (by decide)

end Literal

end QueryComposer
