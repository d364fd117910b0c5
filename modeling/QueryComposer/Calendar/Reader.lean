import QueryComposer.Calendar.Date

set_option autoImplicit false

/-!
Reading days and moments. A form is a list of parts, each of which takes something from the start
of the text; the strict form for moments with a time zone fixes the count of every digit.
-/

namespace QueryComposer.Calendar

open QueryComposer.Text QueryComposer.Number

/-! ### Fields read so far -/

/-- The numbers that a form has read. -/
structure Fields where
  year : Int := 0
  month : Nat := 0
  day : Nat := 0
  hour : Nat := 0
  minute : Nat := 0
  second : Nat := 0
  nanosecond : Nat := 0
deriving Repr, DecidableEq

namespace Fields

/-- The day that was read. -/
def date? (fields : Fields) : Option Date :=
  Date.of? fields.year fields.month fields.day

/-- The moment that was read. -/
def dateTime? (fields : Fields) : Option DateTime :=
  fields.date?.bind (fun date =>
    DateTime.of? date fields.hour fields.minute fields.second fields.nanosecond)

end Fields

/-! ### Parts of a form -/

/-- One part of a form. -/
inductive Part
  | year
  | month
  | day
  | hour
  | minute
  | second
  | fraction
  | blank
  | mark (c : Char)
deriving Repr, DecidableEq

/-- At least one and at most the given number of digits. -/
def takeNumber (most : Nat) (chars : List Char) : Option (Nat × List Char) :=
  let digits := (chars.take most).takeWhile isAsciiDigit
  if digits.isEmpty then none else some (ofDigits digits, chars.drop digits.length)

/-- A year: up to four digits, or any number of digits after a sign. -/
def takeYear (chars : List Char) : Option (Int × List Char) :=
  match chars with
  | '-' :: rest => (takeNumber rest.length rest).map (fun (value, after) => (-(value : Int), after))
  | '+' :: rest => (takeNumber rest.length rest).map (fun (value, after) => ((value : Int), after))
  | _ => (takeNumber 4 chars).map (fun (value, after) => ((value : Int), after))

/-- The digits of a fraction in nanoseconds; digits past the ninth are dropped. -/
def takeNanoseconds (chars : List Char) : Option (Nat × List Char) :=
  let digits := chars.takeWhile isAsciiDigit
  if digits.isEmpty then none
  else
    let kept := digits.take 9
    some (ofDigits kept * Nat.pow 10 (9 - kept.length), chars.dropWhile isAsciiDigit)

/-- A field of one or two digits, which white space may precede. -/
def takeField (low high : Nat) (set : Nat → Fields) (chars : List Char) :
    Option (Fields × List Char) :=
  (takeNumber 2 (chars.dropWhile isBlank)).bind (fun (value, rest) =>
    if low ≤ value && value ≤ high then some (set value, rest) else none)

/-- Take one part from the start of the text. -/
def Part.take (part : Part) (fields : Fields) (chars : List Char) : Option (Fields × List Char) :=
  match part with
  | .year =>
    (takeYear (chars.dropWhile isBlank)).map (fun (value, rest) =>
      ({ fields with year := value }, rest))
  | .month => takeField 1 12 (fun value => { fields with month := value }) chars
  | .day => takeField 1 31 (fun value => { fields with day := value }) chars
  | .hour => takeField 0 23 (fun value => { fields with hour := value }) chars
  | .minute => takeField 0 59 (fun value => { fields with minute := value }) chars
  | .second => takeField 0 60 (fun value => { fields with second := value }) chars
  | .fraction =>
    match chars with
    | '.' :: rest =>
      (takeNanoseconds rest).map (fun (value, after) =>
        ({ fields with nanosecond := value }, after))
    | _ => some (fields, chars)
  | .blank => some (fields, chars.dropWhile isBlank)
  | .mark c =>
    match chars with
    | [] => none
    | first :: rest => if first = c then some (fields, rest) else none

/-- Take all parts of a form in turn. -/
def takeForm : List Part → Fields → List Char → Option (Fields × List Char)
  | [], fields, chars => some (fields, chars)
  | part :: form, fields, chars =>
    (part.take fields chars).bind (fun (taken, rest) => takeForm form taken rest)

/-- The fields of a text that the form takes up to its end. -/
def readForm? (form : List Part) (chars : List Char) : Option Fields :=
  (takeForm form {} chars).bind (fun (fields, rest) => if rest.isEmpty then some fields else none)

/-! ### Forms -/

/-- Year, month and day around a mark. -/
def dayForm (mark : Char) : List Part :=
  [.year, .mark mark, .month, .mark mark, .day]

/-- Hour and minute. -/
def minuteForm : List Part :=
  [.hour, .mark ':', .minute]

/-- Hour, minute and second with a fraction. -/
def secondForm : List Part :=
  [.hour, .mark ':', .minute, .mark ':', .second, .fraction]

/-- The forms of a moment in the order in which they are tried. -/
def momentForms : List (List Part) :=
  [ dayForm '-' ++ .blank :: secondForm,
    dayForm '-' ++ .mark 'T' :: secondForm,
    dayForm '-' ++ .blank :: minuteForm,
    dayForm '-' ++ .mark 'T' :: minuteForm ]

/-- The forms of a day in the order in which they are tried. -/
def dayForms : List (List Part) :=
  [dayForm '-', dayForm '/']

/-- The form of a day in data files, with white space after each number. -/
def dataDayForm : List Part :=
  [.year, .blank, .mark '-', .month, .blank, .mark '-', .day, .blank]

/-- The form of a moment in data files, with white space after each number. -/
def dataMomentForm : List Part :=
  dataDayForm ++ [.mark 'T', .hour, .blank, .mark ':', .minute, .blank, .mark ':', .second,
    .fraction, .blank]

/-! ### Moments with a time zone -/

/-- A number of exactly the given count of digits. -/
def takeExactly (count : Nat) (chars : List Char) : Option (Nat × List Char) :=
  let digits := chars.take count
  if digits.length = count && digits.all isAsciiDigit then some (ofDigits digits, chars.drop count)
  else none

def takeMark (c : Char) (chars : List Char) : Option (List Char) :=
  match chars with
  | [] => none
  | first :: rest => if first = c then some rest else none

/-- The minutes that a zone is ahead of universal time: `Z`, or a sign, hours and minutes. -/
def readZone? (chars : List Char) : Option Int :=
  match chars with
  | ['Z'] => some 0
  | ['z'] => some 0
  | sign :: rest =>
    let negative? : Option Bool :=
      if sign = '+' then some false
      else if sign = '-' || sign = '\u2212' then some true
      else none
    do
      let negative ← negative?
      let (hours, afterHours) ← takeExactly 2 rest
      let tail ← takeMark ':' afterHours
      let (minutes, after) ← takeExactly 2 tail
      if hours ≤ 23 && minutes ≤ 59 && after.isEmpty then
        let ahead : Int := 60 * (hours : Int) + minutes
        some (if negative then -ahead else ahead)
      else none
  | [] => none

/-- A moment with seconds and a zone, in universal time. Every number has its full count of digits;
the day and the time are separated by `T`, `t` or one space. -/
def readZoned? (chars : List Char) : Option DateTime := do
  let (year, afterYear) ← takeExactly 4 chars
  let (month, afterMonth) ← takeExactly 2 (← takeMark '-' afterYear)
  let (day, afterDay) ← takeExactly 2 (← takeMark '-' afterMonth)
  let time ← match afterDay with
    | [] => none
    | separator :: rest =>
      if separator = 'T' || separator = 't' || separator = ' ' then some rest else none
  let (hour, afterHour) ← takeExactly 2 time
  let (minute, afterMinute) ← takeExactly 2 (← takeMark ':' afterHour)
  let (second, afterSecond) ← takeExactly 2 (← takeMark ':' afterMinute)
  let (nanosecond, zone) ← match afterSecond with
    | '.' :: rest => takeNanoseconds rest
    | _ => some (0, afterSecond)
  let ahead ← readZone? zone
  let date ← Date.of? year month day
  let moment ← DateTime.of? date hour minute second nanosecond
  moment.minutesEarlier? ahead

/-! ### Readers -/

/-- The moment in the first form that fits. -/
def readMoment? (chars : List Char) : Option DateTime :=
  momentForms.findSome? (fun form => (readForm? form chars).bind Fields.dateTime?)

/-- The day in the first form that fits. -/
def readDay? (chars : List Char) : Option Date :=
  dayForms.findSome? (fun form => (readForm? form chars).bind Fields.date?)

/-- A day from a data file. -/
def readDataDay? (text : String) : Option Date :=
  (readForm? dataDayForm text.toList).bind Fields.date?

/-- A moment from a data file. -/
def readDataMoment? (text : String) : Option DateTime :=
  (readForm? dataMomentForm text.toList).bind Fields.dateTime?

end QueryComposer.Calendar
