import QueryComposer.Number.Decimal

set_option autoImplicit false

/-!
Days of the proleptic Gregorian calendar and moments of such a day without a time zone, with their
written forms.
-/

namespace QueryComposer.Calendar

open QueryComposer.Number

/-- Every fourth year, except three of four centuries. -/
def isLeapYear (year : Int) : Bool :=
  year % 4 = 0 && (year % 100 ≠ 0 || year % 400 = 0)

/-- The length of a month. -/
def daysInMonth (year : Int) (month : Nat) : Nat :=
  if month = 2 then if isLeapYear year then 29 else 28
  else if month = 4 || month = 6 || month = 9 || month = 11 then 30
  else 31

/-- The first year that a day may lie in. -/
def firstYear : Int := -262143

/-- The last year that a day may lie in. -/
def lastYear : Int := 262142

/-- The day exists and lies in the covered years. -/
def IsDate (year : Int) (month day : Nat) : Prop :=
  firstYear ≤ year ∧ year ≤ lastYear ∧ 1 ≤ month ∧ month ≤ 12 ∧ 1 ≤ day ∧
    day ≤ daysInMonth year month

instance (year : Int) (month day : Nat) : Decidable (IsDate year month day) := by
  unfold IsDate; infer_instance

/-- A day. -/
structure Date where
  year : Int
  month : Nat
  day : Nat
  valid : IsDate year month day
deriving DecidableEq, Repr

/-- The time of day is one that a clock shows; a minute may have a sixty-first second. -/
def IsTime (hour minute second nanosecond : Nat) : Prop :=
  hour < 24 ∧ minute < 60 ∧ second ≤ 60 ∧ nanosecond < 1000000000

instance (hour minute second nanosecond : Nat) :
    Decidable (IsTime hour minute second nanosecond) := by
  unfold IsTime; infer_instance

/-- A moment of a day. -/
structure DateTime where
  date : Date
  hour : Nat
  minute : Nat
  second : Nat
  nanosecond : Nat
  valid : IsTime hour minute second nanosecond
deriving DecidableEq, Repr

namespace Date

/-- The day with the given parts, if there is one. -/
def of? (year : Int) (month day : Nat) : Option Date :=
  if valid : IsDate year month day then some ⟨year, month, day, valid⟩ else none

/-- The day after. -/
def next? (date : Date) : Option Date :=
  (of? date.year date.month (date.day + 1)).or
    ((of? date.year (date.month + 1) 1).or (of? (date.year + 1) 1 1))

/-- The day before. -/
def previous? (date : Date) : Option Date :=
  if 1 < date.day then of? date.year date.month (date.day - 1)
  else if 1 < date.month then
    of? date.year (date.month - 1) (daysInMonth date.year (date.month - 1))
  else of? (date.year - 1) 12 31

end Date

namespace DateTime

/-- The moment with the given parts, if there is one. -/
def of? (date : Date) (hour minute second nanosecond : Nat) : Option DateTime :=
  if valid : IsTime hour minute second nanosecond then
    some ⟨date, hour, minute, second, nanosecond, valid⟩
  else none

/-- The moment the given number of minutes earlier, or later for a negative number, by less than a
day. -/
def minutesEarlier? (moment : DateTime) (minutes : Int) : Option DateTime :=
  let shifted : Int := 60 * (moment.hour : Int) + moment.minute - minutes
  let date? :=
    if shifted < 0 then moment.date.previous?
    else if 1440 ≤ shifted then moment.date.next?
    else some moment.date
  let inDay := (shifted % 1440).toNat
  date?.bind (fun date => of? date (inDay / 60) (inDay % 60) moment.second moment.nanosecond)

end DateTime

/-! ### Written forms -/

/-- A number with zeros in front up to the given width. -/
def padded (width value : Nat) : String :=
  let digits := toDigits value
  String.ofList (List.replicate (width - digits.length) '0' ++ digits)

/-- A year in four digits; one that does not fit them has a sign. -/
def yearText (year : Int) : String :=
  if 0 ≤ year && year ≤ 9999 then padded 4 year.toNat
  else (if year < 0 then "-" else "+") ++ padded 4 year.natAbs

/-- The day as year, month and day. -/
def Date.render (date : Date) : String :=
  yearText date.year ++ "-" ++ padded 2 date.month ++ "-" ++ padded 2 date.day

namespace DateTime

/-- Hours, minutes and seconds. -/
def clockText (moment : DateTime) : String :=
  padded 2 moment.hour ++ ":" ++ padded 2 moment.minute ++ ":" ++ padded 2 moment.second

/-- The day and the clock to the second. -/
def render (moment : DateTime) : String :=
  moment.date.render ++ " " ++ moment.clockText

/-- A fraction of a second in three, six or nine places, the fewest that show all of it. -/
def fractionText (nanosecond : Nat) : String :=
  if nanosecond = 0 then ""
  else if nanosecond % 1000000 = 0 then "." ++ padded 3 (nanosecond / 1000000)
  else if nanosecond % 1000 = 0 then "." ++ padded 6 (nanosecond / 1000)
  else "." ++ padded 9 nanosecond

/-- The moment as data files hold it. -/
def dataText (moment : DateTime) : String :=
  moment.date.render ++ "T" ++ moment.clockText ++ fractionText moment.nanosecond

end DateTime

end QueryComposer.Calendar
