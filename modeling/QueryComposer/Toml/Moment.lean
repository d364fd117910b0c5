import QueryComposer.Calendar.Date
import QueryComposer.Json.Basic

set_option autoImplicit false

/-!
Days and times in TOML texts: a day, a time of day, or both with an optional distance from universal
time. They are kept as texts of one form. What begins like a day or a time has to be one.
-/

namespace QueryComposer.Toml

open QueryComposer.Text QueryComposer.Number

/-- What comes of looking for a thing at the start of a text: it does not stand there, it is broken
off, or it is there with what follows it. -/
inductive Sought
  | absent
  | malformed
  | found (text : String) (rest : List Char)
deriving Repr

/-- A number of exactly so many digits within bounds. -/
def takeField? (width low high : Nat) (chars : List Char) : Option (Nat × List Char) :=
  let digits := chars.take width
  if digits.length = width && digits.all isAsciiDigit && low ≤ ofDigits digits &&
      ofDigits digits ≤ high then
    some (ofDigits digits, chars.drop width)
  else none

/-- The text after a sign. -/
def dropSign? (sign : Char) : List Char → Option (List Char)
  | [] => none
  | c :: rest => if c = sign then some rest else none

/-- A day: four digits of the year, and two each of the month and the day. -/
def takeDay (chars : List Char) : Sought :=
  match takeField? 4 0 9999 chars with
  | some (year, '-' :: afterYear) =>
    let rest? := do
      let (month, afterMonth) ← takeField? 2 1 12 afterYear
      let afterSign ← dropSign? '-' afterMonth
      let (day, rest) ← takeField? 2 1 (Calendar.daysInMonth year month) afterSign
      some (Calendar.padded 4 year ++ "-" ++ Calendar.padded 2 month ++ "-" ++
        Calendar.padded 2 day, rest)
    match rest? with
    | some (text, rest) => .found text rest
    | none => .malformed
  | _ => .absent

/-- A fraction of a second; what is beyond nine digits is dropped, and so are zeros at the end. -/
def takeFraction (chars : List Char) : String × List Char :=
  match chars with
  | '.' :: rest =>
    let digits := rest.takeWhile isAsciiDigit
    if digits.isEmpty then ("", chars)
    else
      let kept := ((digits.take 9).reverse.dropWhile (· = '0')).reverse
      (if kept.isEmpty then "" else "." ++ String.ofList kept, rest.drop digits.length)
  | _ => ("", chars)

/-- A time of day: two digits each of the hour, the minute and the second, and a fraction. A minute
may have a sixty-first second. -/
def takeClock (chars : List Char) : Sought :=
  match takeField? 2 0 23 chars with
  | some (hour, ':' :: afterHour) =>
    let rest? := do
      let (minute, afterMinute) ← takeField? 2 0 59 afterHour
      let afterSign ← dropSign? ':' afterMinute
      let (second, afterSecond) ← takeField? 2 0 60 afterSign
      let (fraction, rest) := takeFraction afterSecond
      some (Calendar.padded 2 hour ++ ":" ++ Calendar.padded 2 minute ++ ":" ++
        Calendar.padded 2 second ++ fraction, rest)
    match rest? with
    | some (text, rest) => .found text rest
    | none => .malformed
  | _ => .absent

/-- A distance from universal time after its sign. No distance is never negative. -/
def takeDistance? (negative : Bool) (chars : List Char) : Option (String × List Char) := do
  let (hours, afterHours) ← takeField? 2 0 23 chars
  let afterSign ← dropSign? ':' afterHours
  let (minutes, rest) ← takeField? 2 0 59 afterSign
  let sign := if negative && 0 < 60 * hours + minutes then "-" else "+"
  some (sign ++ Calendar.padded 2 hours ++ ":" ++ Calendar.padded 2 minutes, rest)

/-- A distance from universal time, or the letter for none. -/
def takeZone (chars : List Char) : Sought :=
  let ofDistance := fun (distance? : Option (String × List Char)) =>
    match distance? with
    | some (text, rest) => Sought.found text rest
    | none => .malformed
  match chars with
  | 'Z' :: rest => .found "Z" rest
  | 'z' :: rest => .found "Z" rest
  | '+' :: rest => ofDistance (takeDistance? false rest)
  | '-' :: rest => ofDistance (takeDistance? true rest)
  | _ => .absent

/-- The text after what divides a day from a time. -/
def dropDivider? : List Char → Option (List Char)
  | c :: rest => if c = 'T' || c = 't' || c = ' ' then some rest else none
  | [] => none

/-- A time with its distance from universal time, behind the text of a day. -/
def takeTimeOf (day : String) (rest : List Char) : Sought :=
  match (dropDivider? rest).map takeClock with
  | some (.found clock afterClock) =>
    match takeZone afterClock with
    | .found zone afterZone => .found (day ++ "T" ++ clock ++ zone) afterZone
    | .absent => .found (day ++ "T" ++ clock) afterClock
    | .malformed => .malformed
  | some .malformed => .malformed
  | _ => .found day rest

/-- A day, a day with a time, or a time. -/
def takeMoment (chars : List Char) : Sought :=
  match takeDay chars with
  | .found day rest => takeTimeOf day rest
  | .malformed => .malformed
  | .absent => takeClock chars

/-- The text of a day or a time as a data value. -/
def momentJson (text : String) : Json :=
  .object [("$__toml_private_datetime", .string text)]

end QueryComposer.Toml
