/-!
# Dates

A day, with the time of day or without. A time of day may say how far its clock is ahead of the
common one. The module says which parts make a date, how a date is shown, and how two dates
compare: days by the calendar, times by the instant that they name.
-/

namespace SnippetRunner

/-- A time of day. -/
structure Clock where
  hour : Nat
  minute : Nat
  second : Nat
  microsecond : Nat
  /-- How many minutes the clock is ahead, if that is said. -/
  ahead : Option Int
  deriving Repr, DecidableEq

/-- The parts of a date, and of the time of day if there is one. -/
structure Moment where
  year : Nat
  month : Nat
  day : Nat
  clock : Option Clock
  deriving Repr, DecidableEq

/-- The number of minutes of a day. -/
def minutesOfDay : Int := 24 * 60

/-- The number of days of a month. -/
def daysOfMonth (year month : Nat) : Nat :=
  if month = 2 then
    if year % 4 = 0 ∧ (year % 100 ≠ 0 ∨ year % 400 = 0) then 29 else 28
  else if [4, 6, 9, 11].contains month then 30 else 31

/-- The digits of a number, with zeros before them up to a width. -/
def paddedDigits (width n : Nat) : String :=
  let digits := toString n
  String.ofList (List.replicate (width - digits.length) '0') ++ digits

/-- A span of minutes as days and seconds, of which only the first may be negative. -/
def spanText (minutes : Int) : String :=
  let days := minutes.fdiv minutesOfDay
  let seconds := 60 * minutes.fmod minutesOfDay
  let parts := (if days = 0 then [] else [s!"days={days}"])
    ++ (if seconds = 0 then [] else [s!"seconds={seconds}"])
  "datetime.timedelta(" ++ (if parts.isEmpty then "0" else String.intercalate ", " parts) ++ ")"

namespace Clock

/-- What is wrong with the parts of a time of day, if something is. -/
def complaint? (c : Clock) : Option String :=
  if 23 < c.hour then some "hour must be in 0..23"
  else if 59 < c.minute then some "minute must be in 0..59"
  else if 59 < c.second then some "second must be in 0..59"
  else none

/-- How far a clock is ahead, in hours and minutes. -/
def aheadText (minutes : Int) : String :=
  let sign := if minutes < 0 then "-" else "+"
  sign ++ paddedDigits 2 (minutes.natAbs / 60) ++ ":" ++ paddedDigits 2 (minutes.natAbs % 60)

/-- A time of day as it is printed; a fraction of a second has all its digits or none. -/
def shown (c : Clock) : String :=
  String.intercalate ":" ([c.hour, c.minute, c.second].map (paddedDigits 2))
    ++ (if c.microsecond = 0 then "" else "." ++ paddedDigits 6 c.microsecond)
    ++ (c.ahead.map aheadText).getD ""

/-- The parts of a time of day as arguments; seconds are left out when nothing smaller follows
and they are zero. -/
def arguments (c : Clock) : List String :=
  let small :=
    if c.microsecond ≠ 0 then [c.second, c.microsecond]
    else if c.second ≠ 0 then [c.second] else []
  let zone := c.ahead.map fun minutes =>
    if minutes = 0 then "tzinfo=datetime.timezone.utc"
    else s!"tzinfo=datetime.timezone({spanText minutes})"
  ([c.hour, c.minute] ++ small).map toString ++ zone.toList

/-- The microseconds since the day began, by the common clock if it is known. -/
def sinceMidnight (c : Clock) : Int :=
  let minutes : Int := 60 * c.hour + c.minute - c.ahead.getD 0
  1000000 * (60 * minutes + c.second) + c.microsecond

end Clock

namespace Moment

/-- What is wrong with a date, if something is; a clock must be ahead or behind by less than a
day, which counts before all else. -/
def complaint? (m : Moment) : Option String :=
  match m.clock.bind (·.ahead) |>.filter fun minutes => minutesOfDay ≤ minutes.natAbs with
  | some minutes =>
    some ("offset must be a timedelta strictly between -timedelta(hours=24) and "
      ++ s!"timedelta(hours=24), not {spanText minutes}.")
  | none =>
    if m.year = 0 then some "year 0 is out of range"
    else if m.month = 0 ∨ 12 < m.month then some "month must be in 1..12"
    else if m.day = 0 ∨ daysOfMonth m.year m.month < m.day then
      some "day is out of range for month"
    else m.clock.bind (·.complaint?)

/-- A date as it is printed. -/
def shown (m : Moment) : String :=
  String.intercalate "-" [paddedDigits 4 m.year, paddedDigits 2 m.month, paddedDigits 2 m.day]
    ++ (m.clock.map fun c => " " ++ c.shown).getD ""

/-- The name of a date's kind. -/
def typeName (m : Moment) : String := if m.clock.isSome then "datetime" else "date"

/-- A date as it is written inside a list: its kind and its parts. -/
def quoted (m : Moment) : String :=
  let parts := [m.year, m.month, m.day].map toString ++ (m.clock.map (·.arguments)).getD []
  "datetime." ++ m.typeName ++ "(" ++ String.intercalate ", " parts ++ ")"

/-! ## Comparison -/

/-- How many days of the calendar have begun. -/
def dayNumber (m : Moment) : Nat :=
  let past := m.year - 1
  let months := (List.range (m.month - 1)).map fun month => daysOfMonth m.year (month + 1)
  365 * past + past / 4 - past / 100 + past / 400 + months.foldl (· + ·) 0 + m.day

/-- The microseconds since the calendar began. -/
def instant (m : Moment) (c : Clock) : Int :=
  60000000 * minutesOfDay * m.dayNumber + c.sinceMidnight

/-- Why two dates have no order. -/
inductive Clash where
  /-- Only one of them has the time of day. -/
  | dayAndTime
  /-- Only one of their clocks says how far it is ahead. -/
  | clocks
  deriving Repr, DecidableEq

/-- What a caller is told about two dates without an order. -/
def Clash.message : Clash → String
  | .dayAndTime => "can't compare datetime.datetime to datetime.date"
  | .clocks => "can't compare offset-naive and offset-aware datetimes"

/-- The order of two dates. -/
def compare (m n : Moment) : Except Clash Ordering :=
  match m.clock, n.clock with
  | none, none => .ok (Ord.compare m.dayNumber n.dayNumber)
  | some c, some d =>
    if c.ahead.isSome = d.ahead.isSome then .ok (Ord.compare (m.instant c) (n.instant d))
    else .error .clocks
  | _, _ => .error .dayAndTime

/-- Whether two dates are equal; without an order they are not. -/
def same (m n : Moment) : Bool :=
  match compare m n with
  | .ok .eq => true
  | _ => false

end Moment

end SnippetRunner
