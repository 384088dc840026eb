import Toolwrap.Decimal
/-!
The time as messages show it. `Clock.dateTime` gives the date and time of a number of seconds since the
first day of 1970.
-/
namespace Toolwrap

/-- The time of a run. It is taken once, so that a run is a function of it. -/
structure Clock where
  /-- the date and time, to the second -/
  now : String := ""
  /-- seconds that a step took, with four decimals -/
  elapsed : String := "0.0000"
deriving Repr

namespace Clock

def isLeap (year : Nat) : Bool := year % 4 == 0 && (year % 100 != 0 || year % 400 == 0)

def daysOfYear (year : Nat) : Nat := if isLeap year then 366 else 365

def daysOfMonths (year : Nat) : List Nat :=
  [31, if isLeap year then 29 else 28, 31, 30, 31, 30, 31, 31, 30, 31, 30, 31]

/-- The month and the day of the month, counted from one, of a day of the year counted from zero. -/
def monthAndDay (month day : Nat) : List Nat → Nat × Nat
  | [] => (month, day + 1)
  | days :: rest => if day < days then (month, day + 1) else monthAndDay (month + 1) (day - days) rest

/-- The year of a day counted from the first day of a year, and its day of the year. The fuel is one
more than the number of days. -/
def yearAndDay : Nat → Nat → Nat → Nat × Nat
  | 0, year, day => (year, day)
  | fuel + 1, year, day =>
    if day < daysOfYear year then (year, day) else yearAndDay fuel (year + 1) (day - daysOfYear year)

/-- A number with at least two digits. -/
def twoDigits (n : Nat) : String := if n < 10 then "0" ++ toString n else toString n

def dateTime (seconds : Nat) : String :=
  let days := seconds / 86400
  let (year, day) := yearAndDay (days + 1) 1970 days
  let (month, day) := monthAndDay 1 day (daysOfMonths year)
  let rest := seconds % 86400
  let time := [rest / 3600, rest / 60 % 60, rest % 60].map twoDigits
  "-".intercalate [toString year, twoDigits month, twoDigits day] ++ " " ++ ":".intercalate time

example : dateTime 0 = "1970-01-01 00:00:00" := by decide +kernel

example : dateTime 1709208245 = "2024-02-29 12:04:05" := by decide +kernel

end Clock

/-!
Moments: a day of the calendar with a time of day, to the microsecond, and perhaps the zone that the
time is meant in. `Moment.display` is how a moment is written; `Moment.instant` counts microseconds,
so that times of different zones can be compared.
-/

structure Moment where
  year : Nat
  month : Nat
  day : Nat
  hour : Nat
  minute : Nat
  second : Nat
  micro : Nat
  /-- the minutes by which the zone is ahead of universal time -/
  zone : Option Int
deriving DecidableEq, Repr

namespace Moment

/-- Whether the calendar has a day: years count from one. -/
def isDay (year month day : Nat) : Bool :=
  1 ≤ year && 1 ≤ month && 1 ≤ day &&
    ((Clock.daysOfMonths year)[month - 1]?).any (day ≤ ·)

/-- Whether the day and the time exist, and the zone is less than a day away. -/
def isValid (m : Moment) : Bool :=
  isDay m.year m.month m.day && m.hour < 24 && m.minute < 60 && m.second < 60 &&
    m.micro < 1000000 && m.zone.all fun z => z.natAbs < 1440

def showDay (year month day : Nat) : String :=
  "-".intercalate [Decimal.padLeft 4 (toString year), Clock.twoDigits month, Clock.twoDigits day]

def showZone (z : Int) : String :=
  (if z < 0 then "-" else "+") ++ Clock.twoDigits (z.natAbs / 60) ++ ":" ++
    Clock.twoDigits (z.natAbs % 60)

/-- Microseconds are shown with six digits, or not at all when there are none. -/
def display (m : Moment) : String :=
  showDay m.year m.month m.day ++ " " ++
    ":".intercalate ([m.hour, m.minute, m.second].map Clock.twoDigits) ++
    (if m.micro == 0 then "" else "." ++ Decimal.padLeft 6 (toString m.micro)) ++
    m.zone.elim "" showZone

/-- A zone as the length of time that it is ahead, in days and in seconds that are not negative. -/
def zoneTerm (z : Int) : String :=
  let days := Int.fdiv z 1440
  let seconds := Int.fmod z 1440 * 60
  if z == 0 then "datetime.timezone.utc"
  else
    "datetime.timezone(datetime.timedelta(" ++
      (if days == 0 then "" else s!"days={days}, ") ++ s!"seconds={seconds}))"

/-- The moment as a term: the numbers up to the last one that is needed, then the zone. -/
def quoted (m : Moment) : String :=
  let rest :=
    if m.micro != 0 then [m.second, m.micro] else if m.second != 0 then [m.second] else []
  let numbers := ([m.year, m.month, m.day, m.hour, m.minute] ++ rest).map toString
  let zone := (m.zone.map fun z => "tzinfo=" ++ zoneTerm z).toList
  "datetime.datetime(" ++ ", ".intercalate (numbers ++ zone) ++ ")"

/-- The days from the first one of the calendar to a day. -/
def dayNumber (year month day : Nat) : Nat :=
  let past := year - 1
  365 * past + past / 4 - past / 100 + past / 400 +
    ((Clock.daysOfMonths year).take (month - 1)).foldl (· + ·) 0 + day - 1

/-- The microseconds from the first day of the calendar, in universal time if there is a zone. -/
def instant (m : Moment) : Int :=
  let minutes : Int :=
    (dayNumber m.year m.month m.day * 24 + m.hour) * 60 + m.minute - m.zone.getD 0
  (minutes * 60 + m.second) * 1000000 + m.micro

/-- Two moments are the same at the same instant, but never one with a zone and one without. -/
def same (a b : Moment) : Bool := a.zone.isSome == b.zone.isSome && a.instant == b.instant

example : (Moment.mk 2001 12 14 21 59 43 100000 (some (-300))).display =
    "2001-12-14 21:59:43.100000-05:00" := by decide +kernel

example : (Moment.mk 2001 12 14 21 59 43 0 (some (-300))).same
    (Moment.mk 2001 12 15 2 59 43 0 (some 0)) = true := by decide +kernel

end Moment

end Toolwrap
