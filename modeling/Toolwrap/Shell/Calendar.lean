import Toolwrap.Moment
import Toolwrap.Shell.Escape
/-!
Moments written by a format, in the time zone of all runs, which has no offset. A moment is a number of
seconds since the first day of 1970.
-/
namespace Toolwrap.Shell.Calendar

structure Moment where
  year : Nat
  /-- counted from one -/
  month : Nat
  /-- of the month, counted from one -/
  day : Nat
  /-- of the year, counted from zero -/
  yearDay : Nat
  /-- of the week, counted from Sunday as zero -/
  weekDay : Nat
  hour : Nat
  minute : Nat
  second : Nat
  /-- since the first day of 1970 -/
  seconds : Nat
deriving DecidableEq, Repr

def Moment.ofSeconds (seconds : Nat) : Moment :=
  let days := seconds / 86400
  let (year, yearDay) := Clock.yearAndDay (days + 1) 1970 days
  let (month, day) := Clock.monthAndDay 1 yearDay (Clock.daysOfMonths year)
  let rest := seconds % 86400
  { year, month, day, yearDay, weekDay := (days + 4) % 7, hour := rest / 3600, minute := rest / 60 % 60
    second := rest % 60, seconds }

/-- The days from the first one of 1970 to the first one of a year. -/
def daysBefore (year : Nat) : Nat := (List.range (year - 1970)).foldl (fun days n => days + Clock.daysOfYear (1970 + n)) 0

/-- The moment of a date, if there is such a day. -/
def ofDate? (year month day hour minute second : Nat) : Option Nat :=
  let months := Clock.daysOfMonths year
  if year < 1970 || 9999 < year || month == 0 || 12 < month || day == 0 || months.getD (month - 1) 0 < day ||
      23 < hour || 59 < minute || 60 < second then none
  else
    let days := (months.take (month - 1)).foldl (· + ·) (daysBefore year) + day - 1
    some (days * 86400 + hour * 3600 + minute * 60 + second)

/-- The moment at which runs take place, as far as they can tell. -/
def now : Nat := 1700000000

def weekDays : List String := ["Sunday", "Monday", "Tuesday", "Wednesday", "Thursday", "Friday", "Saturday"]

def months : List String :=
  ["January", "February", "March", "April", "May", "June", "July", "August", "September", "October", "November",
   "December"]

def short (name : String) : String := String.ofList (name.toList.take 3)

/-- A number filled up to a width. -/
def padded (fill : Char) (width n : Nat) : String :=
  let digits := toString n
  String.ofList (List.replicate (width - digits.length) fill) ++ digits

namespace Moment

/-- The number of the week, of which the given day is the first. -/
def week (m : Moment) (first : Nat) : Nat := (m.yearDay + 7 - (m.weekDay + 7 - first) % 7) / 7

/-- The weeks of a year whose first day is a day of the week: the first one holds the year's first Thursday. -/
def longYear (year firstDay : Nat) : Bool := firstDay == 4 || (Clock.isLeap year && firstDay == 3)

/-- The year and the week by which weeks are counted that begin on a Monday and belong to the year that has
most of them. -/
def isoWeek (m : Moment) : Nat × Nat :=
  let day := (m.weekDay + 6) % 7
  let week : Int := ((m.yearDay : Int) - day + 10) / 7
  let firstDay := (m.weekDay + 7 * 53 - m.yearDay) % 7
  if week < 1 then
    let before := m.year - 1
    let firstBefore := (firstDay + 7 * 53 - Clock.daysOfYear before) % 7
    (before, if longYear before firstBefore then 53 else 52)
  else if week == 53 && !longYear m.year firstDay then (m.year + 1, 1)
  else (m.year, week.toNat)

/-- What a letter of a format stands for; `fill` takes the place of the usual one. -/
def fact? (m : Moment) (fill : Option Char) : Char → Option String
  | 'Y' => some (toString m.year)
  | 'C' => two '0' (m.year / 100)
  | 'y' => two '0' (m.year % 100)
  | 'm' => two '0' m.month
  | 'd' => two '0' m.day
  | 'e' => two ' ' m.day
  | 'H' => two '0' m.hour
  | 'k' => two ' ' m.hour
  | 'I' => two '0' ((m.hour + 11) % 12 + 1)
  | 'l' => two ' ' ((m.hour + 11) % 12 + 1)
  | 'M' => two '0' m.minute
  | 'S' => two '0' m.second
  | 'j' => number '0' 3 (m.yearDay + 1)
  | 's' => some (toString m.seconds)
  | 'u' => some (toString ((m.weekDay + 6) % 7 + 1))
  | 'w' => some (toString m.weekDay)
  | 'U' => two '0' (m.week 0)
  | 'W' => two '0' (m.week 1)
  | 'V' => two '0' m.isoWeek.2
  | 'G' => some (toString m.isoWeek.1)
  | 'g' => two '0' (m.isoWeek.1 % 100)
  | 'a' => some (short (weekDays.getD m.weekDay ""))
  | 'A' => some (weekDays.getD m.weekDay "")
  | 'b' | 'h' => some (short (Calendar.months.getD (m.month - 1) ""))
  | 'B' => some (Calendar.months.getD (m.month - 1) "")
  | 'p' => some (if m.hour < 12 then "AM" else "PM")
  | 'P' => some (if m.hour < 12 then "am" else "pm")
  | 'F' => some (toString m.year ++ "-" ++ padded '0' 2 m.month ++ "-" ++ padded '0' 2 m.day)
  | 'D' | 'x' => some ("/".intercalate [padded '0' 2 m.month, padded '0' 2 m.day, padded '0' 2 (m.year % 100)])
  | 'T' | 'X' => some clock
  | 'R' => some (padded '0' 2 m.hour ++ ":" ++ padded '0' 2 m.minute)
  | 'r' =>
    some (":".intercalate [padded '0' 2 ((m.hour + 11) % 12 + 1), padded '0' 2 m.minute, padded '0' 2 m.second] ++
      (if m.hour < 12 then " AM" else " PM"))
  | 'c' =>
    some (short (weekDays.getD m.weekDay "") ++ " " ++ short (Calendar.months.getD (m.month - 1) "") ++ " " ++
      padded ' ' 2 m.day ++ " " ++ clock ++ " " ++ toString m.year)
  | 'Z' => some "UTC"
  | 'z' => some "+0000"
  | 'n' => some "\n"
  | 't' => some "\t"
  | '%' => some "%"
  | _ => none
where
  number (usual : Char) (width n : Nat) : Option String :=
    match fill with
    | some '-' => some (toString n)
    | fill => some (padded (fill.getD usual) width n)
  two (usual : Char) (n : Nat) : Option String := number usual 2 n
  clock : String := ":".intercalate [padded '0' 2 m.hour, padded '0' 2 m.minute, padded '0' 2 m.second]

/-- The moment by a format; `nanoseconds` says whether a letter for these is known. -/
def text (m : Moment) (nanoseconds : Bool) : List Char → String
  | '%' :: '-' :: c :: rest => shown (some '-') ['%', '-'] c ++ text m nanoseconds rest
  | '%' :: '_' :: c :: rest => shown (some ' ') ['%', '_'] c ++ text m nanoseconds rest
  | '%' :: '0' :: c :: rest => shown (some '0') ['%', '0'] c ++ text m nanoseconds rest
  | '%' :: c :: rest =>
    (if c == 'N' && nanoseconds then "000000000" else shown none ['%'] c) ++ text m nanoseconds rest
  | c :: rest => String.singleton c ++ text m nanoseconds rest
  | [] => ""
where
  shown (fill : Option Char) (lead : List Char) (c : Char) : String :=
    (m.fact? fill c).getD (String.ofList (lead ++ [c]))

end Moment

example : (Moment.ofSeconds 1709208245).text false "%F %T %j %a %V".toList = "2024-02-29 12:04:05 060 Thu 09" := by
  decide +kernel

end Toolwrap.Shell.Calendar
