import Toolwrap.Text.Blank
import Toolwrap.Text.Quoted
import Toolwrap.Value
import Toolwrap.Yaml.Tag
/-!
Days and times as they are written: a day, and perhaps a time, a fraction of a second and a zone. What
is written like one need not be in the calendar.
-/
namespace Toolwrap.Yaml

/-- A day and a time as they are written. -/
structure Timestamp where
  year : Nat
  month : Nat
  day : Nat
  /-- whether the month and the day have two digits each -/
  padded : Bool
  time : Option Moment
deriving Repr

namespace Timestamp

abbrev Reader := StateT (List Char) Option

/-- Digits, at least so many and at most so many. -/
def digits (least most : Nat) : Reader (List Char) := do
  let run := ((← get).take most).takeWhile fun c => '0' ≤ c && c ≤ '9'
  if run.length < least then failure
  modify (·.drop run.length)
  return run

def value (digits : List Char) : Nat :=
  (digits.filterMap Text.hexValue?).foldl (fun n d => 10 * n + d) 0

def number (least most : Nat) : Reader Nat := value <$> digits least most

/-- One of some characters. -/
def oneOf (cs : List Char) : Reader Char := do
  match ← get with
  | c :: rest => if c ∈ cs then set rest; return c else failure
  | [] => failure

def isNext (c : Char) : Reader Bool := return (← get).head? == some c

def skipBlanks : Reader Unit := modify (·.dropWhile fun c => c == ' ' || c == '\t')

/-- A zone: the letter for universal time, or hours and perhaps minutes with a sign. -/
def zone : Reader Int := do
  if ← isNext 'Z' then
    discard (oneOf ['Z'])
    return 0
  let sign ← oneOf ['+', '-']
  let hours ← number 1 2
  let minutes ← if ← isNext ':' then do discard (oneOf [':']); number 2 2 else pure 0
  let ahead : Int := 60 * hours + minutes
  return if sign == '-' then -ahead else ahead

/-- Six digits of a fraction; more say nothing. -/
def fraction : Reader Nat := do
  if !(← isNext '.') then return 0
  discard (oneOf ['.'])
  let ds ← digits 0 (← get).length
  return value ((ds ++ List.replicate 6 '0').take 6)

/-- A letter or blanks, which set the time apart from the day. -/
def apart : Reader Unit := do
  if !(← isNext 'T') && !(← isNext 't') then
    discard (oneOf [' ', '\t'])
    skipBlanks
  else modify (·.drop 1)

/-- The time behind a day. -/
def timeOf (year month day : Nat) : Reader Moment := do
  apart
  let hour ← number 1 2
  discard (oneOf [':'])
  let minute ← number 2 2
  discard (oneOf [':'])
  let second ← number 2 2
  let micro ← fraction
  if (← get).isEmpty then return { year, month, day, hour, minute, second, micro, zone := none }
  skipBlanks
  return { year, month, day, hour, minute, second, micro, zone := some (← zone) }

def read : Reader Timestamp := do
  let year ← number 4 4
  discard (oneOf ['-'])
  let month ← digits 1 2
  discard (oneOf ['-'])
  let day ← digits 1 2
  let padded := month.length == 2 && day.length == 2
  let (month, day) := (value month, value day)
  if (← get).isEmpty then return { year, month, day, padded, time := none }
  let time ← timeOf year month day
  if (← get).isEmpty then return { year, month, day, padded, time := some time } else failure

def ofChars? (s : List Char) : Option Timestamp := (read.run s).map (·.1)

/-- What is meant, if the day and the time are in the calendar. -/
def scalar? (t : Timestamp) : Option Scalar :=
  match t.time with
  | some m => if m.isValid then some (.moment m) else none
  | none => if Moment.isDay t.year t.month t.day then some (.date t.year t.month t.day) else none

example : (ofChars? "2001-12-14t21:59:43.10-05:00".toList).bind scalar? =
    some (.moment ⟨2001, 12, 14, 21, 59, 43, 100000, some (-300)⟩) := by decide +kernel

example : (ofChars? "2001-2-3".toList).map (·.padded) = some false := by decide +kernel

example : (ofChars? "2001-02-30".toList).bind scalar? = none := by decide +kernel

end Timestamp

/-!
The kinds of plain scalars. Without a tag the text of a plain scalar decides what it is: null, a truth
value, an integer in one of five notations, a double with a point, a day or a moment, one of the two
marks of mappings, or else text.
-/

def nullWords : List String := ["", "~", "null", "Null", "NULL"]

def boolWords : List String :=
  ["yes", "Yes", "YES", "true", "True", "TRUE", "on", "On", "ON",
   "no", "No", "NO", "false", "False", "FALSE", "off", "Off", "OFF"]

def isDigit (c : Char) : Bool := '0' ≤ c && c ≤ '9'

def isDigitOrBar (c : Char) : Bool := isDigit c || c == '_'

/-- Whether digits, and bars between and behind them, are all there is. -/
def isDigits : List Char → Bool
  | c :: rest => isDigit c && rest.all isDigitOrBar
  | [] => false

/-- The text behind a sign, if there is one. -/
def unsigned : List Char → List Char
  | '-' :: rest => rest
  | '+' :: rest => rest
  | s => s

/-- Whether a part of a number to base sixty is one: one digit, or two below sixty. -/
def isSixtieth (part : List Char) : Bool :=
  match part with
  | [c] => isDigit c
  | [c, d] => ('0' ≤ c && c ≤ '5') && isDigit d
  | _ => false

/-- Whether there are several parts between colons, the later ones below sixty. -/
def isToBaseSixty (s : List Char) : Bool :=
  match Text.Chars.splitAt ':' s with
  | first :: second :: rest => isDigits first && (second :: rest).all isSixtieth
  | _ => false

/-- Integers without a sign: to base two, sixteen, eight, ten and sixty. -/
def isNatural : List Char → Bool
  | ['0'] => true
  | '0' :: 'b' :: ds => !ds.isEmpty && ds.all (· ∈ ['0', '1', '_'])
  | '0' :: 'x' :: ds => !ds.isEmpty && ds.all fun c => (Text.hexValue? c).isSome || c == '_'
  | '0' :: ds => ds.all fun c => ('0' ≤ c && c ≤ '7') || c == '_'
  | s => isDigits s || isToBaseSixty s

/-- Nothing, or an exponent, whose sign has to be written. -/
def isExponent : List Char → Bool
  | [] => true
  | e :: sign :: ds =>
    (e == 'e' || e == 'E') && (sign == '+' || sign == '-') && !ds.isEmpty && ds.all isDigit
  | _ => false

/-- Digits with a point behind them, then perhaps digits and an exponent. -/
def isPointed (s : List Char) : Bool :=
  isDigits (s.takeWhile (· != '.')) &&
    match s.dropWhile (· != '.') with
    | '.' :: rest => isExponent (rest.dropWhile isDigitOrBar)
    | _ => false

/-- Digits behind a point, then perhaps an exponent. -/
def isFraction : List Char → Bool
  | '.' :: rest => isDigits (rest.takeWhile isDigitOrBar) && isExponent (rest.dropWhile isDigitOrBar)
  | _ => false

/-- Parts between colons, the last one with a point behind it. -/
def isSixtiethPointed (s : List Char) : Bool :=
  isToBaseSixty (s.takeWhile (· != '.')) &&
    match s.dropWhile (· != '.') with
    | '.' :: rest => rest.all isDigitOrBar
    | _ => false

def isDouble (s : List Char) : Bool :=
  isPointed (unsigned s) || isFraction s || isSixtiethPointed (unsigned s) ||
    String.ofList (unsigned s) ∈ [".inf", ".Inf", ".INF"] ||
    String.ofList s ∈ [".nan", ".NaN", ".NAN"]

/-- Days have two digits for the month and for the day, unless a time follows. -/
def isTimestamp (s : List Char) : Bool :=
  (Timestamp.ofChars? s).any fun t => t.padded || t.time.isSome

/-- The text that decides: a line feed at its end does not count, unless it is all there is. -/
def deciding (s : List Char) : List Char :=
  if s.getLast? == some '\n' && 1 < s.length then s.dropLast else s

def Kind.ofPlain (text : String) : Kind :=
  let s := deciding text.toList
  let word := String.ofList s
  if word ∈ boolWords then .bool
  else if isDouble s then .float
  else if isNatural (unsigned s) then .int
  else if word == "<<" then .merge
  else if word ∈ nullWords then .null
  else if isTimestamp s then .timestamp
  else if word == "=" then .value
  else .str

example : ["1_000", "0x1F", "190:20:30", "-017"].map Kind.ofPlain = [.int, .int, .int, .int] := by
  decide +kernel

example : ["1.5e+3", "1.5e3", ".5", "190:20:30.15", "-.inf", "-.nan"].map Kind.ofPlain =
    [.float, .str, .float, .float, .float, .str] := by decide +kernel

example : ["2001-12-14", "2001-2-3", "2001-2-3 4:05:06", "Yes", "y", "~", "=", "<<"].map Kind.ofPlain =
    [.timestamp, .str, .timestamp, .bool, .str, .null, .value, .merge] := by decide +kernel

end Toolwrap.Yaml
