import Toolwrap.Text.Blank
import Toolwrap.Text.Unicode
/-!
Amounts of memory: a decimal number and a unit, in multiples of 1024. The number of bytes is exact
and rounded down. Blanks and letter case do not matter, and the final `b` of a unit may be left out.
-/
namespace Toolwrap.Memory

inductive ByteUnit where
  | b | kb | mb | gb | tb | pb
deriving DecidableEq, Repr

namespace ByteUnit

def all : List ByteUnit := [b, kb, mb, gb, tb, pb]

def name : ByteUnit → String
  | b => "b" | kb => "kb" | mb => "mb" | gb => "gb" | tb => "tb" | pb => "pb"

def power : ByteUnit → Nat
  | b => 0 | kb => 1 | mb => 2 | gb => 3 | tb => 4 | pb => 5

def bytes (u : ByteUnit) : Nat := Nat.pow 1024 u.power

/-- The unit a suffix names, in lower case. -/
def ofSuffix? : List Char → Option ByteUnit
  | [] => some b
  | ['b'] => some b
  | 'k' :: rest => closing kb rest
  | 'm' :: rest => closing mb rest
  | 'g' :: rest => closing gb rest
  | 't' :: rest => closing tb rest
  | 'p' :: rest => closing pb rest
  | _ => none
where
  closing (u : ByteUnit) (rest : List Char) : Option ByteUnit :=
    if rest = [] ∨ rest = ['b'] then some u else none

end ByteUnit

/-- The greatest amount that can be stated. -/
def maxBytes : Nat := Nat.pow 2 63 - 1

/-- The greatest number of digits of a numeral. -/
def maxDigits : Nat := 4300

/-- A number written in decimal digits, with a unit. -/
structure Amount where
  whole : List Char
  fraction : List Char
  unit : ByteUnit
deriving DecidableEq, Repr

def isDigit (c : Char) : Bool := '0' ≤ c && c ≤ '9'

def digitValue (c : Char) : Nat := c.toNat - 48

def digitsValue (ds : List Char) : Nat := ds.foldl (fun n c => 10 * n + digitValue c) 0

/-- Reads digits, then perhaps a point with digits after it, then a unit. The digits before the
point may be missing if there is a point. -/
def Amount.ofChars? (s : List Char) : Option Amount :=
  let whole := s.takeWhile isDigit
  match s.dropWhile isDigit with
  | '.' :: rest =>
    let fraction := rest.takeWhile isDigit
    if fraction.isEmpty then none
    else (ByteUnit.ofSuffix? (rest.dropWhile isDigit)).map (⟨whole, fraction, ·⟩)
  | rest => if whole.isEmpty then none else (ByteUnit.ofSuffix? rest).map (⟨whole, [], ·⟩)

/-- The number of bytes, rounded down. -/
def Amount.floorBytes (a : Amount) : Nat :=
  digitsValue a.whole * a.unit.bytes +
    digitsValue a.fraction * a.unit.bytes / Nat.pow 10 a.fraction.length

/-- Why a text is not an amount of memory. -/
inductive Refusal where
  | malformed (text : String)
  /-- one of its numerals is longer than `maxDigits` -/
  | tooManyDigits (count : Nat)
  | tooLarge (text : String)
deriving DecidableEq, Repr

def Refusal.message : Refusal → String
  | malformed text => s!"Invalid memory value '{text}': expected e.g. 512MB, 2GB or 1.5TB"
  | tooManyDigits count =>
    s!"Exceeds the limit ({maxDigits} digits) for integer string conversion: value has {count} " ++
      "digits; use sys.set_int_max_str_digits() to increase the limit"
  | tooLarge text =>
    s!"Memory value '{text}' is too large: at most {maxBytes} bytes are supported"

/-- The text without blanks and in lower case, which is what is read. -/
def normalised (text : String) : String := Text.lower (Text.withoutBlanks text)

/-- The number of bytes that a text states. -/
def parse (text : String) : Except Refusal Nat :=
  match Amount.ofChars? (normalised text).toList with
  | none => .error (.malformed text)
  | some amount =>
    if maxDigits < amount.whole.length then .error (.tooManyDigits amount.whole.length)
    else if maxDigits < amount.fraction.length then
      .error (.tooManyDigits amount.fraction.length)
    else if maxBytes < amount.floorBytes then .error (.tooLarge text) else .ok amount.floorBytes

end Toolwrap.Memory
