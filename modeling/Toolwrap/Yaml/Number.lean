import Toolwrap.Decimal
import Toolwrap.Text.Blank
import Toolwrap.Text.Quoted
import Toolwrap.Text.Unicode
/-!
Numbers as scalars write them. A tag may ask for a number where the text has another form than plain
scalars do: digits of any script count, and blanks around a number do not.
-/
namespace Toolwrap.Yaml

/-- The digits of a number that has at most so many to base ten. -/
def maxDigits : Nat := 4300

/-- The letter behind a zero that says to which base a number is written. -/
def baseLetter (base : Nat) : List Char :=
  match base with
  | 2 => ['b', 'B']
  | 8 => ['o', 'O']
  | 16 => ['x', 'X']
  | _ => []

/-- The digits of a number to a base, without the mark of the base. -/
def withoutMark (base : Nat) : List Char → List Char
  | '0' :: c :: rest => if c ∈ baseLetter base then rest else '0' :: c :: rest
  | s => s

/-- What digits stand for to a base. -/
def magnitude? (base : Nat) (s : List Char) : Option Nat :=
  let digits := withoutMark base s
  if digits.isEmpty || (base == 10 && maxDigits < digits.length) then none
  else
    digits.foldlM (fun n c =>
      match Text.hexValue? c with
      | some d => if d < base then some (base * n + d) else none
      | none => none) 0

/-- An integer to a base, with blanks around it and a sign in front. -/
def whole? (base : Nat) (s : List Char) : Option Int :=
  match Text.plainDigits (Text.Chars.strip s) with
  | '-' :: rest => (magnitude? base rest).map fun n => -(n : Int)
  | '+' :: rest => (magnitude? base rest).map Int.ofNat
  | rest => (magnitude? base rest).map Int.ofNat

/-- An integer behind its first sign: the text tells its base. -/
def unsignedInt? : List Char → Option Int
  | [] => none
  | ['0'] => some 0
  | '0' :: 'b' :: ds => whole? 2 ds
  | '0' :: 'x' :: ds => whole? 16 ds
  | '0' :: ds => whole? 8 ('0' :: ds)
  | s =>
    if ':' ∈ s then
      (Text.Chars.splitAt ':' s).foldlM (fun n part => (whole? 10 part).map (60 * n + ·)) 0
    else whole? 10 s

/-- The text without the bars that set its digits apart. -/
def withoutBars (text : String) : List Char := text.toList.filter (· != '_')

def int? (text : String) : Option Int :=
  match withoutBars text with
  | '-' :: rest => (unsignedInt? rest).map (- ·)
  | '+' :: rest => unsignedInt? rest
  | s => unsignedInt? s

/-- An exponent behind its letter. -/
def exponent? : List Char → Option Int
  | '-' :: ds => (natural? ds).map fun n => -(n : Int)
  | '+' :: ds => (natural? ds).map Int.ofNat
  | ds => (natural? ds).map Int.ofNat
where
  natural? (ds : List Char) : Option Nat :=
    if !ds.isEmpty && ds.all (fun c => '0' ≤ c && c ≤ '9') then
      some ((ds.filterMap Text.hexValue?).foldl (fun n d => 10 * n + d) 0)
    else none

/-- A double behind its sign: a word, or digits with perhaps a point and an exponent. -/
def unsignedDecimal? (negative : Bool) (s : List Char) : Option Double := do
  if String.ofList s ∈ ["inf", "infinity"] then return .infinite negative
  if String.ofList s == "nan" then return .nan
  let isDigit := fun (c : Char) => '0' ≤ c && c ≤ '9'
  let whole := s.takeWhile isDigit
  let (fraction, rest) :=
    match s.dropWhile isDigit with
    | '.' :: rest => (rest.takeWhile isDigit, rest.dropWhile isDigit)
    | rest => ([], rest)
  let digits := whole ++ fraction
  if digits.isEmpty then none
  let exponent ←
    match rest with
    | [] => some 0
    | 'e' :: rest => exponent? rest
    | _ => none
  return Double.ofDecimal negative
    ((digits.filterMap Text.hexValue?).foldl (fun n d => 10 * n + d) 0) (exponent - fraction.length)

/-- A double with blanks around it and a sign in front, in small letters. -/
def decimal? (s : List Char) : Option Double :=
  match Text.plainDigits (Text.Chars.strip s) with
  | '-' :: rest => unsignedDecimal? true rest
  | '+' :: rest => unsignedDecimal? false rest
  | rest => unsignedDecimal? false rest

/-- The sum of parts to base sixty, the last one first, each rounded by itself. -/
def sixtySum (base : Nat) (sum : Double) : List Double → Option Double
  | [] => some sum
  | part :: rest => do
    let scale ← Double.ofInt? base
    sixtySum (60 * base) (sum.plus (part.times scale)) rest

/-- A double behind its first sign. -/
def unsignedDouble? (s : List Char) : Option Double :=
  if String.ofList s == ".inf" then some (.infinite false)
  else if String.ofList s == ".nan" then some .nan
  else if ':' ∈ s then do
    sixtySum 1 (.zero false) (← (Text.Chars.splitAt ':' s).mapM decimal?).reverse
  else decimal? s

def double? (text : String) : Option Double :=
  match Text.lowerFrom false (withoutBars text) with
  | [] => none
  | '-' :: rest => (unsignedDouble? rest).map Double.negated
  | '+' :: rest => unsignedDouble? rest
  | s => unsignedDouble? s

example : ["-0x1F", "0b101", "010", "190:20:30", " 12 ", "+-5"].map int? =
    [some (-31), some 5, some 8, some 685230, some 12, some (-5)] := by decide +kernel

example : ["0b", "08", "-", "1:", "0x"].map int? = [none, none, none, none, none] := by decide +kernel

example : double? "190:20:30.15" = double? "685230.15" := by decide +kernel

end Toolwrap.Yaml
