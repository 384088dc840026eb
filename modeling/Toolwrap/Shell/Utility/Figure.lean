import Toolwrap.Decimal
import Toolwrap.Shell.Format
import Toolwrap.Shell.Utility.Basic
/-!
Programs that work with numbers: they compare two of them, or count from one to another.
-/
namespace Toolwrap.Shell.Utility

/-- The number at the front of a text, zero if there is none. -/
def leadingNumber (s : String) : Double :=
  let cs := s.toList.dropWhile fun c => c == ' ' || c == '\t' || c == '\n'
  let (negative, cs) :=
    match cs with
    | '-' :: r => (true, r)
    | '+' :: r => (false, r)
    | r => (false, r)
  let whole := cs.takeWhile Char.isDigit
  let (fraction, rest) :=
    match cs.drop whole.length with
    | '.' :: r => (r.takeWhile Char.isDigit, r.dropWhile Char.isDigit)
    | r => ([], r)
  let exponent : Int :=
    match rest with
    | e :: r =>
      if e == 'e' || e == 'E' then
        match r with
        | '-' :: ds => -(numberIn 10 (ds.takeWhile Char.isDigit) : Int)
        | '+' :: ds => numberIn 10 (ds.takeWhile Char.isDigit)
        | ds => numberIn 10 (ds.takeWhile Char.isDigit)
      else 0
    | [] => 0
  Double.ofDecimal negative (numberIn 10 (whole ++ fraction)) (exponent - fraction.length)

/-- The program by which wrappers compare two numbers. -/
def comparison : String := "BEGIN \x7b exit !(a + 0 < b + 0) \x7d"

/-- Compares two numbers that are given as variables. -/
def lessOfTwo : Utility := fun _ args => do
  match args with
  | ["-v", a, "-v", b, program] =>
    if program != comparison || !a.startsWith "a=" || !b.startsWith "b=" then throw (.unsupported "awk")
    let value := fun (s : String) => leadingNumber (String.ofList (s.toList.drop 2))
    return if (value a).less (value b) then 0 else 1
  | _ => throw (.unsupported "awk")

/-! Counting. -/

/-- A number as it was written: `mantissa / 10 ^ places`. -/
structure Figure where
  mantissa : Int
  places : Nat
  /-- how many places it was written with -/
  precision : Nat := 0
  /-- how many characters it takes with them -/
  width : Nat := 1
deriving Repr

/-- Why a text is no number to count with. -/
inductive FigureFault where
  | notFinite
  | senseless

namespace Figure

/-- In units of `10 ^ -places`. -/
def units (f : Figure) (places : Nat) : Int := f.mantissa * (Nat.pow 10 (places - f.places) : Nat)

def read (s : String) : Except FigureFault Figure := do
  let text := s.toList.dropWhile fun c => Format.isSpace c || c == '+'
  let negative := text.head? == some '-'
  let body := if negative then text.drop 1 else text
  if ["inf", "infinity"].contains (String.ofList body).toLower then throw .notFinite
  let whole := body.takeWhile Char.isDigit
  let (point, fraction, rest) :=
    match body.drop whole.length with
    | '.' :: r => (true, r.takeWhile Char.isDigit, r.dropWhile Char.isDigit)
    | r => (false, [], r)
  let (e, after) := Format.exponentAt 'e' rest
  if (whole.isEmpty && fraction.isEmpty) || !after.isEmpty then throw .senseless
  if 300 < e.natAbs then throw .notFinite
  let n : Int := numberIn 10 (whole ++ fraction)
  let mantissa := if negative then -n else n
  let written := text.length - rest.length
  let written := if !point then written else if fraction.isEmpty then written - 1
    else if whole.isEmpty then written + 1 else written
  let precision := if e < 0 then fraction.length + e.natAbs else fraction.length - min fraction.length e.toNat
  let width :=
    if e < 0 then written + e.natAbs + (if point then 0 else 1)
    else written - (if point && precision == 0 && !fraction.isEmpty then 1 else 0) +
      (e.toNat - min fraction.length e.toNat)
  if e < 0 then return ⟨mantissa, fraction.length + e.natAbs, precision, width⟩
  else return ⟨mantissa * (Nat.pow 10 e.toNat : Nat), fraction.length, precision, width⟩

end Figure

/-- The numbers from one to another. The fuel bounds how many there are. -/
def countFrom (step last : Int) : Nat → Int → List Int
  | 0, _ => []
  | fuel + 1, n =>
    if (if step < 0 then n < last else last < n) then [] else n :: countFrom step last fuel (n + step)

/-- The text of a format: its directive for a number, between two texts; or what is wrong with it. -/
def counterFormat (format : String) : Except String (List Char × Format.Directive × List Char) :=
  let shown := curved format
  match plain format.toList with
  | (_, none) => .error ("format " ++ shown ++ " has no % directive")
  | (before, some rest) =>
    let flags := rest.takeWhile (· ∈ ['-', '+', '#', '0', ' ', '\x27'])
    let sized := (rest.drop flags.length).dropWhile Char.isDigit
    let sized := match sized with
      | '.' :: r => r.dropWhile Char.isDigit
      | r => r
    match if sized.head? == some 'L' then sized.drop 1 else sized with
    | [] => .error ("format " ++ shown ++ " ends in %")
    | c :: after =>
      if c ∉ ['e', 'f', 'g', 'a', 'E', 'F', 'G', 'A'] then
        .error ("format " ++ shown ++ " has unknown %" ++ String.singleton c ++ " directive")
      else
        match plain after, Format.directive rest with
        | (after, none), (.directive d, _) => .ok (before, d, after)
        | _, _ => .error ("format " ++ shown ++ " has too many % directives")
where
  /-- Text in front of a directive, and what follows its mark. -/
  plain : List Char → List Char × Option (List Char)
    | '%' :: '%' :: rest =>
      let (text, more) := plain rest
      ('%' :: text, more)
    | '%' :: rest => ([], some rest)
    | c :: rest =>
      let (text, more) := plain rest
      (c :: text, more)
    | [] => ([], none)

/-- Prints the numbers from the first to the last one. -/
def countUp : Utility := fun _ args => do
  let o : Options := {
    short := "f:s:w", long := [("equal-width", "w"), ("format", "f"), ("separator", "s")], inFront := true }
  -- a number below zero is no option
  let isFigure := fun (a : String) =>
    match a.toList with
    | '-' :: c :: _ => c == '.' || c.isDigit
    | _ => false
  let front := args.takeWhile fun a => !isFigure a
  let args := match o.read front with
    | .ok { operands := [], .. } => if front.contains "--" then args else front ++ "--" :: args.drop front.length
    | _ => args
  withCall o args fun call => do
    match call.operands with
    | [] => misused 1 "missing operand"
    | _ :: _ :: _ :: extra :: _ => misused 1 ("extra operand " ++ curved extra)
    | operands =>
      let mut figures : List Figure := []
      for a in operands do
        match Figure.read a with
        | .ok f => figures := figures ++ [f]
        | .error .senseless =>
          if a.toLower == "nan" then return ← misused 1 ("invalid ‘not-a-number’ argument: " ++ curved a)
          return ← misused 1 ("invalid floating point argument: " ++ curved a)
        | .error .notFinite => throw (.unsupported "seq")
      let one : Figure := ⟨1, 0, 0, 1⟩
      let (first, step, last) := match figures with
        | [last] => (one, one, last)
        | [first, last] => (first, one, last)
        | [first, step, last] => (first, step, last)
        | _ => (one, one, one)
      if step.mantissa == 0 then
        return ← misused 1 ("invalid Zero increment value: " ++ curved ((operands.drop 1).headD ""))
      let format ← match call.value? "f" with
        | none => pure none
        | some format =>
          match counterFormat format with
          | .ok parts => pure (some parts)
          | .error message => return ← fail 1 message
      if format.isSome && call.has "w" then
        return ← misused 1 "format string may not be specified when printing equal width strings"
      let places := max first.places (max step.places last.places)
      let (start, by_, stop) := (first.units places, step.units places, last.units places)
      let many := (stop - start).natAbs / by_.natAbs + 1
      if 2000000 < many then throw (.unsupported "seq")
      let precision := max first.precision step.precision
      let widthOf := fun (f : Figure) =>
        let w := f.width + precision - f.precision
        if f.precision != 0 && precision == 0 then w - 1
        else if f.precision == 0 && precision != 0 then w + 1
        else w
      let directive : Format.Directive := {
        left := false, zero := call.has "w", plus := false, space := false, alternative := false
        width := .fixed (max (widthOf first) (widthOf last)), precision := some (.fixed precision), conversion := 'f' }
      let (before, directive, after) := format.getD ([], directive, [])
      let fixed := fun (size : Format.Size) =>
        match size with
        | .fixed n => n
        | .argument => 0
      let shape : Format.Shape := {
        directive, left := directive.left
        width := if format.isNone && !call.has "w" then 0 else fixed directive.width
        precision := directive.precision.map fixed }
      let text := fun (n : Int) =>
        let x : Format.Real := .finite (decide (n < 0)) ⟨n.natAbs, Nat.pow 10 places⟩
        String.ofList (before ++ Format.realText shape x ++ after)
      let numbers := countFrom by_ stop many start
      if !numbers.isEmpty then out ((call.value? "s").getD "\n" |>.intercalate (numbers.map text) |> (· ++ "\n"))
      return 0

end Toolwrap.Shell.Utility
