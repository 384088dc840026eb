/-!
Double-precision values as exact numbers. A finite value is `± mantissa * 2 ^ exponent`, so order,
equality and rounding are integer arithmetic. Every value this library makes is canonical
(`Double.Canonical`), so that two finite values are equal exactly when their parts are, zeros of
either sign apart.
-/
namespace Toolwrap

inductive Double where
  | finite (negative : Bool) (mantissa : Nat) (exponent : Int)
  | infinite (negative : Bool)
  | nan
deriving DecidableEq, Repr, Inhabited

namespace Double

/-- The mantissa has at most 53 bits, and 53 unless the exponent is the least one. -/
def Canonical : Double → Prop
  | finite _ mantissa exponent =>
    mantissa < Nat.pow 2 53 ∧ -1074 ≤ exponent ∧ exponent ≤ 971 ∧
      (Nat.pow 2 52 ≤ mantissa ∨ exponent = -1074)
  | infinite _ => True
  | nan => True

def zero (negative : Bool) : Double := finite negative 0 (-1074)

/-- The quotient rounded to the nearest integer, a half to the even neighbour. -/
def roundDiv (num den : Nat) : Nat :=
  let q := num / den
  let r := num % den
  if 2 * r < den then q
  else if den < 2 * r then q + 1
  else if q % 2 == 0 then q else q + 1

/-- `num / den` in units of `2 ^ exponent`, as a fraction. -/
def inUnits (num den : Nat) (exponent : Int) : Nat × Nat :=
  (num * Nat.pow 2 (-exponent).toNat, den * Nat.pow 2 exponent.toNat)

/-- The exponent at which the quotient has 53 bits before the point, or the least exponent. -/
def unitExponent (num den : Nat) : Int :=
  let guess : Int := (num.log2 : Int) - (den.log2 : Int) - 52
  let scaled := inUnits num den guess
  max (-1074) (if scaled.1 / scaled.2 < Nat.pow 2 52 then guess - 1 else guess)

/-- The double nearest to `num / den`, a half going to the even mantissa. -/
def ofRatio (negative : Bool) (num den : Nat) : Double :=
  if num == 0 then zero negative
  else
    let exponent := unitExponent num den
    let scaled := inUnits num den exponent
    let mantissa := roundDiv scaled.1 scaled.2
    let carried := mantissa == Nat.pow 2 53
    let mantissa := if carried then Nat.pow 2 52 else mantissa
    let exponent := if carried then exponent + 1 else exponent
    if 971 < exponent then infinite negative else finite negative mantissa exponent

/-- The double nearest to `digits * 10 ^ exp`. Exponents that settle the result alone are not
raised. -/
def ofDecimal (negative : Bool) (digits : Nat) (exp : Int) : Double :=
  if digits == 0 then zero negative
  else if 310 < exp + (digits.log2 * 30102 / 100000 : Nat) then infinite negative
  else if exp + ((digits.log2 + 1) * 30103 / 100000 + 1 : Nat) < -330 then zero negative
  else ofRatio negative (digits * Nat.pow 10 exp.toNat) (Nat.pow 10 (-exp).toNat)

/-- The double nearest to an integer, if the integer is not too large. -/
def ofInt? (n : Int) : Option Double :=
  match ofRatio (n < 0) n.natAbs 1 with
  | infinite _ => none
  | x => some x

/-- The signed mantissas of two values over their common exponent. -/
def aligned (m₁ : Nat) (e₁ : Int) (m₂ : Nat) (e₂ : Int) : Nat × Nat :=
  let low := min e₁ e₂
  (m₁ * Nat.pow 2 (e₁ - low).toNat, m₂ * Nat.pow 2 (e₂ - low).toNat)

def signed (negative : Bool) (m : Nat) : Int := if negative then -(m : Int) else m

/-- The double nearest to `n * 2 ^ exponent`, a zero having no sign. -/
def ofScaled (n exponent : Int) : Double :=
  ofRatio (n < 0) (n.natAbs * Nat.pow 2 exponent.toNat) (Nat.pow 2 (-exponent).toNat)

/-- The other sign. -/
def negated : Double → Double
  | finite s m e => finite (!s) m e
  | infinite s => infinite (!s)
  | nan => nan

/-- The rounded sum. -/
def plus : Double → Double → Double
  | nan, _ => nan
  | _, nan => nan
  | infinite s, infinite t => if s == t then infinite s else nan
  | infinite s, finite _ _ _ => infinite s
  | finite _ _ _, infinite t => infinite t
  | finite s m₁ e₁, finite t m₂ e₂ =>
    if s && t && m₁ == 0 && m₂ == 0 then zero true
    else
      let (a, b) := aligned m₁ e₁ m₂ e₂
      ofScaled (signed s a + signed t b) (min e₁ e₂)

/-- The rounded product. -/
def times : Double → Double → Double
  | nan, _ => nan
  | _, nan => nan
  | infinite s, infinite t => infinite (s != t)
  | infinite s, finite t m _ => if m == 0 then nan else infinite (s != t)
  | finite s m _, infinite t => if m == 0 then nan else infinite (s != t)
  | finite s m₁ e₁, finite t m₂ e₂ =>
    let product := ofScaled (m₁ * m₂ : Nat) (e₁ + e₂)
    if s != t then product.negated else product

/-- The order of two values, none when one of them is not a number. -/
def compare? : Double → Double → Option Ordering
  | nan, _ => none
  | _, nan => none
  | infinite s, infinite t => some (compare (signed s 1) (signed t 1))
  | infinite s, finite _ _ _ => some (if s then .lt else .gt)
  | finite _ _ _, infinite t => some (if t then .gt else .lt)
  | finite s m₁ e₁, finite t m₂ e₂ =>
    let (a, b) := aligned m₁ e₁ m₂ e₂
    some (compare (signed s a) (signed t b))

def less (a b : Double) : Bool := compare? a b == some .lt

/-- Numeric equality: zeros of either sign are equal, and nothing equals what is not a number. -/
def same (a b : Double) : Bool := compare? a b == some .eq

/-- Whether the value is a zero of either sign. -/
def isZero : Double → Bool
  | finite _ 0 _ => true
  | _ => false

def isFinite : Double → Bool
  | finite _ _ _ => true
  | _ => false

example : ofDecimal false 1 (-1) = finite false 7205759403792794 (-56) := by decide +kernel
example : ofDecimal false 9007199254740993 0 = finite false 4503599627370496 1 := by decide +kernel
example : ofDecimal false 17976931348623159 292 = infinite false := by decide +kernel
example : (ofDecimal false 1 (-1)).plus (ofDecimal false 2 (-1)) =
    ofDecimal false 30000000000000004 (-17) := by decide +kernel
example : (ofDecimal true 11 (-1)).times (ofDecimal false 3 0) =
    ofDecimal true 33000000000000003 (-16) := by decide +kernel
example : ofDecimal false 5 (-324) = finite false 1 (-1074) := by decide +kernel

end Double

end Toolwrap

/-!
The shortest decimal of a double: the fewest digits that read back to the same value, and of those
the nearest. Selection is exact arithmetic on `mantissa * 2 ^ exponent`; how the digits are laid
out is left to `Toolwrap.Decimal.Layout`.
-/
namespace Toolwrap.Decimal

/-- The number `digits * 10 ^ exp`. -/
structure Numeral where
  digits : Nat
  exp : Int
deriving DecidableEq, Repr

/-- Compares `a * 10 ^ i` with `n * 2 ^ j`. -/
def compareScaled (a : Nat) (i : Int) (n : Nat) (j : Int) : Ordering :=
  compare (a * Nat.pow 10 i.toNat * Nat.pow 2 (-j).toNat) (n * Nat.pow 2 j.toNat * Nat.pow 10 (-i).toNat)

/-- Whether a decimal lies among the numbers that round to the value: from half way to the
neighbour below to half way to the neighbour above, the ends counted when the mantissa is even. -/
def readsBack (mantissa : Nat) (exponent : Int) (d : Numeral) : Bool :=
  -- below a power of two the neighbour is half as far away
  let narrow := mantissa == Nat.pow 2 52 && -1074 < exponent
  let low := if narrow then 4 * mantissa - 1 else 4 * mantissa - 2
  let high := 4 * mantissa + 2
  let ends := mantissa % 2 == 0
  let atLow := compareScaled d.digits d.exp low (exponent - 2)
  let atHigh := compareScaled d.digits d.exp high (exponent - 2)
  (atLow == .gt || (ends && atLow == .eq)) && (atHigh == .lt || (ends && atHigh == .eq))

/-- The least `k` with `mantissa * 2 ^ exponent < 10 ^ k`, for a mantissa above zero. -/
def scale (mantissa : Nat) (exponent : Int) : Int :=
  let bits : Int := (mantissa.log2 : Int) + exponent
  let guess := Int.fdiv (bits * 30103) 100000 - 1
  match [guess, guess + 1, guess + 2].find? fun k =>
      compareScaled 1 k mantissa exponent == .gt with
  | some k => k
  | none => guess + 3

/-- The value in units of `10 ^ grid`, rounded down. -/
def floorOnGrid (mantissa : Nat) (exponent grid : Int) : Nat :=
  mantissa * Nat.pow 2 exponent.toNat * Nat.pow 10 (-grid).toNat /
    (Nat.pow 2 (-exponent).toNat * Nat.pow 10 grid.toNat)

/-- The neighbour of the value on a grid that reads back, the nearer one if both do; a tie goes to
the even neighbour. -/
def onGrid (mantissa : Nat) (exponent grid : Int) : Option Numeral :=
  let low := floorOnGrid mantissa exponent grid
  let down : Numeral := ⟨low, grid⟩
  let up : Numeral := ⟨low + 1, grid⟩
  match readsBack mantissa exponent down, readsBack mantissa exponent up with
  | true, false => some down
  | false, true => some up
  | false, false => none
  | true, true =>
    match compareScaled (2 * low + 1) grid (2 * mantissa) exponent with
    | .gt => some down
    | .lt => some up
    | .eq => some (if low % 2 == 0 then down else up)

/-- Moves the trailing zeros of the digits into the exponent. -/
def stripZeros : Nat → Numeral → Numeral
  | 0, d => d
  | fuel + 1, d =>
    if d.digits != 0 && d.digits % 10 == 0 then stripZeros fuel ⟨d.digits / 10, d.exp + 1⟩ else d

/-- The shortest decimal that reads back to a value above zero. -/
def shortest (mantissa : Nat) (exponent : Int) : Numeral :=
  let top := scale mantissa exponent
  let found := (List.range 17).findSome? fun n => onGrid mantissa exponent (top - (n + 1 : Nat))
  -- seventeen digits always suffice; the exact value stands in all the same
  let exact : Numeral :=
    if 0 ≤ exponent then ⟨mantissa * Nat.pow 2 exponent.toNat, 0⟩
    else ⟨mantissa * Nat.pow 5 (-exponent).toNat, exponent⟩
  let d := found.getD exact
  stripZeros (d.digits.log2 + 1) d

/-!
Fractions written with a number of places, or with an exponent. Rounding is exact, and a half goes to the
even neighbour. `Fraction.nearest` gives the nearest fraction with a number of binary digits.
-/

/-- A number that is not negative. -/
structure Fraction where
  num : Nat
  den : Nat
deriving DecidableEq, Repr

namespace Fraction

def isZero (x : Fraction) : Bool := x.num == 0

/-- The number `digits * 10 ^ exp`. -/
def ofDecimal (digits : Nat) (exp : Int) : Fraction := ⟨digits * Nat.pow 10 exp.toNat, Nat.pow 10 (-exp).toNat⟩

/-- The number `n * 2 ^ exp`. -/
def ofBinary (n : Nat) (exp : Int) : Fraction := ⟨n * Nat.pow 2 exp.toNat, Nat.pow 2 (-exp).toNat⟩

/-- The nearest number whose binary digits, without zeros around them, are at most `bits`. -/
def nearest (bits : Nat) (x : Fraction) : Fraction :=
  if x.isZero then x
  else
    let guess : Int := (x.num.log2 : Int) - (x.den.log2 : Int) - (bits - 1)
    let quotient := fun (e : Int) => (x.num * Nat.pow 2 (-e).toNat) / (x.den * Nat.pow 2 e.toNat)
    let e := if quotient guess < Nat.pow 2 (bits - 1) then guess - 1 else guess
    ofBinary (Double.roundDiv (x.num * Nat.pow 2 (-e).toNat) (x.den * Nat.pow 2 e.toNat)) e

/-- The number in units of `10 ^ -places`, rounded. -/
def scaled (x : Fraction) (places : Int) : Nat :=
  Double.roundDiv (x.num * Nat.pow 10 places.toNat) (x.den * Nat.pow 10 (-places).toNat)

/-- The exponent of the leading decimal digit of a number above zero. -/
def lead (x : Fraction) : Int :=
  let guess : Int := ((Nat.toDigits 10 x.num).length : Int) - (Nat.toDigits 10 x.den).length
  -- the guess is right or one too large
  let reaches := x.den * Nat.pow 10 guess.toNat ≤ x.num * Nat.pow 10 (-guess).toNat
  if reaches then guess else guess - 1

/-- Digits with a point in front of the last ones. -/
def pointed (digits : List Char) (places : Nat) (point : Bool) : List Char :=
  let digits := List.replicate (places + 1 - digits.length) '0' ++ digits
  let whole := digits.take (digits.length - places)
  if places == 0 then whole ++ (if point then ['.'] else [])
  else whole ++ '.' :: digits.drop (digits.length - places)

/-- With a number of places behind the point; `point` says whether there is a point without places. -/
def fixed (x : Fraction) (places : Nat) (point : Bool) : List Char :=
  pointed (Nat.toDigits 10 (x.scaled places)) places point

/-- The rounded digits with a number of places behind the first one, and the exponent of the first. -/
def scientificDigits (x : Fraction) (places : Nat) : List Char × Int :=
  if x.isZero then (List.replicate (places + 1) '0', 0)
  else
    let e := x.lead
    let digits := Nat.toDigits 10 (x.scaled (places - e))
    if places + 1 < digits.length then (digits.take (places + 1), e + 1) else (digits, e)

def exponentText (e : Int) : List Char :=
  let digits := Nat.toDigits 10 e.natAbs
  (if e < 0 then '-' else '+') :: (List.replicate (2 - digits.length) '0' ++ digits)

/-- With one digit in front of the point, and an exponent. -/
def scientific (x : Fraction) (places : Nat) (point : Bool) : List Char :=
  let (digits, e) := x.scientificDigits places
  pointed digits places point ++ 'e' :: exponentText e

/-- The digits without zeros at the end, and without a point at the end. -/
def withoutZeros (digits : List Char) : List Char :=
  if digits.contains '.' then
    (((digits.reverse.dropWhile (· == '0'))).dropWhile (· == '.')).reverse
  else digits

/-- With a number of digits, and with an exponent only if that is shorter. Zeros at the end are left out
unless they are asked for. -/
def general (x : Fraction) (digits : Nat) (zeros : Bool) : List Char :=
  let p := max 1 digits
  let (ds, e) := x.scientificDigits (p - 1)
  if -4 ≤ e && e < p then
    let text := x.fixed ((p : Int) - 1 - e).toNat zeros
    if zeros then text else withoutZeros text
  else
    let text := pointed ds (p - 1) zeros
    (if zeros then text else withoutZeros text) ++ 'e' :: exponentText e

example : (Fraction.ofDecimal 314159 (-5)).fixed 2 false = "3.14".toList := by decide +kernel

example : (Fraction.ofDecimal 125 (-3)).fixed 2 false = "0.12".toList := by decide +kernel

example : (Fraction.ofDecimal 99999 0).scientific 3 false = "1.000e+05".toList := by decide +kernel

example : (Fraction.ofDecimal 1000000 0).general 6 false = "1e+06".toList := by decide +kernel

example : (Fraction.ofDecimal 1 (-1)).general 6 false = "0.1".toList := by decide +kernel

end Fraction

/-!
How a double is written: positionally for exponents in a window, otherwise with an exponent mark.
-/

/-- The choices of a number format. -/
structure Layout where
  /-- the least exponent of the leading digit that is written positionally -/
  plainFrom : Int
  /-- the least exponent above the positional ones -/
  plainBelow : Int
  /-- the least number of digits of an exponent -/
  exponentWidth : Nat
  infinity : String
  notANumber : String

def padLeft (width : Nat) (s : String) : String :=
  String.ofList (List.replicate (width - s.length) '0') ++ s

def zeros (n : Nat) : String := String.ofList (List.replicate n '0')

/-- The decimal written out, with a point in every positional form. -/
def Layout.write (layout : Layout) (d : Numeral) : String :=
  let digits := toString d.digits
  let count : Int := digits.length
  -- exponent of the leading digit
  let lead := d.exp + count - 1
  if layout.plainFrom ≤ lead && lead < layout.plainBelow then
    if 0 ≤ d.exp then digits ++ zeros d.exp.toNat ++ ".0"
    else if 0 ≤ lead then
      let whole := (lead + 1).toNat
      String.ofList (digits.toList.take whole) ++ "." ++ String.ofList (digits.toList.drop whole)
    else "0." ++ zeros (-lead - 1).toNat ++ digits
  else
    let head := String.ofList (digits.toList.take 1)
    let tail := String.ofList (digits.toList.drop 1)
    let sign := if lead < 0 then "-" else "+"
    head ++ (if tail.isEmpty then "" else "." ++ tail) ++ "e" ++ sign ++
      padLeft layout.exponentWidth (toString lead.natAbs)

def Layout.render (layout : Layout) : Double → String
  | .nan => layout.notANumber
  | .infinite negative => (if negative then "-" else "") ++ layout.infinity
  | .finite negative 0 _ => (if negative then "-" else "") ++ "0.0"
  | .finite negative mantissa exponent =>
    (if negative then "-" else "") ++ layout.write (shortest mantissa exponent)

end Toolwrap.Decimal
