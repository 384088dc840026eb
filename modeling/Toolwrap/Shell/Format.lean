import Toolwrap.Decimal
import Toolwrap.Shell.Calendar
import Toolwrap.Shell.Escape
/-!
Formats of printed text: a format holds text and directives, each directive takes an argument, and the
format is used again while there are arguments left. Widths count bytes.
-/
namespace Toolwrap.Shell.Format

/-- A number in a directive: written there, or taken from the arguments. -/
inductive Size where
  | fixed (n : Nat)
  | argument
deriving Repr

structure Directive where
  left : Bool
  zero : Bool
  plus : Bool
  space : Bool
  alternative : Bool
  width : Size
  precision : Option Size
  conversion : Char
  /-- the format of a moment -/
  moment : List Char := []
deriving Repr

inductive Piece where
  | text (s : List Char)
  | directive (d : Directive)
  /-- a directive that makes no sense, and why -/
  | senseless (message : String)
deriving Repr

def number (digits : List Char) : Nat := digits.foldl (fun n c => 10 * n + (c.toNat - 48)) 0

def size (s : List Char) : Size × List Char :=
  match s with
  | '*' :: rest => (.argument, rest)
  | _ =>
    let digits := s.takeWhile Char.isDigit
    (.fixed (number digits), s.drop digits.length)

/-- The letters of conversions. -/
def conversions : List Char :=
  ['d', 'i', 'o', 'u', 'x', 'X', 'e', 'E', 'f', 'F', 'g', 'G', 's', 'c', 'b', 'q', 'Q', 'n']

/-- A directive from behind its mark, and what follows. -/
def directive (s : List Char) : Piece × List Char :=
  let flags := s.takeWhile (· ∈ ['-', '+', ' ', '0', '#', '\x27'])
  let (width, rest) := size (s.drop flags.length)
  let (precision, rest) :=
    match rest with
    | '.' :: rest =>
      let (n, rest) := size rest
      (some n, rest)
    | _ => (none, rest)
  let rest := rest.dropWhile (· ∈ ['h', 'j', 'l', 'L', 't', 'z'])
  let (moment, rest) :=
    match rest with
    | '(' :: inside =>
      let format := inside.takeWhile (· != ')')
      match inside.drop format.length with
      | ')' :: 'T' :: after => (some format, 'T' :: after)
      | _ => (none, rest)
    | _ => (none, rest)
  match rest with
  | c :: after =>
    if conversions.contains c || moment.isSome then
      (.directive
        { left := flags.contains '-', zero := flags.contains '0', plus := flags.contains '+',
          space := flags.contains ' ', alternative := flags.contains '#', width, precision, conversion := c
          moment := moment.getD [] },
       after)
    else (.senseless ("\x60" ++ String.singleton c ++ "': invalid format character"), [])
  | [] => (.senseless ("\x60" ++ String.ofList ('%' :: s) ++ "': missing format character"), [])

/-- The pieces of a format. The fuel is its length. -/
def pieces : Nat → List Char → List Piece
  | 0, _ => []
  | _, [] => []
  | fuel + 1, '%' :: '%' :: rest => .text ['%'] :: pieces fuel rest
  | fuel + 1, '%' :: rest =>
    let (piece, rest) := directive rest
    piece :: pieces fuel rest
  | fuel + 1, '\\' :: rest =>
    match Escape.inFormat.one rest with
    | some (cs, rest) => .text cs :: pieces fuel rest
    | none => []
  | fuel + 1, c :: rest => .text [c] :: pieces fuel rest

/-- A directive whose sizes are known. -/
structure Shape where
  directive : Directive
  left : Bool
  width : Nat
  precision : Option Nat

def bytesIn (s : List Char) : Nat := (Text.bytes s).length

def pad (d : Shape) (s : List Char) : List Char :=
  let blanks := List.replicate (d.width - bytesIn s) ' '
  if d.left then s ++ blanks else blanks ++ s

/-- The first bytes of a text, as many as the precision says. -/
def cut (d : Shape) (s : List Char) : List Char :=
  match d.precision with
  | some n => Text.ofBytes ((Text.bytes s).take n)
  | none => s

/-- A number with its sign in front, filled up with zeros if that is asked for. -/
def padZeros (d : Shape) (sign digits : List Char) : List Char :=
  if d.directive.zero && !d.left then
    sign ++ List.replicate (d.width - sign.length - digits.length) '0' ++ digits
  else pad d (sign ++ digits)

/-- The digits of an integer. A precision is their least number, and takes the place of filling zeros. -/
def padInteger (d : Shape) (sign digits : List Char) : List Char :=
  match d.precision with
  | none => padZeros d sign digits
  | some n =>
    let digits := if n == 0 && digits == ['0'] then [] else digits
    pad d (sign ++ (List.replicate (n - digits.length) '0' ++ digits))

def signOf (d : Shape) (negative : Bool) : List Char :=
  if negative then ['-'] else if d.directive.plus then ['+'] else if d.directive.space then [' '] else []

def isSpace (c : Char) : Bool := c == ' ' || (9 ≤ c.toNat && c.toNat ≤ 13)

/-- The integer at the front of a text, and what follows it. -/
def integerAt (s : List Char) : Int × List Char :=
  let body := s.dropWhile isSpace
  let (negative, body) :=
    match body with
    | '-' :: r => (true, r)
    | '+' :: r => (false, r)
    | r => (false, r)
  let (base, body) :=
    match body with
    | '0' :: x :: h :: r =>
      if (x == 'x' || x == 'X') && isHex h then (16, h :: r) else (8, '0' :: x :: h :: r)
    | '0' :: r => (8, '0' :: r)
    | r => (10, r)
  let digits := body.takeWhile fun c => (digitOf? c).any (· < base)
  if digits.isEmpty then (0, s)
  else
    let n : Int := numberIn base digits
    (if negative then -n else n, body.drop digits.length)

/-- A number with a fraction at the front of a text. -/
inductive Real where
  | finite (negative : Bool) (value : Decimal.Fraction)
  | infinite (negative : Bool)
  | nan
deriving Repr

/-- Decimal exponents beyond this one settle a value. -/
def maxExponent : Int := 4950

/-- The bits that a number with a fraction keeps. -/
def realBits : Nat := 64

/-- Whether a text begins with a word, in either case. -/
def beginsWith (word : String) (s : List Char) : Bool :=
  (s.take word.length).map Char.toLower == word.toList

/-- The exponent behind a mark, if there are digits of one, and what follows. -/
def exponentAt (mark : Char) (s : List Char) : Int × List Char :=
  match s with
  | c :: r =>
    if c.toLower != mark then (0, s)
    else
      let (negative, ds) :=
        match r with
        | '-' :: ds => (true, ds)
        | '+' :: ds => (false, ds)
        | ds => (false, ds)
      let digits := ds.takeWhile Char.isDigit
      if digits.isEmpty then (0, s)
      else
        let n : Int := number digits
        (if negative then -n else n, ds.drop digits.length)
  | [] => (0, [])

def realAt (s : List Char) : Real × List Char :=
  let body := s.dropWhile isSpace
  let (negative, body) :=
    match body with
    | '-' :: r => (true, r)
    | '+' :: r => (false, r)
    | r => (false, r)
  if beginsWith "infinity" body then (.infinite negative, body.drop 8)
  else if beginsWith "inf" body then (.infinite negative, body.drop 3)
  else if beginsWith "nan" body then (.nan, body.drop 3)
  else
    let (base, isDigit, body) :=
      match body with
      | '0' :: x :: h :: r =>
        if (x == 'x' || x == 'X') && isHex h then (16, isHex, h :: r) else (10, Char.isDigit, '0' :: x :: h :: r)
      | r => (10, Char.isDigit, r)
    let whole := body.takeWhile isDigit
    let (fraction, rest) :=
      match body.drop whole.length with
      | '.' :: r =>
        let ds := r.takeWhile isDigit
        if whole.isEmpty && ds.isEmpty then ([], '.' :: r) else (ds, r.drop ds.length)
      | r => ([], r)
    if whole.isEmpty && fraction.isEmpty then (.finite false ⟨0, 1⟩, s)
    else if base == 16 then
      let (e, rest) := exponentAt 'p' rest
      let value := Decimal.Fraction.ofBinary (numberIn 16 (whole ++ fraction))
        (max (-20000) (min 20000 e) - 4 * fraction.length)
      (.finite negative (value.nearest realBits), rest)
    else
      let (e, rest) := exponentAt 'e' rest
      let n := number (whole ++ fraction)
      let e := e - fraction.length
      if n == 0 then (.finite negative ⟨0, 1⟩, rest)
      else if maxExponent < e + whole.length + fraction.length then (.infinite negative, rest)
      else if e + whole.length + fraction.length < -maxExponent - 40 then (.finite negative ⟨0, 1⟩, rest)
      else (.finite negative ((Decimal.Fraction.ofDecimal n e).nearest realBits), rest)

/-- The code of the character behind a quote, if a text is that. -/
def quotedCode? (s : List Char) : Option Nat :=
  match s with
  | q :: rest =>
    if q == '\x27' || q == '\x22' then some ((rest.head?.map Char.toNat).getD 0) else none
  | [] => none

/-- Where printing stands: the arguments that are left, what was printed, and what is wrong. -/
structure State where
  plain : Bool
  args : List String
  out : String := ""
  complaints : List String := []
  failed : Bool := false
  ended : Bool := false

abbrev Printing := StateM State

def complain (message : String) : Printing Unit :=
  modify fun s => { s with complaints := s.complaints ++ [message] }

/-- The next argument, if there is one. -/
def take? : Printing (Option String) := do
  let s ← get
  set { s with args := s.args.drop 1 }
  return s.args.head?

/-- Complains about a number that could not be read to its end. -/
def refuse (arg : String) (rest : List Char) : Printing Unit := do
  modify fun s => { s with failed := true }
  if (← get).plain then
    complain (arg ++ if rest.length == arg.length then ": expected numeric value" else ": not completely converted")
  else
    match arg.toList with
    | '0' :: 'x' :: _ => complain (arg ++ ": invalid hex number")
    | '0' :: d :: _ => complain (arg ++ if d.isDigit then ": invalid octal number" else ": invalid number")
    | _ => complain (arg ++ ": invalid number")

/-- The integer of the next argument between two bounds. -/
def takeInteger (least most : Int) : Printing Int := do
  match ← take? with
  | none => return 0
  | some arg =>
    match quotedCode? arg.toList with
    | some n => return n
    | none =>
      let (n, rest) := integerAt arg.toList
      if !rest.isEmpty then refuse arg rest
      else if n < least || most < n then
        complain ("warning: " ++ arg ++ ": Numerical result out of range")
      return max least (min most n)

def takeReal : Printing Real := do
  match ← take? with
  | none => return .finite false ⟨0, 1⟩
  | some arg =>
    match quotedCode? arg.toList with
    | some n => return .finite false ⟨n, 1⟩
    | none =>
      let (x, rest) := realAt arg.toList
      if !rest.isEmpty then refuse arg rest
      return x

def minWord : Int := -(Nat.pow 2 63 : Nat)

def maxWord : Int := (Nat.pow 2 63 : Nat) - 1

/-- The sizes of a directive; a width below zero puts the text to the left. -/
def shaped (d : Directive) : Printing Shape := do
  let w ← match d.width with
    | .fixed n => pure (n : Int)
    | .argument => takeInteger minWord maxWord
  let p ← match d.precision with
    | none => pure none
    | some (.fixed n) => pure (some (n : Int))
    | some .argument => some <$> takeInteger minWord maxWord
  return { directive := d, left := d.left || w < 0, width := w.natAbs, precision := (p.filter (0 ≤ ·)).map Int.toNat }

/-- A number with a fraction. -/
def realText (d : Shape) (x : Real) : List Char :=
  let c := d.directive.conversion
  let recase := fun (s : List Char) => if c.isUpper then s.map Char.toUpper else s
  match x with
  | .nan => pad d (recase (signOf d false ++ "nan".toList))
  | .infinite negative => pad d (recase (signOf d negative ++ "inf".toList))
  | .finite negative value =>
    let precision := d.precision.getD 6
    let alternative := d.directive.alternative
    let digits :=
      match c.toLower with
      | 'f' => value.fixed precision alternative
      | 'e' => value.scientific precision alternative
      | _ => value.general precision alternative
    padZeros d (signOf d negative) (recase digits)

/-- Prints a text; bytes that make up characters become characters. -/
def put (s : List Char) : Printing Unit :=
  modify fun t => { t with out := t.out ++ String.ofList s }

/-- The digits of a number without a sign, with a mark of the base if that is asked for. -/
def unsignedText (d : Shape) (n : Int) : List Char :=
  let n := (n.emod (Nat.pow 2 64 : Nat)).toNat
  let alternative := d.directive.alternative
  match d.directive.conversion with
  | 'o' =>
    let digits := Nat.toDigits 8 n
    padInteger d [] (if alternative && n != 0 then '0' :: digits else digits)
  | 'x' => padInteger d (if alternative && n != 0 then ['0', 'x'] else []) (Nat.toDigits 16 n)
  | 'X' =>
    padInteger d (if alternative && n != 0 then ['0', 'X'] else []) ((Nat.toDigits 16 n).map Char.toUpper)
  | _ => padInteger d [] (Nat.toDigits 10 n)

def print (d : Directive) : Printing Unit := do
  let shape ← shaped d
  match d.conversion with
  | 's' => put (pad shape (cut shape ((← take?).getD "").toList))
  | 'c' =>
    let first := (Text.bytes ((← take?).getD "").toList).head?
    put (pad shape [Escape.ofByte (first.getD 0)])
  | 'b' =>
    let arg := ((← take?).getD "").toList
    let (text, ended) := Escape.inArgument.read (arg.length + 1) arg
    put (pad shape (cut shape (Text.mended text)))
    if ended then modify fun s => { s with ended := true }
  | 'q' => put (pad shape (cut shape (Requoted.backslashed ((← take?).getD "")).toList))
  | 'Q' => put (pad shape (Requoted.backslashed (String.ofList (cut shape ((← take?).getD "").toList))).toList)
  | 'n' => discard take?
  | 'T' =>
    let seconds ← if (← get).args.isEmpty then pure (-1) else takeInteger minWord maxWord
    let format := if d.moment.isEmpty then ['%', 'X'] else d.moment
    let moment := Calendar.Moment.ofSeconds (if seconds < 0 then Calendar.now else seconds.toNat)
    put (pad shape (cut shape (moment.text false format).toList))
  | 'd' =>
    let n ← takeInteger minWord maxWord
    put (padInteger shape (signOf shape (n < 0)) (Nat.toDigits 10 n.natAbs))
  | 'i' =>
    let n ← takeInteger minWord maxWord
    put (padInteger shape (signOf shape (n < 0)) (Nat.toDigits 10 n.natAbs))
  | c =>
    if c ∈ ['o', 'u', 'x', 'X'] then put (unsignedText shape (← takeInteger minWord (Nat.pow 2 64 - 1 : Nat)))
    else put (realText shape (← takeReal))

/-- One use of the format, up to what ends all output. -/
def once : List Piece → Printing Unit
  | [] => pure ()
  | piece :: rest => do
    match piece with
    | .text s => put s
    | .directive d => print d
    | .senseless message =>
      complain message
      modify fun s => { s with failed := true, ended := true }
    if !(← get).ended then once rest

/-- Uses the format while that takes arguments. The fuel is their number. -/
def uses (ps : List Piece) : Nat → Printing Unit
  | 0 => once ps
  | fuel + 1 => do
    let before := (← get).args.length
    once ps
    let s ← get
    if !s.ended && !s.args.isEmpty && s.args.length < before then uses ps fuel

/-- What is printed. -/
structure Printed where
  text : String
  complaints : List String
  failed : Bool

def printed (plain : Bool) (format : String) (args : List String) : Printed :=
  let ((), s) := (uses (pieces (format.length + 1) format.toList) args.length).run { plain, args }
  ⟨String.ofList (Text.mended s.out.toList), s.complaints, s.failed⟩

end Toolwrap.Shell.Format
