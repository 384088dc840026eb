import Toolwrap.Text.Bytes
import Toolwrap.Text.Unicode
/-!
Escapes: a backslash and what follows it stand for a character or a byte. Where a text with escapes
stands decides which of them there are: in a format, in an argument of a format, in the words of
`echo`, or between quotes with a dollar sign in front.
-/
namespace Toolwrap.Shell

/-- The value of a digit, in bases up to 36. -/
def digitOf? (c : Char) : Option Nat :=
  if '0' ≤ c && c ≤ '9' then some (c.toNat - 48)
  else if 'a' ≤ c && c ≤ 'z' then some (c.toNat - 87)
  else if 'A' ≤ c && c ≤ 'Z' then some (c.toNat - 55)
  else none

def isOctal (c : Char) : Bool := '0' ≤ c && c ≤ '7'

def isHex (c : Char) : Bool := (digitOf? c).any (· < 16)

/-- The number that digits write. -/
def numberIn (base : Nat) (digits : List Char) : Nat :=
  digits.foldl (fun n c => base * n + (digitOf? c).getD 0) 0

/-- Which escapes there are. -/
structure Escape where
  /-- an octal number needs a zero in front -/
  zeroFirst : Bool := false
  /-- a zero does not count as one of three octal digits -/
  zeroExtra : Bool := false
  /-- `\c` ends all output -/
  ends : Bool := false
  /-- `\c` and a letter are a control character -/
  controls : Bool := false
  /-- quotes and the question mark can be escaped -/
  quotes : Bool := false
  /-- the digits behind `\x` may stand between braces -/
  braces : Bool := false
deriving DecidableEq, Repr

namespace Escape

/-- In the format of a printed text. -/
def inFormat : Escape where
  quotes := true

/-- In an argument that is printed with its escapes. -/
def inArgument : Escape where
  zeroExtra := true
  ends := true

/-- In the words of `echo`. -/
def inEcho : Escape where
  zeroFirst := true
  zeroExtra := true
  ends := true

/-- Between quotes behind a dollar sign. -/
def inQuotes : Escape where
  controls := true
  quotes := true
  braces := true

/-- The character that a byte is, or the byte itself. -/
def ofByte (n : Nat) : Char := if n % 256 < 128 then Char.ofNat (n % 256) else Text.loose (n % 256)

/-- The letters that stand for control characters. -/
def letter? : Char → Option Char
  | 'a' => some '\x07'
  | 'b' => some '\x08'
  | 'e' => some '\x1b'
  | 'E' => some '\x1b'
  | 'f' => some '\x0c'
  | 'n' => some '\n'
  | 'r' => some '\r'
  | 't' => some '\t'
  | 'v' => some '\x0b'
  | '\\' => some '\\'
  | _ => none

/-- A number of digits behind a letter; without digits the letter stands for itself. -/
def digits (letter : Char) (most : Nat) (make : Nat → Char) (s : List Char) : List Char × List Char :=
  let ds := (s.take most).takeWhile isHex
  if ds.isEmpty then (['\\', letter], s) else ([make (numberIn 16 ds)], s.drop ds.length)

/-- What an escape stands for, from behind its backslash, and what follows it; none if it ends the
output. -/
def one (e : Escape) : List Char → Option (List Char × List Char)
  | [] => some (['\\'], [])
  | c :: rest =>
    match letter? c with
    | some d => some ([d], rest)
    | none =>
      if c == 'x' then
        match e.braces, rest with
        | true, '\x7b' :: after =>
          let ds := after.takeWhile isHex
          match after.drop ds.length with
          | '\x7d' :: after => some (if ds.isEmpty then [] else [ofByte (numberIn 16 ds)], after)
          | after => some (if ds.isEmpty then [] else [ofByte (numberIn 16 ds)], after)
        | _, _ => some (digits 'x' 2 ofByte rest)
      else if c == 'u' then some (digits 'u' 4 Char.ofNat rest)
      else if c == 'U' then some (digits 'U' 8 Char.ofNat rest)
      else if c == 'c' && e.ends then none
      else if c == 'c' && e.controls then
        match rest with
        | '\\' :: '\\' :: after => some ([Char.ofNat 0x1c], after)
        | d :: after =>
          some ([if d == '?' then Char.ofNat 127 else Char.ofNat (d.toUpper.toNat % 32)], after)
        | [] => some (['\\', 'c'], [])
      else if isOctal c && (!e.zeroFirst || c == '0') then
        let most := if e.zeroExtra && c == '0' then 4 else 3
        let ds := ((c :: rest).take most).takeWhile isOctal
        some ([ofByte (numberIn 8 ds)], (c :: rest).drop ds.length)
      else if e.quotes && c ∈ ['\x27', '\x22', '?'] then some ([c], rest)
      else some (['\\', c], rest)

/-- A text with its escapes read, and whether one of them ends all output. The fuel is its length. -/
def read (e : Escape) : Nat → List Char → List Char × Bool
  | 0, _ => ([], false)
  | _, [] => ([], false)
  | fuel + 1, '\\' :: rest =>
    match e.one rest with
    | none => ([], true)
    | some (cs, rest) =>
      let (more, ended) := e.read fuel rest
      (cs ++ more, ended)
  | fuel + 1, c :: rest =>
    let (more, ended) := e.read fuel rest
    (c :: more, ended)

/-- A text with its escapes read, as characters where its bytes make them up. -/
def text (e : Escape) (s : String) : String × Bool :=
  let (cs, ended) := e.read (s.length + 1) s.toList
  (String.ofList (Text.mended cs), ended)

/-- A text between quotes; a character zero ends it. -/
def ansi (s : List Char) : List Char :=
  Text.mended ((inQuotes.read (s.length + 1) s).1.takeWhile fun c => c != '\x00')

end Escape

end Toolwrap.Shell

/-!
Texts written so that the shell reads them back: with backslashes, between single or double quotes, or
between quotes with escapes. A text with a character that cannot be shown needs escapes.
-/
namespace Toolwrap.Shell.Requoted

def isShown (c : Char) : Bool := c == ' ' || (Text.isPrintable c && !Text.isLoose c) || c.toNat == 0xA0

def needsEscapes (s : String) : Bool := !s.toList.all isShown

def octalText (byte : Nat) : List Char :=
  '\\' :: [byte / 64, byte / 8 % 8, byte % 8].map fun d => Char.ofNat (48 + d)

/-- A character between quotes with escapes. -/
def escapedChar (c : Char) : List Char :=
  match c with
  | '\x1b' => ['\\', 'E']
  | '\x07' => ['\\', 'a']
  | '\x08' => ['\\', 'b']
  | '\x0b' => ['\\', 'v']
  | '\n' => ['\\', 'n']
  | '\r' => ['\\', 'r']
  | '\x0c' => ['\\', 'f']
  | '\t' => ['\\', 't']
  | '\\' => ['\\', '\\']
  | '\x27' => ['\\', '\x27']
  | c => if isShown c then [c] else (Text.bytesOf c).flatMap octalText

def withEscapes (s : String) : String := "$'" ++ String.ofList (s.toList.flatMap escapedChar) ++ "'"

def single (s : String) : String :=
  if s == "'" then "\\'"
  else
    "'" ++ String.ofList (s.toList.flatMap fun c =>
      if c == '\x27' then ['\x27', '\\', '\x27', '\x27'] else [c]) ++ "'"

/-- The runs of single quotes in a text between double quotes, and all else between single ones. The fuel
bounds the number of runs. -/
def alternatingFrom : Nat → List Char → List Char
  | 0, _ => []
  | fuel + 1, s =>
    let text := s.takeWhile (· != '\x27')
    let rest := s.drop text.length
    let quotes := rest.takeWhile (· == '\x27')
    let after := rest.drop quotes.length
    '\x27' :: text ++ '\x27' :: (if quotes.isEmpty then [] else '\x22' :: quotes ++ ['\x22']) ++
      if after.isEmpty then [] else alternatingFrom fuel after

/-- As the plain shell writes it. -/
def alternating (s : String) : String := String.ofList (alternatingFrom (s.length + 1) s.toList)

def double (s : String) : String :=
  "\"" ++ String.ofList (s.toList.flatMap fun c =>
    if c ∈ ['\x22', '$', '\x60', '\\'] then ['\\', c] else [c]) ++ "\""

/-- Characters that need a backslash wherever they stand. -/
def special : List Char :=
  [' ', '\t', '\n', '!', '\x22', '$', '&', '\x27', '(', ')', '*', ',', ';', '<', '>', '?', '[', '\\', ']',
   '^', '\x60', '\x7b', '|', '\x7d']

/-- Backslashes where they are needed; `before` is the character before. -/
def backslashedFrom (before : Option Char) : List Char → List Char
  | [] => []
  | c :: rest =>
    let needed := special.contains c || (c == '#' && before.isNone) ||
      (c == '~' && (before.isNone || before == some ':' || before == some '='))
    (if needed then ['\\', c] else [c]) ++ backslashedFrom (some c) rest

/-- A word as it would have to be written. -/
def backslashed (s : String) : String :=
  if s.isEmpty then "''"
  else if needsEscapes s then withEscapes s
  else String.ofList (backslashedFrom none s.toList)

/-- Always with quotes. -/
def quoted (s : String) : String :=
  if s.isEmpty then "''" else if needsEscapes s then withEscapes s else single s

/-- As the value in a declaration. -/
def declared (s : String) : String := if needsEscapes s then withEscapes s else double s

/-- Whether a text means something else without quotes. -/
def hasMetas (s : String) : Bool :=
  go none s.toList
where
  go (before : Option Char) : List Char → Bool
    | [] => false
    | c :: rest =>
      c ∈ [' ', '\t', '\n', '\x27', '\x22', '\\', '|', '&', ';', '(', ')', '<', '>', '!', '\x7b', '\x7d', '*',
           '[', '?', ']', '^', '$', '\x60'] ||
        (c == '~' && (before.isNone || before == some '=' || before == some ':')) ||
        (c == '#' && before.isNone) || go (some c) rest

/-- With quotes only where they are needed. -/
def plain (s : String) : String :=
  if needsEscapes s then withEscapes s else if hasMetas s then single s else s

/-- A word of a command that is shown. -/
def shown (s : String) : String := if s.isEmpty then "''" else plain s

/-- The key of an item of an array. -/
def key (s : String) : String :=
  if needsEscapes s then withEscapes s
  else if hasMetas s || s == "@" || s == "*" then double s
  else s

end Toolwrap.Shell.Requoted
