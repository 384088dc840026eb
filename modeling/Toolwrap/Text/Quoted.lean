import Toolwrap.Text.Unicode
/-!
Surrogates: the code points that are no characters, two of which make up one character in UTF-16. A
text can hold one all the same, written as a number, and keeps it in a private plane. No file holds
such a text, and no file has such a name.
-/
namespace Toolwrap.Text

/-- Surrogates stand at this code point plus their number. -/
def surrogateBase : Nat := 0x100000

/-- The character that a text has for a code point. -/
def codePoint (n : Nat) : Char :=
  if 0xD800 ≤ n && n < 0xE000 then Char.ofNat (surrogateBase + n) else Char.ofNat n

/-- The surrogate that a character stands for, if it stands for one. -/
def surrogate? (c : Char) : Option Nat :=
  if surrogateBase + 0xD800 ≤ c.toNat && c.toNat < surrogateBase + 0xE000 then
    some (c.toNat - surrogateBase)
  else none

def hasSurrogate (s : String) : Bool := s.toList.any fun c => (surrogate? c).isSome

example : surrogate? (codePoint 0xD83D) = some 0xD83D := by decide

example : codePoint 0x1F600 = '😀' := by decide

/-!
The quoted form of a text in a message: between single quotes, or between double quotes when it
holds a single quote and no double quote. The quote that encloses, the backslash, and characters
that cannot be printed are escaped.
-/

def hexDigit (n : Nat) : Char :=
  if n < 10 then Char.ofNat (48 + n) else Char.ofNat (87 + n)

/-- What a hexadecimal digit of either case stands for. -/
def hexValue? (c : Char) : Option Nat :=
  if '0' ≤ c && c ≤ '9' then some (c.toNat - 48)
  else if 'a' ≤ c && c ≤ 'f' then some (c.toNat - 87)
  else if 'A' ≤ c && c ≤ 'F' then some (c.toNat - 55)
  else none

/-- The lower-case hexadecimal digits of a code point, in a field of the given width. -/
def hexField : Nat → Nat → List Char
  | 0, _ => []
  | width + 1, n => hexField width (n / 16) ++ [hexDigit (n % 16)]

def escapeForm (quote c : Char) : List Char :=
  if c = quote ∨ c = '\\' then ['\\', c]
  else if c = '\n' then ['\\', 'n']
  else if c = '\r' then ['\\', 'r']
  else if c = '\t' then ['\\', 't']
  else if isPrintable c then [c]
  else if let some n := surrogate? c then '\\' :: 'u' :: hexField 4 n
  else if c.toNat < 0x100 then '\\' :: 'x' :: hexField 2 c.toNat
  else if c.toNat < 0x10000 then '\\' :: 'u' :: hexField 4 c.toNat
  else '\\' :: 'U' :: hexField 8 c.toNat

def enclosingQuote (s : List Char) : Char :=
  if '\x27' ∈ s ∧ '\x22' ∉ s then '\x22' else '\x27'

/-- A byte in a quoted form: letters, digits and signs as they are. -/
def byteForm (quote : Char) (b : Nat) : List Char :=
  if b < 0x7F then escapeForm quote (Char.ofNat b) else '\\' :: 'x' :: hexField 2 b

def Chars.quoted (s : List Char) : List Char :=
  let quote := enclosingQuote s
  quote :: s.flatMap (escapeForm quote) ++ [quote]

def quoted (s : String) : String := String.ofList (Chars.quoted s.toList)

/-- The quoted form of a row of bytes, with a mark in front of the quote. -/
def quotedBytes (bs : List Nat) : String :=
  let quote := enclosingQuote (bs.map Char.ofNat)
  String.ofList ('b' :: quote :: bs.flatMap (byteForm quote) ++ [quote])

example : quotedBytes [0x61, 0x27, 0x0A, 0x7F, 0xE9] = "b\"a'\\n\\x7f\\xe9\"" := by decide +kernel

end Toolwrap.Text
