/-!
Texts as bytes. A character is written with one to four bytes, and a byte that belongs to no character
is kept as a loose byte, a code point in a private plane. Main functions: `bytes` and `ofBytes` lead
from texts to bytes and back, and `mended` puts loose bytes together that make up characters.
-/
namespace Toolwrap.Text

/-- Loose bytes stand at this code point plus the byte. -/
def looseBase : Nat := 0x10BE00

def loose (byte : Nat) : Char := Char.ofNat (looseBase + byte)

/-- The byte that a character stands for, if it is a loose one. Only bytes from 128 on are. -/
def looseByte? (c : Char) : Option Nat :=
  if looseBase + 0x80 ≤ c.toNat && c.toNat < looseBase + 0x100 then some (c.toNat - looseBase) else none

def isLoose (c : Char) : Bool := (looseByte? c).isSome

/-- The bytes of a code point. -/
def utf8 (n : Nat) : List Nat :=
  if n < 0x80 then [n]
  else if n < 0x800 then [0xC0 + n / 0x40, 0x80 + n % 0x40]
  else if n < 0x10000 then [0xE0 + n / 0x1000, 0x80 + n / 0x40 % 0x40, 0x80 + n % 0x40]
  else [0xF0 + n / 0x40000, 0x80 + n / 0x1000 % 0x40, 0x80 + n / 0x40 % 0x40, 0x80 + n % 0x40]

def bytesOf (c : Char) : List Nat :=
  match looseByte? c with
  | some b => [b]
  | none => utf8 c.toNat

def bytes (s : List Char) : List Nat := s.flatMap bytesOf

def isTail (b : Nat) : Bool := 0x80 ≤ b && b < 0xC0

/-- The code point that bytes write, if it needs that many and is a character. -/
def scalar? (least n : Nat) : Option Char :=
  if n < least || (0xD800 ≤ n && n < 0xE000) || 0x110000 ≤ n then none else some (Char.ofNat n)

/-- The character at the front and the number of its bytes; a byte that begins none is loose. -/
def firstOf (a : Nat) (rest : List Nat) : Char × Nat :=
  if a < 0x80 then (Char.ofNat a, 1)
  else
    let tails := (rest.take 3).takeWhile isTail
    let found :=
      match tails with
      | b :: c :: d :: _ =>
        if 0xF0 ≤ a && a < 0xF8 then
          (scalar? 0x10000 ((a - 0xF0) * 0x40000 + (b - 0x80) * 0x1000 + (c - 0x80) * 0x40 + (d - 0x80))).map (·, 4)
        else short a b (some c)
      | b :: c :: _ => short a b (some c)
      | [b] => short a b none
      | [] => none
    found.getD (loose a, 1)
where
  short (a b : Nat) (c? : Option Nat) : Option (Char × Nat) :=
    if 0xC0 ≤ a && a < 0xE0 then (scalar? 0x80 ((a - 0xC0) * 0x40 + (b - 0x80))).map (·, 2)
    else if 0xE0 ≤ a && a < 0xF0 then do
      let c ← c?
      (scalar? 0x800 ((a - 0xE0) * 0x1000 + (b - 0x80) * 0x40 + (c - 0x80))).map (·, 3)
    else none

/-- The text that bytes write. `skipped` counts the bytes that belong to the last character. -/
def ofBytesFrom (skipped : Nat) : List Nat → List Char
  | [] => []
  | b :: rest =>
    match skipped with
    | n + 1 => ofBytesFrom n rest
    | 0 =>
      let (c, n) := firstOf b rest
      c :: ofBytesFrom (n - 1) rest

def ofBytes (bs : List Nat) : List Char := ofBytesFrom 0 bs

/-- A text in which loose bytes that make up a character are that character. -/
def mended (s : List Char) : List Char := if s.any isLoose then ofBytes (bytes s) else s

example : ofBytes [0x61, 0xC3, 0xA9, 0xF0, 0x9F, 0x98, 0x80] = ['a', 'é', '😀'] := by decide

example : ofBytes [0xC3, 0x61, 0xFF] = [loose 0xC3, 'a', loose 0xFF] := by decide

example : mended [loose 0xC3, loose 0xA9] = ['é'] := by decide

/-!
Bytes written with 64 characters, four for every three bytes. Other characters say nothing; equals
signs fill up the last four.
-/

/-- The six bits that a character stands for. -/
def sixBits? (c : Char) : Option Nat :=
  if 'A' ≤ c && c ≤ 'Z' then some (c.toNat - 65)
  else if 'a' ≤ c && c ≤ 'z' then some (c.toNat - 71)
  else if '0' ≤ c && c ≤ '9' then some (c.toNat + 4)
  else if c == '+' then some 62
  else if c == '/' then some 63
  else none

/-- The place in four characters, the bits that do not make up a byte yet, and the equals signs that
were passed since the last character. -/
structure SixBits where
  place : Nat := 0
  left : Nat := 0
  fill : Nat := 0

/-- The bytes of a text. Equals signs that complete four characters end it; it may not end in the middle
of four. -/
def fromBase64 (s : SixBits) : List Char → Option (List Nat)
  | [] => if s.place == 0 then some [] else none
  | c :: rest =>
    if c == '=' then
      if 2 ≤ s.place then
        if 4 ≤ s.place + s.fill + 1 then some [] else fromBase64 { s with fill := s.fill + 1 } rest
      else fromBase64 s rest
    else
      match sixBits? c with
      | none => fromBase64 s rest
      | some v =>
        match s.place with
        | 0 => fromBase64 ⟨1, v, 0⟩ rest
        | 1 => do return (s.left * 4 + v / 16) :: (← fromBase64 ⟨2, v % 16, 0⟩ rest)
        | 2 => do return (s.left * 16 + v / 4) :: (← fromBase64 ⟨3, v % 4, 0⟩ rest)
        | _ => do return (s.left * 64 + v) :: (← fromBase64 {} rest)

/-- The character for six bits. -/
def sixBitsChar (n : Nat) : Char :=
  if n < 26 then Char.ofNat (n + 65)
  else if n < 52 then Char.ofNat (n + 71)
  else if n < 62 then Char.ofNat (n - 4)
  else if n == 62 then '+' else '/'

/-- The characters for bytes, three at a time. -/
def base64Chars : List Nat → List Char
  | a :: b :: c :: rest =>
    [a / 4, a % 4 * 16 + b / 16, b % 16 * 4 + c / 64, c % 64].map sixBitsChar ++ base64Chars rest
  | [a, b] => [a / 4, a % 4 * 16 + b / 16, b % 16 * 4].map sixBitsChar ++ ['=']
  | [a] => [a / 4, a % 4 * 16].map sixBitsChar ++ ['=', '=']
  | [] => []

def toBase64 (bs : List Nat) : String := String.ofList (base64Chars bs)

example : toBase64 [104, 101, 108, 108, 111] = "aGVsbG8=" := by decide

example : fromBase64 {} "aGVs\n bG8=".toList = some [104, 101, 108, 108, 111] := by decide

example : fromBase64 {} "aGVsb".toList = none := by decide

end Toolwrap.Text
