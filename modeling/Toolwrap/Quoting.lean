import Toolwrap.Text.Blank
/-!
Quoting for generated shell text. `Escaping.escape` makes a text stand for itself where the shell
still expands, `doubleQuoted` and `singleQuoted` make it one word, and `freeDelimiter` finds an end
mark for a here-document that no line of the document equals.
-/
namespace Toolwrap

/-- What has to be escaped besides the backslash and the dollar sign, which always are. -/
structure Escaping where
  /-- the text stands where a backtick starts a command -/
  backtick : Bool := true
  /-- the text stands between double quotes -/
  quote : Bool := false
  /-- the text is a format in which a line feed is written as two characters -/
  newline : Bool := false
deriving DecidableEq, Repr

namespace Escaping

/-- Between double quotes. -/
def inQuotes : Escaping where
  quote := true

def isSpecial (e : Escaping) (c : Char) : Bool :=
  c == '\\' || c == '$' || (e.backtick && c == '\x60') || (e.quote && c == '\x22')

def escapeChar (e : Escaping) (c : Char) : List Char :=
  if e.isSpecial c then ['\\', c]
  else if e.newline && c == '\n' then ['\\', 'n']
  else [c]

def escapeChars (e : Escaping) (s : List Char) : List Char := s.flatMap e.escapeChar

/-- Undoes `escapeChars`; a backslash before any other character stands for itself. -/
def unescapeChars (e : Escaping) : List Char → List Char
  | [] => []
  | [c] => [c]
  | c :: d :: rest =>
    if c == '\\' && e.isSpecial d then d :: unescapeChars e rest
    else if c == '\\' && e.newline && d == 'n' then '\n' :: unescapeChars e rest
    else c :: unescapeChars e (d :: rest)

def escape (e : Escaping) (s : String) : String := String.ofList (e.escapeChars s.toList)

def unescape (e : Escaping) (s : String) : String := String.ofList (e.unescapeChars s.toList)

end Escaping

/-- The body of a double-quoted word that stands for the text. -/
def quotedBody (s : String) : String := Escaping.inQuotes.escape s

/-- A double-quoted word that stands for the text. -/
def doubleQuoted (s : String) : String := "\"" ++ quotedBody s ++ "\""

/-- Characters that need no quotes in a word: ASCII letters and digits and some marks. -/
def isPlainInWord (c : Char) : Bool :=
  ('a' ≤ c && c ≤ 'z') || ('A' ≤ c && c ≤ 'Z') || ('0' ≤ c && c ≤ '9') ||
    c ∈ ['_', '@', '%', '+', '=', ':', ',', '.', '/', '-']

def singleQuotedChars (s : List Char) : List Char :=
  if s.isEmpty then ['\x27', '\x27']
  else if s.all isPlainInWord then s
  else
    '\x27' :: s.flatMap (fun c =>
      if c = '\x27' then ['\x27', '\x22', '\x27', '\x22', '\x27'] else [c]) ++ ['\x27']

/-- A word that stands for the text: the text itself when no character of it needs quotes,
otherwise single-quoted, with each single quote of the text between double quotes. -/
def singleQuoted (s : String) : String := String.ofList (singleQuotedChars s.toList)

/-- The first of `base`, `base_1`, `base_2`, … that is not a line of the text. Of one more candidate
than there are lines, one is free. -/
def freeDelimiter (text base : String) : String :=
  let taken := Text.lines text
  let candidates := base :: (List.range (taken.length + 1)).map fun n => s!"{base}_{n + 1}"
  (candidates.find? fun name => name ∉ taken).getD base

end Toolwrap
