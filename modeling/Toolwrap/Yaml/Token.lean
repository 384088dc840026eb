/-!
Tokens of a YAML 1.1 document and the state in which they are found. Collections in block style are
opened and closed by indentation, so their tokens do not stand in the text: a mapping is opened
before its first key once the colon behind that key is seen.
-/
namespace Toolwrap.Yaml

/-- What is wrong with a text: it breaks a rule of the language, or it asks for what there is not, such
as the 30th of February, a character above the last one, or collections inside each other without
end. -/
inductive Defect where
  | malformed
  | impossible
deriving DecidableEq, Repr

/-- What is read from a text, or what is wrong with it. -/
abbrev Reads := Except Defect

def malformed {α : Type} : Reads α := .error .malformed

/-- A line before a document, about how to read it. -/
inductive Directive where
  | version (major : Nat)
  /-- what a handle stands for in tags -/
  | handle (name meaning : String)
  | other
deriving DecidableEq, Repr

/-- A tag as it is written: a handle, unless the tag is complete without one, and what follows. -/
structure WrittenTag where
  handle : Option String
  rest : String
deriving DecidableEq, Repr

inductive Token where
  | directive (d : Directive)
  | documentStart | documentEnd
  | blockSequence | blockMapping | blockEnd
  | flowSequence | flowSequenceEnd | flowMapping | flowMappingEnd
  | blockEntry | flowEntry | key | value
  | alias (name : String)
  | anchor (name : String)
  | tag (t : WrittenTag)
  /-- a plain scalar is one without quotes, whose text decides its type -/
  | scalar (text : String) (plain : Bool)
deriving DecidableEq, Repr

/-- A place in the text, counting lines and columns from zero. -/
structure Cursor where
  rest : List Char
  index : Nat := 0
  line : Nat := 0
  column : Nat := 0
deriving Repr

def isBreak (c : Char) : Bool :=
  c == '\n' || c == '\r' || c.toNat == 0x85 || c.toNat == 0x2028 || c.toNat == 0x2029

/-- The end of the text, a line break or a blank. -/
def endsWord : Option Char → Bool
  | none => true
  | some c => c == ' ' || c == '\t' || isBreak c

/-- The end of the text or a line break. -/
def endsLine : Option Char → Bool
  | none => true
  | some c => isBreak c

namespace Cursor

def peek? (at_ : Cursor) : Option Char := at_.rest.head?

def peekAt? (at_ : Cursor) (n : Nat) : Option Char := at_.rest[n]?

def next (at_ : Cursor) : Cursor :=
  match at_.rest with
  | [] => at_
  | '\r' :: '\n' :: rest => { at_ with rest := '\n' :: rest, index := at_.index + 1, column := at_.column + 1 }
  | c :: rest =>
    if isBreak c then { rest, index := at_.index + 1, line := at_.line + 1, column := 0 }
    else
      let wide := if c.toNat == 0xFEFF then 0 else 1
      { rest, index := at_.index + 1, line := at_.line, column := at_.column + wide }

def skip : Nat → Cursor → Cursor
  | 0, at_ => at_
  | n + 1, at_ => skip n at_.next

/-- The characters that a condition holds for, and the place behind them. -/
def span (p : Char → Bool) (at_ : Cursor) : List Char × Cursor :=
  let run := at_.rest.takeWhile p
  (run, at_.skip run.length)

def skipWhile (p : Char → Bool) (at_ : Cursor) : Cursor := (at_.span p).2

def skipBlanks (at_ : Cursor) : Cursor := at_.skipWhile (· == ' ')

/-- One line break, read as a line feed unless it is a separator of lines or paragraphs. -/
def lineBreak? (at_ : Cursor) : Option (Char × Cursor) :=
  match at_.rest with
  | '\r' :: '\n' :: _ => some ('\n', at_.skip 2)
  | c :: _ =>
    if isBreak c then some (if c.toNat == 0x2028 || c.toNat == 0x2029 then c else '\n', at_.next)
    else none
  | [] => none

/-- Whether one of the two marks between documents stands here. -/
def isDocumentMark (mark : Char) (at_ : Cursor) : Bool :=
  at_.rest.take 3 == [mark, mark, mark] && endsWord (at_.peekAt? 3)

def atDocumentMark (at_ : Cursor) : Bool := at_.isDocumentMark '-' || at_.isDocumentMark '.'

end Cursor

/-- A token that becomes a key if a colon follows it on its line. -/
structure OpenKey where
  /-- the number of tokens before it -/
  tokens : Nat
  /-- whether it stands where only a key may stand -/
  required : Bool
  at_ : Cursor

/-- The state between two tokens. -/
structure Scan where
  at_ : Cursor
  /-- how many flow collections are open -/
  flow : Nat := 0
  /-- the columns of the open block collections, innermost first -/
  indents : List Nat := []
  tokens : Array Token := #[]
  /-- whether a key may stand here -/
  allowKey : Bool := true
  /-- the open keys, at most one for each depth of flow collections -/
  keys : List (Nat × OpenKey) := []

namespace Scan

def emit (t : Token) (s : Scan) : Scan := { s with tokens := s.tokens.push t }

/-- Puts a token before others that were found earlier. -/
def emitAt (n : Nat) (t : Token) (s : Scan) : Scan :=
  { s with tokens := ((s.tokens.toList.take n) ++ t :: s.tokens.toList.drop n).toArray }

/-- Closes the block collections that stand further right than a column. -/
def unwind (column : Nat) (s : Scan) : Scan :=
  if s.flow == 0 then
    let closed := s.indents.takeWhile (column < ·)
    { s with
      indents := s.indents.drop closed.length
      tokens := s.tokens ++ Array.replicate closed.length Token.blockEnd }
  else s

/-- Closes all block collections. -/
def unwindAll (s : Scan) : Scan :=
  { s with
    indents := [], tokens := s.tokens ++ Array.replicate s.indents.length Token.blockEnd }

def opens (column : Nat) (s : Scan) : Bool := s.indents.all (· < column)

/-- The column of the innermost block collection, one more, or zero outside of all. -/
def indentLimit (s : Scan) : Nat := (s.indents.head?.map (· + 1)).getD 0

def dropKey (s : Scan) : Scan := { s with keys := s.keys.filter fun k => k.1 != s.flow }

/-- Gives up the open key of this depth; one that is required has to become a key. -/
def forgetKey (s : Scan) : Reads Scan :=
  match s.keys.lookup s.flow with
  | some key => if key.required then malformed else .ok s.dropKey
  | none => .ok s

/-- The greatest length of a key. -/
def maxKeyLength : Nat := 1024

/-- Whether an open key stands on an earlier line or is too long. -/
def isStale (s : Scan) (key : OpenKey) : Bool :=
  key.at_.line != s.at_.line || maxKeyLength < s.at_.index - key.at_.index

def forgetStale (s : Scan) : Reads Scan :=
  if s.keys.any fun k => s.isStale k.2 && k.2.required then malformed
  else .ok { s with keys := s.keys.filter fun k => !s.isStale k.2 }

/-- The tokens that are settled: no open key is among them or before them. -/
def settled (s : Scan) : List Token :=
  let live := s.keys.filter fun k => !s.isStale k.2
  s.tokens.toList.take (live.foldl (fun n k => min n k.2.tokens) s.tokens.size)

/-- What follows may turn out to be a key. -/
def saveKey (s : Scan) : Reads Scan :=
  if s.allowKey then do
    let required := s.flow == 0 && s.indents.head? == some s.at_.column
    let s ← s.forgetKey
    return { s with keys := (s.flow, ⟨s.tokens.size, required, s.at_⟩) :: s.keys }
  else .ok s

end Scan

end Toolwrap.Yaml
