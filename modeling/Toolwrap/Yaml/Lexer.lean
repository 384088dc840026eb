import Toolwrap.Yaml.Tag
/-!
Finding the tokens of a document, one after the other. What a mark means depends on what follows it,
on whether a flow collection is open, and on whether a key may stand there.
-/
namespace Toolwrap.Yaml

/-- The tokens of a text, and the defect that they break off at, if there is one. -/
structure Tokens where
  list : List Token
  defect : Option Defect

namespace Scan

/-- Blanks, comments and line breaks before a token. A new line in block style may begin with a key. -/
def toNextToken : Nat → Scan → Scan
  | 0, s => s
  | fuel + 1, s =>
    let at_ := s.at_.skipBlanks
    let at_ := if at_.peek? == some '#' then at_.skipWhile fun c => !isBreak c else at_
    match at_.lineBreak? with
    | some (_, after) =>
      toNextToken fuel { s with at_ := after, allowKey := s.allowKey || s.flow == 0 }
    | none => { s with at_ := at_ }

/-- A mark of some characters. -/
def mark (length : Nat) (t : Token) (s : Scan) : Scan :=
  { s.emit t with at_ := s.at_.skip length }

/-- Ends what is open, for a token between documents. -/
def endContent (s : Scan) : Reads Scan := do
  let s ← s.unwindAll.forgetKey
  return { s with allowKey := false }

def openFlow (t : Token) (s : Scan) : Reads Scan := do
  let s ← s.saveKey
  return { s.mark 1 t with flow := s.flow + 1, allowKey := true }

def closeFlow (t : Token) (s : Scan) : Reads Scan := do
  let s ← s.forgetKey
  return { s.mark 1 t with flow := s.flow - 1, allowKey := false }

/-- Opens a block collection at a column, unless one is open there. -/
def openBlock (t : Token) (column : Nat) (s : Scan) : Scan :=
  if s.opens column then { s.emit t with indents := column :: s.indents } else s

def blockEntry (s : Scan) : Reads Scan := do
  if s.flow == 0 && !s.allowKey then throw .malformed
  let s := if s.flow == 0 then s.openBlock .blockSequence s.at_.column else s
  let s ← ({ s with allowKey := true } : Scan).forgetKey
  return s.mark 1 .blockEntry

def explicitKey (s : Scan) : Reads Scan := do
  if s.flow == 0 && !s.allowKey then throw .malformed
  let s := if s.flow == 0 then s.openBlock .blockMapping s.at_.column else s
  let s ← ({ s with allowKey := s.flow == 0 } : Scan).forgetKey
  return s.mark 1 .key

/-- A colon. If a key is open, the mapping and the key are put in front of it. -/
def colon (s : Scan) : Reads Scan := do
  match s.keys.lookup s.flow with
  | some key =>
    let s := s.dropKey.emitAt key.tokens .key
    let s :=
      if s.flow == 0 && s.opens key.at_.column then
        { s.emitAt key.tokens .blockMapping with indents := key.at_.column :: s.indents }
      else s
    return { s.mark 1 .value with allowKey := false }
  | none =>
    if s.flow == 0 && !s.allowKey then throw .malformed
    let s := if s.flow == 0 then s.openBlock .blockMapping s.at_.column else s
    return { s.mark 1 .value with allowKey := s.flow == 0 }

def endsName (c : Option Char) : Bool :=
  endsWord c || c.any (· ∈ ['?', ':', ',', ']', '\x7d', '%', '@', '\x60'])

def named (token : String → Token) (s : Scan) : Reads Scan := do
  let s ← s.saveKey
  let (name, after) := s.at_.next.span isNameChar
  if name.isEmpty || !endsName after.peek? then throw .malformed
  return { s.emit (token (String.ofList name)) with at_ := after, allowKey := false }

def tagged (s : Scan) : Reads Scan := do
  let s ← s.saveKey
  let (tag, after) ← writtenTag s.at_
  return { s.emit (.tag tag) with at_ := after, allowKey := false }

def directed (s : Scan) : Reads Scan := do
  let s ← s.endContent
  let (d, after) ← directive s.at_
  return { s.emit (.directive d) with at_ := after }

def block (fold : Bool) (s : Scan) : Reads Scan := do
  let s ← ({ s with allowKey := true } : Scan).forgetKey
  let (text, after) ← blockScalar fold s.indentLimit s.at_.next
  return { s.emit (.scalar (String.ofList text) false) with at_ := after }

def quoted (quote : Char) (s : Scan) : Reads Scan := do
  let s ← s.saveKey
  let (text, after) ← quotedScalar quote s.at_.rest.length s.at_.next []
  return { s.emit (.scalar (String.ofList text) false) with at_ := after, allowKey := false }

def plain (s : Scan) : Reads Scan := do
  let s ← s.saveKey
  let (text, after, broke) :=
    plainScalar (s.flow != 0) s.indentLimit s.at_.rest.length s.at_ [] [] false
  return { s.emit (.scalar (String.ofList text) true) with at_ := after, allowKey := broke }

/-- The marks that cannot begin a plain scalar, or only before something that is no blank. -/
def isMark (c : Char) : Bool :=
  c ∈ ['-', '?', ':', ',', '[', ']', '\x7b', '\x7d', '#', '&', '*', '!', '|', '>', '\x27', '\x22',
    '%', '@', '\x60']

def beginsPlain (s : Scan) (c : Char) : Bool :=
  !(endsWord (some c) || isMark c) ||
    (!endsWord (s.at_.peekAt? 1) && (c == '-' || (s.flow == 0 && (c == '?' || c == ':'))))

/-- The token at a character that is no blank. -/
def atChar (c : Char) (s : Scan) : Reads Scan :=
  let atStart := s.at_.column == 0
  let behind := s.at_.peekAt? 1
  let inFlow := s.flow != 0
  if c == '%' && atStart then s.directed
  else if atStart && s.at_.isDocumentMark '-' then (·.mark 3 .documentStart) <$> s.endContent
  else if atStart && s.at_.isDocumentMark '.' then (·.mark 3 .documentEnd) <$> s.endContent
  else if c == '[' then s.openFlow .flowSequence
  else if c == '\x7b' then s.openFlow .flowMapping
  else if c == ']' then s.closeFlow .flowSequenceEnd
  else if c == '\x7d' then s.closeFlow .flowMappingEnd
  else if c == ',' then (·.mark 1 .flowEntry) <$> ({ s with allowKey := true } : Scan).forgetKey
  else if c == '-' && endsWord behind then s.blockEntry
  else if c == '?' && (inFlow || endsWord behind) then s.explicitKey
  else if c == ':' && (inFlow || endsWord behind) then s.colon
  else if c == '*' then s.named .alias
  else if c == '&' then s.named .anchor
  else if c == '!' then s.tagged
  else if c == '|' && !inFlow then s.block false
  else if c == '>' && !inFlow then s.block true
  else if c == '\x27' || c == '\x22' then s.quoted c
  else if s.beginsPlain c then s.plain
  else malformed

/-- One token, with those that it implies, and whether it was the last. -/
def step (s : Scan) : Reads (Scan × Bool) := do
  let s ← (toNextToken (s.at_.rest.length + 1) s).forgetStale
  let s := s.unwind s.at_.column
  match s.at_.peek? with
  | none => return (← s.unwindAll.forgetKey, true)
  | some c => return (← s.atChar c, false)

/-- The tokens up to the end of the text or to a defect, which takes those with it that are not settled.
Every round but the last consumes a character. -/
def run : Nat → Scan → Tokens
  | 0, s => ⟨s.tokens.toList, some .malformed⟩
  | fuel + 1, s =>
    match s.step with
    | .error defect => ⟨s.settled, some defect⟩
    | .ok (s, true) => ⟨s.tokens.toList, none⟩
    | .ok (s, false) => run fuel s

end Scan

/-- The characters that may stand in a document. -/
def isAllowed (c : Char) : Bool :=
  c == '\t' || c == '\n' || c == '\r' || (0x20 ≤ c.toNat && c.toNat ≤ 0x7E) || c.toNat == 0x85 ||
    (0xA0 ≤ c.toNat && c.toNat ≤ 0xFFFD) || 0x10000 ≤ c.toNat

/-- The tokens of a text, a mark of the byte order at its start aside. -/
def tokens (text : List Char) : Tokens :=
  let body := if text.head?.map Char.toNat == some 0xFEFF then text.drop 1 else text
  if body.all isAllowed then Scan.run (body.length + 1) { at_ := { rest := body } }
  else ⟨[], some .malformed⟩

end Toolwrap.Yaml
