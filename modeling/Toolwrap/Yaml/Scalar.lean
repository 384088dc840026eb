import Toolwrap.Text.Quoted
import Toolwrap.Yaml.Token
/-!
Scalars as they are written: plain ones, quoted ones, and blocks. Each reader gives the text that is
meant and the place behind it. The fuel of a reader is the number of characters left, since every round
consumes one.
-/
namespace Toolwrap.Yaml

/-- The text and the place behind it. -/
abbrev Scanned := Reads (List Char × Cursor)

/-- Line breaks with blanks before them; nothing if a mark between documents stands there. -/
def plainBreaks : Nat → Cursor → List Char → Option (List Char × Cursor)
  | 0, at_, acc => some (acc, at_)
  | fuel + 1, at_, acc =>
    match at_.peek? with
    | some ' ' => plainBreaks fuel at_.next acc
    | _ =>
      match at_.lineBreak? with
      | none => some (acc, at_)
      | some (c, after) =>
        if after.atDocumentMark then none else plainBreaks fuel after (acc ++ [c])

/-- What a line break and the empty lines behind it mean: a single one a blank, otherwise the empty
lines. -/
def folded (first : Char) (breaks : List Char) : List Char :=
  (if first != '\n' then [first] else if breaks.isEmpty then [' '] else []) ++ breaks

/-- The space between two pieces of a plain scalar, and whether it holds a line break. -/
def plainSpaces (at_ : Cursor) : List Char × Cursor × Bool :=
  let (blanks, after) := at_.span (· == ' ')
  match after.lineBreak? with
  | none => (blanks, after, false)
  | some (c, behind) =>
    if behind.atDocumentMark then ([], behind, true)
    else
      match plainBreaks behind.rest.length behind [] with
      | some (breaks, at_) => (folded c breaks, at_, true)
      | none => ([], behind, true)

/-- The characters that a flow collection is made with. -/
def isFlowMark (c : Char) : Bool := c ∈ [',', '[', ']', '\x7b', '\x7d']

/-- The piece of a plain scalar up to a blank or a mark. -/
def plainPiece (inFlow : Bool) : List Char → List Char
  | [] => []
  | c :: rest =>
    if endsWord (some c) then []
    else if c == ':' && (endsWord rest.head? || (inFlow && rest.head?.any isFlowMark)) then []
    else if inFlow && (c == '?' || isFlowMark c) then []
    else c :: plainPiece inFlow rest

/-- A plain scalar, the place behind it, and whether a line break was passed at its end. -/
def plainScalar (inFlow : Bool) (limit : Nat) :
    Nat → Cursor → List Char → List Char → Bool → List Char × Cursor × Bool
  | 0, at_, acc, _, broke => (acc, at_, broke)
  | fuel + 1, at_, acc, spaces, broke =>
    if at_.peek? == some '#' then (acc, at_, broke)
    else
      let piece := plainPiece inFlow at_.rest
      if piece.isEmpty then (acc, at_, broke)
      else
        let acc := acc ++ spaces ++ piece
        let (spaces, after, broke) := plainSpaces (at_.skip piece.length)
        if spaces.isEmpty || after.peek? == some '#' || (!inFlow && after.column < limit) then
          (acc, after, broke)
        else plainScalar inFlow limit fuel after acc spaces broke

/-- Line breaks inside a quoted scalar, with the blanks around them. -/
def quotedBreaks : Nat → Cursor → List Char → Scanned
  | 0, at_, acc => .ok (acc, at_)
  | fuel + 1, at_, acc =>
    if at_.atDocumentMark then malformed
    else
      let at_ := at_.skipWhile fun c => c == ' ' || c == '\t'
      match at_.lineBreak? with
      | some (c, after) => quotedBreaks fuel after (acc ++ [c])
      | none => .ok (acc, at_)

/-- The character that a number of hexadecimal digits stands for, if there is one. -/
def hexChar (digits : List Char) (count : Nat) : Reads Char :=
  let values := (digits.take count).filterMap Text.hexValue?
  let n := values.foldl (fun n d => 16 * n + d) 0
  if values.length < count then malformed
  else if 0x110000 ≤ n then .error .impossible
  else .ok (Text.codePoint n)

/-- The character after a backslash, for the escapes of one character. -/
def escapeOf? : Char → Option Char
  | '0' => some (Char.ofNat 0) | 'a' => some (Char.ofNat 7) | 'b' => some (Char.ofNat 8)
  | 't' => some '\t' | '\t' => some '\t' | 'n' => some '\n' | 'v' => some (Char.ofNat 11)
  | 'f' => some (Char.ofNat 12) | 'r' => some '\r' | 'e' => some (Char.ofNat 27)
  | ' ' => some ' ' | '\x22' => some '\x22' | '\\' => some '\\' | '/' => some '/'
  | 'N' => some (Char.ofNat 0x85) | '_' => some (Char.ofNat 0xA0)
  | 'L' => some (Char.ofNat 0x2028) | 'P' => some (Char.ofNat 0x2029)
  | _ => none

/-- How many hexadecimal digits follow an escape. -/
def escapeDigits? : Char → Option Nat
  | 'x' => some 2 | 'u' => some 4 | 'U' => some 8
  | _ => none

/-- An escape in a double-quoted scalar, from behind its backslash. -/
def escaped (at_ : Cursor) : Scanned :=
  match at_.peek? with
  | none => malformed
  | some c =>
    match escapeOf? c, escapeDigits? c with
    | some d, _ => .ok ([d], at_.next)
    | none, some count => do return ([← hexChar at_.next.rest count], at_.skip (count + 1))
    | none, none =>
      match at_.lineBreak? with
      | some (_, after) => quotedBreaks after.rest.length after []
      | none => malformed

/-- A quoted scalar from behind its first quote. -/
def quotedScalar (quote : Char) : Nat → Cursor → List Char → Scanned
  | 0, _, _ => malformed
  | fuel + 1, at_, acc =>
    match at_.peek? with
    | none => malformed
    | some c =>
      if c == quote then
        if quote == '\x27' && at_.peekAt? 1 == some '\x27' then
          quotedScalar quote fuel (at_.skip 2) (acc ++ ['\x27'])
        else .ok (acc, at_.next)
      else if c == '\\' && quote == '\x22' then do
        let (text, after) ← escaped at_.next
        quotedScalar quote fuel after (acc ++ text)
      else if c == ' ' || c == '\t' || isBreak c then do
        let (blanks, after) := at_.span fun c => c == ' ' || c == '\t'
        match after.lineBreak? with
        | none => quotedScalar quote fuel after (acc ++ blanks)
        | some (first, behind) =>
          let (breaks, after) ← quotedBreaks behind.rest.length behind []
          quotedScalar quote fuel after (acc ++ folded first breaks)
      else quotedScalar quote fuel at_.next (acc ++ [c])

/-- What becomes of the line breaks at the end of a block. -/
inductive Chomping where
  | clip | strip | keep
deriving DecidableEq, Repr

/-- The header of a block: the chomping, how far it is indented, and the place behind it. -/
def blockHeader (at_ : Cursor) : Reads (Chomping × Option Nat × Cursor) :=
  let chomping? := fun (at_ : Cursor) =>
    match at_.peek? with
    | some '+' => some (Chomping.keep, at_.next)
    | some '-' => some (Chomping.strip, at_.next)
    | _ => none
  let digit? := fun (at_ : Cursor) =>
    match at_.peek? with
    | some c => if '0' ≤ c && c ≤ '9' then some (c.toNat - 48, at_.next) else none
    | none => none
  let finish := fun (chomping : Chomping) (increment : Option Nat) (at_ : Cursor) =>
    if increment == some 0 then malformed
    else if at_.peek? == some ' ' || endsLine at_.peek? then
      let at_ := at_.skipBlanks
      let at_ := if at_.peek? == some '#' then at_.skipWhile fun c => !isBreak c else at_
      match at_.peek?, at_.lineBreak? with
      | none, _ => .ok (chomping, increment, at_)
      | _, some (_, after) => .ok (chomping, increment, after)
      | _, none => malformed
    else malformed
  match chomping? at_ with
  | some (chomping, after) =>
    match digit? after with
    | some (n, after) => finish chomping (some n) after
    | none => finish chomping none after
  | none =>
    match digit? at_ with
    | some (n, after) =>
      match chomping? after with
      | some (chomping, after) => finish chomping (some n) after
      | none => finish .clip (some n) after
    | none => finish .clip none at_

/-- The empty lines before a block and the greatest column that their blanks reach. -/
def blockIndentation : Nat → Cursor → List Char → Nat → List Char × Nat × Cursor
  | 0, at_, acc, deepest => (acc, deepest, at_)
  | fuel + 1, at_, acc, deepest =>
    if at_.peek? == some ' ' then
      blockIndentation fuel at_.next acc (max deepest at_.next.column)
    else
      match at_.lineBreak? with
      | some (c, after) => blockIndentation fuel after (acc ++ [c]) deepest
      | none => (acc, deepest, at_)

/-- At most so many blanks that the column is reached. -/
def skipIndent (indent : Nat) (at_ : Cursor) : Cursor :=
  at_.skip (((at_.rest.takeWhile (· == ' ')).take (indent - at_.column)).length)

/-- The empty lines inside a block. -/
def blockBreaks (indent : Nat) : Nat → Cursor → List Char → List Char × Cursor
  | 0, at_, acc => (acc, at_)
  | fuel + 1, at_, acc =>
    let at_ := skipIndent indent at_
    match at_.lineBreak? with
    | some (c, after) => blockBreaks indent fuel after (acc ++ [c])
    | none => (acc, at_)

/-- Whether the line that begins here begins with a blank. -/
def beginsBlank (at_ : Cursor) : Bool := at_.peek? == some ' ' || at_.peek? == some '\t'

/-- The lines of a block: its text, the break of the last line and the empty lines after it. -/
def blockLines (fold : Bool) (indent : Nat) :
    Nat → Cursor → List Char → List Char → List Char × List Char × List Char × Cursor
  | 0, at_, acc, breaks => (acc, [], breaks, at_)
  | fuel + 1, at_, acc, breaks =>
    if at_.column != indent || at_.rest.isEmpty then (acc, [], breaks, at_)
    else
      let flush := !beginsBlank at_
      let (line, after) := at_.span fun c => !isBreak c
      let acc := acc ++ breaks ++ line
      let (ending, after) :=
        match after.lineBreak? with
        | some (c, after) => ([c], after)
        | none => ([], after)
      let (breaks, after) := blockBreaks indent after.rest.length after []
      if after.column == indent && !after.rest.isEmpty then
        let joint :=
          if fold && ending == ['\n'] && flush && !beginsBlank after then
            if breaks.isEmpty then [' '] else []
          else ending
        blockLines fold indent fuel after (acc ++ joint) breaks
      else (acc, ending, breaks, after)

/-- A block scalar from behind its mark. -/
def blockScalar (fold : Bool) (limit : Nat) (at_ : Cursor) : Scanned := do
  let (chomping, increment, at_) ← blockHeader at_
  let least := max limit 1
  let (breaks, indent, at_) :=
    match increment with
    | some n =>
      let indent := least + n - 1
      let (breaks, at_) := blockBreaks indent at_.rest.length at_ []
      (breaks, indent, at_)
    | none =>
      let (breaks, deepest, at_) := blockIndentation at_.rest.length at_ [] 0
      (breaks, max least deepest, at_)
  let (text, ending, trailing, at_) := blockLines fold indent (at_.rest.length + 1) at_ [] breaks
  let text := if chomping == .strip then text else text ++ ending
  return (if chomping == .keep then text ++ trailing else text, at_)

end Toolwrap.Yaml
