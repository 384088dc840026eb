import Toolwrap.Text.Bytes
import Toolwrap.Yaml.Scalar
/-!
Tags and directives as they are written, and the kinds of nodes that tags name. A tag ends at a blank
or at the end of its line; its handle is looked up later, by the reader of nodes.
-/
namespace Toolwrap.Yaml

/-- The characters of the name of an anchor, a handle or a directive. -/
def isNameChar (c : Char) : Bool :=
  ('a' ≤ c && c ≤ 'z') || ('A' ≤ c && c ≤ 'Z') || ('0' ≤ c && c ≤ '9') || c == '-' || c == '_'

/-- The characters that stand for themselves in a tag. -/
def isTagChar (c : Char) : Bool :=
  isNameChar c ||
    c ∈ [';', '/', '?', ':', '@', '&', '=', '+', '$', ',', '.', '!', '~', '*', '\x27', '(', ')', '[', ']']

def endsTag (c : Option Char) : Bool := c == some ' ' || endsLine c

/-- Bytes, each written with a percent sign and two digits. -/
def tagBytes : Nat → Cursor → List Nat → Reads (List Nat × Cursor)
  | 0, at_, acc => .ok (acc, at_)
  | fuel + 1, at_, acc =>
    if at_.peek? == some '%' then
      match (at_.next.rest.take 2).map Text.hexValue? with
      | [some a, some b] => tagBytes fuel (at_.skip 3) (acc ++ [16 * a + b])
      | _ => malformed
    else .ok (acc, at_)

/-- The text of a tag, as far as it goes. -/
def tagChars : Nat → Cursor → List Char → Scanned
  | 0, at_, acc => .ok (acc, at_)
  | fuel + 1, at_, acc =>
    match at_.peek? with
    | none => .ok (acc, at_)
    | some '%' => do
      let (bytes, after) ← tagBytes at_.rest.length at_ []
      let text := Text.ofBytes bytes
      if text.any Text.isLoose then malformed else tagChars fuel after (acc ++ text)
    | some c => if isTagChar c then tagChars fuel at_.next (acc ++ [c]) else .ok (acc, at_)

/-- The text of a tag, which is not empty. -/
def tagText (at_ : Cursor) : Scanned := do
  let (text, after) ← tagChars at_.rest.length at_ []
  if text.isEmpty then malformed else return (text, after)

/-- A handle: a single mark before a blank, or a name between two. -/
def tagHandle (at_ : Cursor) : Scanned :=
  if at_.peek? != some '!' then malformed
  else if at_.peekAt? 1 == some ' ' then .ok (['!'], at_.next)
  else
    let (name, after) := at_.next.span isNameChar
    if after.peek? == some '!' then .ok ('!' :: name ++ ['!'], after.next) else malformed

/-- A tag from its mark on. A second mark in the word makes the text up to there a handle. -/
def writtenTag (at_ : Cursor) : Reads (WrittenTag × Cursor) := do
  let (tag, after) ←
    if at_.peekAt? 1 == some '<' then do
      let (text, after) ← tagText (at_.skip 2)
      if after.peek? != some '>' then malformed
      else pure (WrittenTag.mk none (String.ofList text), after.next)
    else if endsWord (at_.peekAt? 1) then pure (WrittenTag.mk none "!", at_.next)
    else do
      let word := at_.next.rest.takeWhile fun c => !endsTag (some c)
      let (handle, behind) ← if '!' ∈ word then tagHandle at_ else .ok (['!'], at_.next)
      let (text, after) ← tagText behind
      pure (WrittenTag.mk (some (String.ofList handle)) (String.ofList text), after)
  if endsTag after.peek? then return (tag, after) else malformed

/-- A number in decimal digits. -/
def decimal (at_ : Cursor) : Reads (Nat × Cursor) :=
  let (digits, after) := at_.span fun c => '0' ≤ c && c ≤ '9'
  if digits.isEmpty then malformed
  else .ok ((digits.filterMap Text.hexValue?).foldl (fun n d => 10 * n + d) 0, after)

/-- What a directive says, behind its name. -/
def directiveText (name : String) (at_ : Cursor) : Reads (Directive × Cursor) := do
  if name == "YAML" then
    let (major, after) ← decimal at_.skipBlanks
    if after.peek? != some '.' then malformed
    else
      let (_, after) ← decimal after.next
      if endsTag after.peek? then return (.version major, after) else malformed
  else if name == "TAG" then
    let (handle, after) ← tagHandle at_.skipBlanks
    if after.peek? != some ' ' then malformed
    else
      let (meaning, after) ← tagText after.skipBlanks
      if endsTag after.peek? then
        return (.handle (String.ofList handle) (String.ofList meaning), after)
      else malformed
  else return (.other, at_.skipWhile fun c => !isBreak c)

/-- A directive from its percent sign to the end of its line, where a comment may stand. -/
def directive (at_ : Cursor) : Reads (Directive × Cursor) := do
  let (name, after) := at_.next.span isNameChar
  if name.isEmpty || !endsTag after.peek? then malformed
  else
    let (d, after) ← directiveText (String.ofList name) after
    let after := after.skipBlanks
    let after := if after.peek? == some '#' then after.skipWhile fun c => !isBreak c else after
    if endsLine after.peek? then return (d, after) else malformed

/-- The kinds of nodes: those with a value of their own, and the two kinds of keys that say something
about their mapping. -/
inductive Kind where
  | null | bool | int | float | binary | timestamp | str
  | seq | map | set | omap | pairs
  /-- a key that takes over the fields of other mappings -/
  | merge
  /-- a key whose value a mapping stands for where a scalar is needed -/
  | value
  | unknown
deriving DecidableEq, Repr

/-- What the tags of all these kinds begin with. -/
def Kind.space : String := "tag:yaml.org,2002:"

def Kind.ofTag (tag : String) : Kind :=
  if !tag.startsWith Kind.space then .unknown
  else
    match (tag.drop Kind.space.length).toString with
    | "null" => .null | "bool" => .bool | "int" => .int | "float" => .float
    | "binary" => .binary | "timestamp" => .timestamp | "str" => .str
    | "seq" => .seq | "map" => .map | "set" => .set | "omap" => .omap | "pairs" => .pairs
    | "merge" => .merge | "value" => .value
    | _ => .unknown

/-- What handles stand for unless a document says otherwise. -/
def defaultHandles : List (String × String) := [("!", "!"), ("!!", Kind.space)]

end Toolwrap.Yaml
