import Toolwrap.Shell.Edit.Basic
import Toolwrap.Shell.Format
/-!
How editing scripts are written: one command behind the other, each with addresses in front of its letter
and with what the letter asks for behind it.
-/
namespace Toolwrap.Shell.Edit

/-- What is read: the characters that are left, how many were read, the steps, the indices of blocks
that are open, and whether the extended way of writing expressions is used. -/
structure Reading where
  rest : List Char
  index : Nat := 0
  steps : Array Step := #[]
  blocks : List Nat := []
  extended : Bool := false
  /-- selected lines alone are printed -/
  silent : Bool := false

/-- A fault with the number of characters that were read. -/
abbrev Read := StateT Reading (Except (Fault × Nat))

namespace Read

def fail {α : Type} (fault : Fault) : Read α := do throw (fault, (← get).index)

def next? : Read (Option Char) := do
  match (← get).rest with
  | [] => return none
  | c :: rest =>
    modify fun r => { r with rest, index := r.index + 1 }
    return some c

/-- Puts a character back that was read last. -/
def back (c : Option Char) : Read Unit :=
  match c with
  | some c => modify fun r => { r with rest := c :: r.rest, index := r.index - 1 }
  | none => return ()

/-- Reads as long as a test holds. -/
def takeWhile (p : Char → Bool) : Read (List Char) := do
  let taken := (← get).rest.takeWhile p
  modify fun r => { r with rest := r.rest.drop taken.length, index := r.index + taken.length }
  return taken

def isGap (c : Char) : Bool := c == ' ' || c == '\t'

def nextVisible? : Read (Option Char) := do
  let _ ← takeWhile isGap
  next?

/-- A number, zero if there is none. -/
def number : Read Nat := return numberIn 10 (← takeWhile Char.isDigit)

end Read

open Read

/-- The character that a letter and digits behind a backslash stand for, and what follows. -/
def codedChar? : List Char → Option (Char × List Char)
  | 'c' :: c :: rest => some (Char.ofNat ((c.toUpper.toNat ^^^ 64) % 128), rest)
  | 'd' :: rest => coded 10 3 rest
  | 'o' :: rest => coded 8 3 rest
  | 'x' :: rest => coded 16 2 rest
  | _ => none
where
  coded (base most : Nat) (s : List Char) : Option (Char × List Char) :=
    let digits := (s.take most).takeWhile fun c => (digitOf? c).any (· < base)
    if digits.isEmpty then none
    else some (Escape.ofByte (numberIn base digits), s.drop digits.length)

/-- The text of an expression, in which codes of characters are replaced by the characters; those that mean
something keep their backslash. -/
def decoded : Nat → List Char → List Char
  | 0, s => s
  | _, [] => []
  | fuel + 1, '\\' :: rest =>
    match codedChar? rest with
    | some (c, after) =>
      let marked := c ∈ ['*', '[', ']', '.', '^', '$', '\\', '/', '+', '?', '(', ')', '\x7b', '\x7d', '|']
      (if marked then ['\\', c] else [c]) ++ decoded fuel after
    | none =>
      match rest with
      | c :: after => '\\' :: c :: decoded fuel after
      | [] => ['\\']
  | fuel + 1, c :: rest => c :: decoded fuel rest

/-- A bracket of an expression, from behind its beginning, up to its end. -/
def bracketText : Nat → Bool → List Char → Option (List Char × List Char)
  | 0, _, _ => none
  | _, _, [] => none
  | fuel + 1, first, ']' :: rest =>
    if first then (bracketText fuel false rest).map fun (t, after) => (']' :: t, after) else some ([']'], rest)
  | fuel + 1, _, '[' :: d :: rest =>
    if d == ':' || d == '.' || d == '=' then
      let name := rest.takeWhile fun c => c != d && c != '\n'
      match rest.drop name.length with
      | e :: ']' :: after =>
        if e == d then
          (bracketText fuel false after).map fun (t, after) => ('[' :: d :: name ++ d :: ']' :: t, after)
        else none
      | _ => none
    else (bracketText fuel false (d :: rest)).map fun (t, after) => ('[' :: t, after)
  | fuel + 1, first, c :: rest =>
    if c == '\n' then none
    else (bracketText fuel (first && c == '^') rest).map fun (t, after) => (c :: t, after)

/-- The text up to a mark. In an expression a mark in brackets does not end it. -/
def delimited (mark : Char) (inExpression : Bool) : Nat → List Char → Option (List Char × List Char)
  | 0, _ => none
  | _, [] => none
  | fuel + 1, '\\' :: c :: rest =>
    let kept :=
      if c == 'n' && inExpression && mark != 'n' then ['\n']
      else if c == '\n' then (if inExpression then ['\n'] else ['\\', '\n'])
      else if c == mark && (inExpression || c != '&') then [c]
      else ['\\', c]
    (delimited mark inExpression fuel rest).map fun (t, after) => (kept ++ t, after)
  | fuel + 1, c :: rest =>
    if c == mark then some ([], rest)
    else if c == '\n' then none
    else if c == '[' && inExpression then do
      let (inside, rest) ← bracketText (rest.length + 1) true rest
      let (t, after) ← delimited mark inExpression fuel rest
      return (c :: inside ++ t, after)
    else (delimited mark inExpression fuel rest).map fun (t, after) => (c :: t, after)

/-- Reads up to a mark; without one, all is read up to the end of the line. -/
def upTo (mark : Char) (inExpression : Bool) (otherwise : Fault) : Read (List Char) := do
  let s := (← get).rest
  match if mark == '\n' || mark == '\\' then none else delimited mark inExpression (s.length + 1) s with
  | some (text, after) =>
    modify fun r => { r with rest := after, index := r.index + (s.length - after.length) }
    return text
  | none =>
    let line := brokenLine s
    modify fun r => { r with rest := s.drop line, index := r.index + line }
    fail otherwise
where
  /-- How many characters there are up to a line end without a backslash in front. -/
  brokenLine : List Char → Nat
    | '\\' :: _ :: rest => brokenLine rest + 2
    | '\n' :: _ => 0
    | _ :: rest => brokenLine rest + 1
    | [] => 0

/-- What is looked for, from its text. -/
def sought (text : List Char) (folds : Bool) : Read Sought := do
  if text.isEmpty then return { expression := none, folds }
  let style : Regex.Style := { extended := (← get).extended, escapes := true, exact := true }
  match Regex.read style (decoded (text.length + 1) text) with
  | .ok e => return { expression := some e, folds }
  | .error fault => fail (.expression fault)

/-- The address that begins with a character, which was read. -/
def address? (c : Option Char) : Read (Option Address) := do
  match c with
  | some '/' => holding '/'
  | some '\\' =>
    match ← next? with
    | some mark => holding mark
    | none => fail .noAddressEnd
  | some '$' => return some .last
  | some c =>
    if c.isDigit then
      back (some c)
      let n ← number
      match ← nextVisible? with
      | some '~' =>
        let _ ← takeWhile isGap
        let step ← number
        return some (if step == 0 then .line n else .every n step)
      | c =>
        back c
        return some (.line n)
    else return none
  | none => return none
where
  holding (mark : Char) : Read (Option Address) := do
    let text ← upTo mark true .noAddressEnd
    let flags ← takeWhile fun c => isGap c || c == 'I' || c == 'M'
    if flags.contains 'M' then fail .uncovered
    return some (.holding (← sought text (flags.contains 'I')))

/-- The end of a range that begins with a character, which was read. -/
def bound? (c : Option Char) : Read (Option Bound) := do
  match c with
  | some '+' =>
    let _ ← takeWhile isGap
    return some (.more (← number))
  | some '~' =>
    let _ ← takeWhile isGap
    return some (.multiple (← number))
  | c => return (← address? c).map .address

/-- The selection in front of a command, and the letter of the command. -/
def selection : Read (Selection × Option Char) := do
  let c ← next?
  if c == some '+' || c == some '~' then
    let _ ← bound? c
    fail .relativeFirst
  let first ← address? c
  let c ← if first.isSome then nextVisible? else pure c
  let mut bound : Option Bound := none
  let mut c := c
  if first.isSome && c == some ',' then
    match ← bound? (← nextVisible?) with
    | some b => bound := some b
    | none => fail .strayComma
    c ← nextVisible?
  match first, bound with
  | some (.line 0), some (.address (.holding _)) => pure ()
  | some (.line 0), _ => fail .lineZero
  | _, _ => pure ()
  if c == some '!' then
    c ← nextVisible?
    if c == some '!' then fail .turnedTwice
    return ({ first, bound, turned := true }, c)
  return ({ first, bound }, c)

/-- The end of a command. -/
def commandEnd : Read Unit := do
  match ← nextVisible? with
  | none | some '\n' | some ';' => return ()
  | some c =>
    if c == '\x7d' || c == '#' then back (some c) else fail .trailing

def labelText (stops : Char → Bool) : Read String := do
  let _ ← takeWhile isGap
  return String.ofList (← takeWhile fun c => !(c == '\n' || c == ';' || Format.isSpace c || stops c))

def fileName : Read String := do
  let _ ← takeWhile isGap
  let name ← takeWhile (· != '\n')
  if name.isEmpty then fail .noFile
  return String.ofList name

/-- The text of a command that adds text, up to a line end without a backslash in front. -/
def addedText : Nat → List Char → List Char × List Char
  | 0, s => ([], s)
  | _, [] => ([], [])
  | _, '\n' :: rest => ([], rest)
  | fuel + 1, '\\' :: rest =>
    match codedChar? rest, rest with
    | some (c, after), _ =>
      let (t, after) := addedText fuel after
      (c :: t, after)
    | none, c :: after =>
      let (t, after) := addedText fuel after
      ((Regex.escapedChar? c).getD c :: t, after)
    | none, [] => ([], [])
  | fuel + 1, c :: rest =>
    let (t, after) := addedText fuel rest
    (c :: t, after)

def readText : Read (List Char) := do
  match ← nextVisible? with
  | none => fail .noText
  | some '\\' =>
    -- a line end behind the backslash does not belong to the text
    let _ ← (if (← get).rest.head? == some '\n' then next? else pure none)
    if (← get).rest.isEmpty then return []
  | c => back c
  let s := (← get).rest
  let (text, after) := addedText (s.length + 1) s
  modify fun r => { r with rest := after, index := r.index + (s.length - after.length) }
  return text ++ ['\n']

/-- The parts of what is put in for a match. -/
def parts : Nat → List Char → List Part
  | 0, _ => []
  | _, [] => []
  | fuel + 1, '&' :: rest => .group 0 :: parts fuel rest
  | fuel + 1, '\\' :: rest =>
    match codedChar? rest, rest with
    | some (c, after), _ => .char c :: parts fuel after
    | none, c :: after =>
      let part : Part :=
        if c.isDigit then .group (c.toNat - 48)
        else
          match c with
          | 'U' => .recase .upper
          | 'L' => .recase .lower
          | 'u' => .recase .upperOne
          | 'l' => .recase .lowerOne
          | 'E' => .recase .stop
          | c => .char ((Regex.escapedChar? c).getD c)
      part :: parts fuel after
    | none, [] => [.char '\\']
  | fuel + 1, c :: rest => .char c :: parts fuel rest

/-- The flags of a substitution. The fuel bounds their number. -/
def flags : Nat → Bool → Substitution → Read (Substitution × Bool)
  | 0, folds, s => return (s, folds)
  | fuel + 1, folds, s => do
    match ← next? with
    | none | some '\n' | some ';' => return (s, folds)
    | some 'g' => if s.all then fail (.repeatedFlag 'g') else flags fuel folds { s with all := true }
    | some 'p' => if s.prints then fail (.repeatedFlag 'p') else flags fuel folds { s with prints := true }
    | some 'i' | some 'I' => flags fuel true s
    | some 'm' | some 'M' | some 'e' => fail .uncovered
    | some 'w' => return ({ s with file := some (← fileName) }, folds)
    | some c =>
      if c == '\x7d' || c == '#' then
        back (some c)
        return (s, folds)
      else if c.isDigit then
        back (some c)
        let n ← number
        if n == 0 then fail .zeroNumber
        if s.nth != 1 then fail .repeatedNumber
        flags fuel folds { s with nth := n }
      else if isGap c || c == '\r' then flags fuel folds s
      else fail .unknownFlag

def substitution : Read Substitution := do
  match ← next? with
  | none => fail .openSubstitution
  | some mark =>
    let text ← upTo mark true .openSubstitution
    let replacement ← upTo mark false .openSubstitution
    let parts := parts (replacement.length + 1) replacement
    let (s, folds) ← flags ((← get).rest.length + 1) false { sought := { expression := none }, parts }
    let sought ← sought text folds
    for part in parts do
      match part, sought.expression with
      | .group n, some e => if e.groups < n then fail (.badGroup n)
      | _, _ => pure ()
    return { s with sought }

/-- The characters of a side of an exchange. -/
def exchangeChars : List Char → List Char
  | '\\' :: '\\' :: rest => '\\' :: exchangeChars rest
  | '\\' :: c :: rest =>
    match Regex.escapedChar? c with
    | some d => d :: exchangeChars rest
    | none => '\\' :: c :: exchangeChars rest
  | c :: rest => c :: exchangeChars rest
  | [] => []

def exchange : Read (List (Char × Char)) := do
  match ← next? with
  | none => fail .openTranslation
  | some mark =>
    let text ← upTo mark false .openTranslation
    let others ← upTo mark false .openTranslation
    let (a, b) := (exchangeChars text, exchangeChars others)
    if a.length != b.length then fail .unequal
    commandEnd
    return a.zip b

/-- What a command does, from behind its letter. -/
def action (chosen : Selection) (letter : Char) : Read Action := do
  let plain := fun (a : Action) => do
    commandEnd
    return a
  let count := fun (otherwise : Nat) => do
    let _ ← takeWhile isGap
    if (← get).rest.head?.any Char.isDigit then number else pure otherwise
  match letter with
  | 'a' => return .append (← readText)
  | 'i' => return .insert (← readText)
  | 'c' => return .change (← readText)
  | '=' => plain .number
  | 'd' => plain .delete
  | 'D' => plain .deleteFirst
  | 'F' => plain .fileName
  | 'g' => plain (.fetch false)
  | 'G' => plain (.fetch true)
  | 'h' => plain (.keep false)
  | 'H' => plain (.keep true)
  | 'n' => plain (.next false)
  | 'N' => plain (.next true)
  | 'p' => plain .print
  | 'P' => plain .printFirst
  | 'x' => plain .swap
  | 'z' => plain .clear
  | 'l' =>
    let _ ← takeWhile isGap
    let width ← if (← get).rest.head?.any Char.isDigit then some <$> number else pure none
    plain (.list width)
  | 'q' | 'Q' =>
    if chosen.bound.isSome then fail .oneAddress
    let code ← count 0
    plain (.quit code (letter == 'Q'))
  | 'r' => return .readFile (← fileName)
  | 'w' => return .writeFile (← fileName) false
  | 'W' => return .writeFile (← fileName) true
  | 's' => return .substitute (← substitution)
  | 'y' => return .translate (← exchange)
  | 'b' | 't' | 'T' =>
    let occasion : Occasion := if letter == 'b' then .always else if letter == 't' then .replaced else .kept
    let name ← labelText (· == '\x7d')
    plain (.branch occasion name)
  | ':' =>
    if chosen.first.isSome then fail (.addressed ": doesn't want any addresses")
    let name ← labelText fun _ => false
    if name.isEmpty then fail .noLabel
    return .label name
  | 'v' =>
    let _ ← labelText fun _ => false
    plain .nothing
  | 'e' | 'R' => fail .uncovered
  | c => fail (.unknownCommand c)

def push (selection : Selection) (action : Action) : Read Unit :=
  modify fun r => { r with steps := r.steps.push ⟨selection, action⟩ }

/-- Reads one command. -/
def command : Read Unit := do
  let (chosen, c) ← selection
  match c with
  | none => fail .noCommand
  | some '#' =>
    if chosen.first.isSome then fail (.addressed "comments don't accept any addresses")
    let comment ← takeWhile (· != '\n')
    if comment == ['n'] && (← get).index == 2 then modify fun r => { r with silent := true }
  | some '\x7b' =>
    modify fun r => { r with blocks := r.steps.size :: r.blocks }
    push chosen (.opening 0)
  | some '\x7d' =>
    match (← get).blocks with
    | [] => fail .strayClosing
    | start :: blocks =>
      if chosen.first.isSome then fail (.addressed "\x7d doesn't want any addresses")
      commandEnd
      modify fun r => { r with
        blocks, steps := r.steps.modify start fun s => { s with action := .opening (r.steps.size + 1) } }
      push {} .closing
  | some c =>
    let what ← action chosen c
    push chosen what

/-- Reads commands to the end. The fuel bounds their number. -/
def commands : Nat → Read Unit
  | 0 => return ()
  | fuel + 1 => do
    let _ ← takeWhile fun c => c == ';' || Format.isSpace c
    if (← get).rest.isEmpty then return ()
    command
    commands fuel

/-- The index of a label. -/
def labelIndex? (steps : Array Step) (name : String) : Option Nat :=
  steps.findIdx? fun s => match s.action with | .label n => n == name | _ => false

/-- The label of a branch that leads nowhere. -/
def lostLabel? (steps : Array Step) : Option String :=
  steps.toList.findSome? fun s =>
    match s.action with
    | .branch _ name => if name.isEmpty || (labelIndex? steps name).isSome then none else some name
    | _ => none

end Toolwrap.Shell.Edit
