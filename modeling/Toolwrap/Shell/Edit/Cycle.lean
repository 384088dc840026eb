import Toolwrap.Shell.Edit.Basic
import Toolwrap.Text.Bytes
/-!
How a script edits lines. In each cycle a line is fetched, the steps are taken in order, and what has
become of the line is printed. Between cycles, a second text is kept.
-/
namespace Toolwrap.Shell.Edit

/-- A line that is to be edited. -/
structure Line where
  text : List Char
  /-- whether a line end stands behind it -/
  closed : Bool
  number : Nat
  isLast : Bool
  file : String
deriving Inhabited

/-- What is the same for all lines. -/
structure Setting where
  steps : Array Step
  /-- lines are printed only by steps -/
  silent : Bool
  /-- the character that ends lines -/
  stop : Char
  /-- the width of lists -/
  width : Nat
  /-- what is printed goes back into the files -/
  inPlace : Bool
  /-- the texts of files that steps read -/
  contents : String → Option String

/-- What is printed at the end of a cycle. -/
inductive Queued where
  | text (t : List Char)
  | file (name : String)

structure Editor where
  /-- the text that is edited -/
  pattern : List Char := []
  /-- the text that is kept -/
  hold : List Char := []
  line : Line
  rest : List Line
  /-- whether something was replaced since a line was fetched -/
  replaced : Bool := false
  /-- the steps within whose ranges the line is, with the last line of the range if it is known -/
  ranges : List (Nat × Option Nat) := []
  queue : List Queued := []
  /-- what was printed, the last piece first, with the file that it goes to -/
  output : List (String × List Char) := []
  /-- whether the last line that was printed lacks its end -/
  pending : Bool := false
  /-- what was looked for last -/
  sought : Option (Expression × Bool) := none

abbrev Editing := StateT Editor (Except Fault)

/-- Where editing goes on. -/
inductive Onward where
  | step (index : Nat)
  /-- with the next line; what was edited may be printed first -/
  | cycle (prints : Bool)
  /-- with what is left of the text -/
  | again
  | finish (code : Nat)

namespace Editing

/-- Prints to a file, or to the output if the name is empty. -/
def emitTo (file : String) (text : List Char) : Editing Unit :=
  modify fun e => { e with output := (file, text) :: e.output }

/-- Prints; a line end that is missing comes first. -/
def emit (S : Setting) (text : List Char) : Editing Unit := do
  let e ← get
  let file := if S.inPlace then e.line.file else ""
  if e.pending then emitTo file [S.stop]
  emitTo file text
  modify fun e => { e with pending := false }

/-- Prints a line, which has no end if the line that was fetched has none. -/
def emitLine (S : Setting) (text : List Char) : Editing Unit := do
  if (← get).line.closed then emit S (text ++ [S.stop])
  else
    emit S text
    modify fun e => { e with pending := true }

def flush (S : Setting) : Editing Unit := do
  let queue := (← get).queue.reverse
  modify fun e => { e with queue := [] }
  for q in queue do
    match q with
    | .text t => emit S t
    | .file name =>
      match S.contents name with
      | some text => if !text.isEmpty then emit S text.toList
      | none => pure ()

/-- The expression that is looked for. -/
def expression (what : Sought) : Editing (Expression × Bool) := do
  match what.expression, (← get).sought with
  | some e, _ =>
    modify fun s => { s with sought := some (e, what.folds) }
    return (e, what.folds)
  | none, some found => return found
  | none, none => throw .noExpression

def holds (what : Sought) : Editing Bool := do
  let (e, folds) ← expression what
  return (e.regex.search folds (← get).pattern).isSome

def fits : Address → Editing Bool
  | .line n => return (← get).line.number == n
  | .every first step => do
    let n := (← get).line.number
    return first ≤ n && (n - first) % step == 0
  | .last => return (← get).line.isLast
  | .holding what => holds what

/-- Whether a step within a range still applies; the range may end here. -/
def inRange (index : Nat) (bound : Bound) (last : Option Nat) : Editing Bool := do
  let leave := modify fun e => { e with ranges := e.ranges.filter fun r => r.1 != index }
  let n := (← get).line.number
  match last, bound with
  | some last, _ =>
    if last ≤ n then leave
    return n ≤ last
  | none, .address a =>
    if ← fits a then leave
    return true
  | none, _ => return true

/-- Whether a step applies at the line. -/
def selects (index : Nat) (s : Selection) : Editing Bool := do
  match s.first with
  | none => return !s.turned
  | some first =>
    let e ← get
    let isFirstZero := match first with | .line 0 => true | _ => false
    let inside := (e.ranges.find? fun r => r.1 == index).map (·.2)
    let inside := if isFirstZero && e.line.number == 1 && inside.isNone then some none else inside
    if isFirstZero && e.line.number == 1 then modify fun e => { e with ranges := (index, none) :: e.ranges }
    let chosen ← match s.bound, inside with
      | some bound, some last => inRange index bound last
      | none, _ => fits first
      | some bound, none =>
        if !(← fits first) then pure false
        else
          let n := e.line.number
          let last := match bound with
            | .address (.line m) => some m
            | .more m => some (n + m)
            | .multiple 0 => some n
            | .multiple m => some ((n + m - 1) / m * m)
            | .address _ => none
          if last.all (n < ·) then modify fun e => { e with ranges := (index, last) :: e.ranges }
          pure true
    return chosen != s.turned

end Editing

/-! Replacements. -/

/-- How letters of a text are changed: all, and the first one. -/
structure Casing where
  all : Option Recasing := none
  one : Option Recasing := none

def recased (r : Option Recasing) (c : Char) : Char :=
  match r with
  | some .upper | some .upperOne => Text.upperChar c
  | some .lower | some .lowerOne => Text.lowerOne c
  | _ => c

/-- What is put in for a match. -/
def replacement (m : Regex.Match) : Casing → List Part → List Char
  | _, [] => []
  | casing, .recase r :: rest =>
    match r with
    | .upper | .lower => replacement m { casing with all := some r } rest
    | .stop => replacement m {} rest
    | .upperOne | .lowerOne => replacement m { casing with one := some r } rest
  | casing, .char c :: rest =>
    recased (casing.one.orElse fun _ => casing.all) c :: replacement m { casing with one := none } rest
  | casing, .group n :: rest =>
    match (m.group? n).getD [] with
    | [] => replacement m casing rest
    | c :: cs =>
      recased (casing.one.orElse fun _ => casing.all) c :: cs.map (recased casing.all) ++
        replacement m { casing with one := none } rest

/-- The text with its matches replaced, from an index on, and whether any was. `count` matches were passed,
and the last one ended at `ended`, where no empty one may follow. The fuel bounds the number of matches. -/
def replaced (s : Substitution) (regex : Regex) (folds : Bool) :
    Nat → (count index : Nat) → Option Char → (ended : Option Nat) → List Char → List Char × Bool
  | 0, _, _, _, _, rest => (rest, false)
  | fuel + 1, count, index, before, ended, rest =>
    match regex.searchFrom folds index before rest with
    | none => (rest, false)
    | some m =>
      let lead := rest.take (m.start - index)
      let skips := m.text.isEmpty && ended == some m.start
      let count := if skips then count else count + 1
      let hits := !skips && s.nth ≤ count
      let put := if hits then replacement m {} s.parts else m.text
      if hits && !s.all then (lead ++ put ++ m.rest, true)
      else if m.text.isEmpty then
        match m.rest with
        | [] => (lead ++ put, hits)
        | c :: after =>
          let (more, any) := replaced s regex folds fuel count (m.start + 1) (some c) none after
          (lead ++ put ++ c :: more, hits || any)
      else
        let stop := m.start + m.text.length
        let (more, any) := replaced s regex folds fuel count stop m.before (some stop) m.rest
        (lead ++ put ++ more, hits || any)

/-! Lists. -/

/-- How a character is shown in a list. -/
def listed (stop : Char) (c : Char) : List Char :=
  match c with
  | '\\' => ['\\', '\\']
  | '\x07' => ['\\', 'a']
  | '\x08' => ['\\', 'b']
  | '\x0c' => ['\\', 'f']
  | '\n' => if stop == '\n' then ['\\', 'n'] else ['\n']
  | '\r' => ['\\', 'r']
  | '\t' => ['\\', 't']
  | '\x0b' => ['\\', 'v']
  | c =>
    if 32 ≤ c.toNat && c.toNat < 127 then [c]
    else
      (Text.bytesOf c).flatMap fun b =>
        let digits := Nat.toDigits 8 b
        '\\' :: List.replicate (3 - digits.length) '0' ++ digits

/-- Pieces in lines of a width, each but the last with a backslash at its end. -/
def folded (width : Nat) : Nat → List (List Char) → List Char
  | _, [] => []
  | used, piece :: rest =>
    if width != 0 && width < used + piece.length + 1 then
      '\\' :: '\n' :: piece ++ folded width piece.length rest
    else piece ++ folded width (used + piece.length) rest

/-! Steps. -/

open Editing

/-- Fetches the next line, alone or behind what is there. -/
def fetchNext (S : Setting) (adding : Bool) : Editing Unit :=
  modify fun e =>
    match e.rest with
    | [] => e
    | next :: rest =>
      { e with
        line := next, rest, replaced := false
        pending := e.pending && !(S.inPlace && next.file != e.line.file)
        pattern := if adding then e.pattern ++ S.stop :: next.text else next.text }

def perform (S : Setting) (index : Nat) (action : Action) : Editing Onward := do
  let e ← get
  let onward := Onward.step (index + 1)
  match action with
  | .opening _ | .closing | .label _ | .nothing => return onward
  | .branch occasion label =>
    let taken := match occasion with
      | .always => true
      | .replaced => e.replaced
      | .kept => !e.replaced
    if occasion != .always then set { e with replaced := false }
    if !taken then return onward
    if label.isEmpty then return .cycle true
    return .step ((S.steps.findIdx? fun s => match s.action with | .label n => n == label | _ => false).getD 0)
  | .append text =>
    set { e with queue := .text text :: e.queue }
    return onward
  | .insert text =>
    emit S text
    return onward
  | .change text =>
    if !(e.ranges.any fun r => r.1 == index) then emit S text
    return .cycle false
  | .delete => return .cycle false
  | .deleteFirst => return if e.pattern.contains S.stop then .again else .cycle false
  | .number =>
    emit S ((toString e.line.number).toList ++ ['\n'])
    return onward
  | .fileName =>
    emit S (e.line.file.toList ++ ['\n'])
    return onward
  | .fetch adding =>
    set { e with pattern := if adding then e.pattern ++ S.stop :: e.hold else e.hold }
    return onward
  | .keep adding =>
    set { e with hold := if adding then e.hold ++ S.stop :: e.pattern else e.pattern }
    return onward
  | .swap =>
    set { e with pattern := e.hold, hold := e.pattern }
    return onward
  | .list width =>
    emit S (folded (width.getD S.width) 0 (e.pattern.map (listed S.stop)) ++ ['$', '\n'])
    return onward
  | .next adding =>
    if e.line.isLast then return .cycle true
    if !adding && !S.silent then emitLine S e.pattern
    flush S
    fetchNext S adding
    return onward
  | .print =>
    emitLine S e.pattern
    return onward
  | .printFirst =>
    emit S (e.pattern.takeWhile (· != S.stop) ++ [S.stop])
    return onward
  | .quit code quietly =>
    if !quietly then
      if !S.silent then emitLine S e.pattern
      flush S
    return .finish code
  | .readFile name =>
    set { e with queue := .file name :: e.queue }
    return onward
  | .writeFile name firstOnly =>
    write name (if firstOnly then e.pattern.takeWhile (· != S.stop) else e.pattern)
    return onward
  | .substitute s =>
    let (x, folds) ← expression s.sought
    let (text, any) := replaced s x.regex folds (e.pattern.length + 2) 0 0 none none e.pattern
    if any then
      modify fun e => { e with pattern := text, replaced := true }
      if s.prints then emitLine S text
      match s.file with
      | some name => write name text
      | none => pure ()
    return onward
  | .translate pairs =>
    set { e with pattern := e.pattern.map fun c => (pairs.lookup c).getD c }
    return onward
  | .clear =>
    set { e with pattern := [] }
    return onward
where
  write (name : String) (text : List Char) : Editing Unit :=
    if name == "/dev/stdout" then emitLine S text else emitTo name (text ++ [S.stop])

/-- Takes steps from an index on, to the end of all lines, and gives a code. The fuel bounds the number of
steps; there is no code if it does not suffice. -/
def run (S : Setting) : Nat → Nat → Editing (Option Nat)
  | 0, _ => return none
  | fuel + 1, index => do
    let onward ← match S.steps[index]? with
      | none => pure (.cycle true)
      | some step =>
        if ← selects index step.selection then perform S index step.action
        else
          match step.action with
          | .opening beyond => pure (.step beyond)
          | _ => pure (.step (index + 1))
    match onward with
    | .step next => run S fuel next
    | .finish code => return some code
    | .again =>
      flush S
      modify fun e => { e with pattern := (e.pattern.dropWhile (· != S.stop)).drop 1 }
      run S fuel 0
    | .cycle prints =>
      if prints && !S.silent then emitLine S (← get).pattern
      flush S
      if (← get).rest.isEmpty then return some 0
      fetchNext S false
      run S fuel 0

/-- What was printed to a file. -/
def Editor.printed (e : Editor) (file : String) : List Char :=
  ((e.output.filter fun o => o.1 == file).reverse.map (·.2)).flatten

end Toolwrap.Shell.Edit
