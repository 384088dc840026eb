import Toolwrap.Shell.Regex.Reader
import Toolwrap.Shell.Utility.File
import Toolwrap.Shell.Utility.Name
import Toolwrap.Shell.Utility.Starting
/-!
A walk through directories. At each path an expression is worked out: it holds conditions on what is found
there, and actions, which are conditions as well.
-/
namespace Toolwrap.Shell.Utility

/-- How a number compares with the one that is given. -/
inductive Measure where
  | more | less | exactly
deriving DecidableEq, Repr

/-- What is asked of the rights of a path. -/
inductive RightsTest where
  | all | any | exactly
deriving DecidableEq, Repr

inductive Criterion where
  | always (b : Bool)
  | named (folds : Bool) (pattern : Pattern)
  | path (folds : Bool) (pattern : Pattern)
  | regex (folds : Bool) (e : Expression)
  | kind (letters : List Char)
  | empty
  | size (measure : Measure) (n unit : Nat)
  | executable
  /-- Rights that all have to be there, of which one does, or that are exactly the ones. -/
  | rights (measure : RightsTest) (bits : Nat)
  | print (stop : String)
  | printFormatted (format : String)
  /-- runs a program for each path -/
  | each (words : List String)
  /-- runs a program once with all paths; the number tells it from others -/
  | together (n : Nat) (words : List String)
  | delete
  | prune
  | quit
  | not (c : Criterion)
  | and (a b : Criterion)
  | or (a b : Criterion)
  /-- both, of which the second one counts -/
  | both (a b : Criterion)
deriving Inhabited

namespace Criterion

/-- Whether something is done, so that paths are not printed by themselves. -/
def acts : Criterion → Bool
  | print _ | printFormatted _ | each _ | together _ _ | delete | quit => true
  | not c => c.acts
  | and a b | or a b | both a b => a.acts || b.acts
  | _ => false

/-- Whether the entries of a directory come before it. -/
def needsDepth : Criterion → Bool
  | delete => true
  | not c => c.needsDepth
  | and a b | or a b | both a b => a.needsDepth || b.needsDepth
  | _ => false

end Criterion

/-- What is left of an expression, and what was found out about the walk as a whole. -/
structure FindReading where
  words : List String
  /-- the word before -/
  last : String := ""
  least : Nat := 0
  most : Option Nat := none
  depthFirst : Bool := false
  calls : Nat := 0

abbrev FindReader := StateT FindReading (Except String)

namespace FindReader

def peek? : FindReader (Option String) := return (← get).words.head?

def skip : FindReader Unit :=
  modify fun r => { r with words := r.words.drop 1, last := r.words.headD "" }

/-- The word behind a test. -/
def argument (test : String) : FindReader String := do
  match (← get).words with
  | w :: rest =>
    modify fun r => { r with words := rest, last := test }
    return w
  | [] => throw ("missing argument to \x60" ++ test ++ "'")

def depth (test : String) : FindReader Nat := do
  let w ← argument test
  if w.isEmpty || !w.toList.all Char.isDigit then
    throw ("Expected a positive decimal integer argument to " ++ test ++ ", but got " ++ curved w)
  return numberIn 10 w.toList

def pattern (test : String) : FindReader Pattern := do
  return Pattern.ofMarked false ((← argument test).toList.map fun c => (c, false))

/-- The words of a program that is to be run, and whether it is run once. -/
def program (test : String) : FindReader (List String × Bool) := do
  let ws := (← get).words
  let front := ws.takeWhile fun w => w != ";"
  let untilPlus := plusAt front
  match untilPlus, ws.drop front.length with
  | some words, _ =>
    modify fun r => { r with words := ws.drop (words.length + 2), last := "+" }
    return (words, true)
  | none, _ :: rest =>
    if front.isEmpty then throw ("missing argument to \x60" ++ test ++ "'")
    modify fun r => { r with words := rest, last := ";" }
    return (front, false)
  | none, [] => throw ("missing argument to \x60" ++ test ++ "'")
where
  /-- The words in front of a mark for the paths that a plus sign follows. -/
  plusAt : List String → Option (List String)
    | "\x7b\x7d" :: "+" :: _ => some []
    | w :: rest => (plusAt rest).map (w :: ·)
    | [] => none

/-- Bytes in a unit of sizes. -/
def unit? : Char → Option Nat
  | 'c' => some 1
  | 'w' => some 2
  | 'b' => some 512
  | 'k' => some 1024
  | 'M' => some (1024 * 1024)
  | 'G' => some (1024 * 1024 * 1024)
  | _ => none

def size (test : String) : FindReader Criterion := do
  let w ← argument test
  let (measure, body) := match w.toList with
    | '+' :: r => (Measure.more, r)
    | '-' :: r => (.less, r)
    | r => (.exactly, r)
  let digits := body.takeWhile Char.isDigit
  match digits.isEmpty, body.drop digits.length with
  | false, [] => return .size measure (numberIn 10 digits) 512
  | false, [c] =>
    match unit? c with
    | some unit => return .size measure (numberIn 10 digits) unit
    | none => throw ("invalid -size type \x60" ++ String.singleton c ++ "'")
  | _, _ => throw ("Invalid argument \x60" ++ w ++ "' to -size")

/-- The bits of a letter for rights. -/
def rightBits? : Char → Option Nat
  | 'r' => some 0o444
  | 'w' => some 0o222
  | 'x' => some 0o111
  | _ => none

/-- The bits of those whom a letter names. -/
def whoseBits? : Char → Option Nat
  | 'u' => some 0o700
  | 'g' => some 0o070
  | 'o' => some 0o007
  | 'a' => some 0o777
  | _ => none

/-- The rights that a word asks for, as octal digits or as clauses that add to none. -/
def rightsIn? (w : String) : Option Nat :=
  if !w.isEmpty && w.toList.all (fun c => '0' ≤ c && c ≤ '7') then some (numberIn 8 w.toList)
  else
    (Text.splitAt ',' w).foldlM (fun bits clause => do
      let letters := clause.toList.takeWhile fun c => (whoseBits? c).isSome
      let whose ← letters.foldlM (fun b c => do return b ||| (← whoseBits? c)) 0
      match clause.toList.drop letters.length with
      | sign :: rights =>
        if sign != '+' && sign != '=' then none
        let rights ← rights.foldlM (fun b c => do return b ||| (← rightBits? c)) 0
        return bits ||| ((if letters.isEmpty then 0o777 else whose) &&& rights)
      | [] => none) 0

def rights (test : String) : FindReader Criterion := do
  let w ← argument test
  let (measure, body) := match w.toList with
    | '-' :: r => (RightsTest.all, r)
    | '/' :: r => (.any, r)
    | r => (.exactly, r)
  match rightsIn? (String.ofList body) with
  | some bits => return .rights measure bits
  | none => throw ("invalid mode " ++ curved w)

/-- A test by its name, which was passed; none if it is not covered. -/
def test (name : String) : FindReader (Option Criterion) := do
  match name with
  | "-name" => some <$> .named false <$> pattern name
  | "-iname" => some <$> .named true <$> pattern name
  | "-path" | "-wholename" => some <$> .path false <$> pattern name
  | "-ipath" | "-iwholename" => some <$> .path true <$> pattern name
  | "-regex" | "-iregex" =>
    match Regex.read { extended := false, strict := false } (← argument name).toList with
    | .ok e => return some (.regex (name == "-iregex") e)
    | .error _ => return none
  | "-type" | "-xtype" =>
    let w ← argument name
    let letters := Text.splitAt ',' w
    match letters.find? fun l => l ∉ ["b", "c", "d", "p", "f", "l", "s"] with
    | some l => throw ("Unknown argument to " ++ name ++ ": " ++ String.ofList (l.toList.take 1))
    | none => return some (.kind (letters.flatMap String.toList))
  | "-empty" => return some .empty
  | "-true" => return some (.always true)
  | "-false" => return some (.always false)
  | "-readable" | "-writable" => return some (.always true)
  | "-executable" => return some .executable
  | "-perm" => some <$> rights name
  | "-size" => some <$> size name
  | "-print" => return some (.print "\n")
  | "-print0" => return some (.print "\x00")
  | "-printf" => some <$> .printFormatted <$> argument name
  | "-delete" => return some .delete
  | "-prune" => return some .prune
  | "-quit" => return some .quit
  | "-exec" | "-execdir" =>
    if name == "-execdir" then return none
    let (words, once) ← program name
    if once then
      let n := (← get).calls
      modify fun r => { r with calls := n + 1 }
      return some (.together n words)
    else return some (.each words)
  | "-maxdepth" =>
    let n ← depth name
    modify fun r => { r with most := some n }
    return some (.always true)
  | "-mindepth" =>
    let n ← depth name
    modify fun r => { r with least := n }
    return some (.always true)
  | "-depth" | "-d" =>
    modify fun r => { r with depthFirst := true }
    return some (.always true)
  | "-xdev" | "-mount" | "-noleaf" | "-daystart" | "-warn" | "-nowarn" => return some (.always true)
  | _ => return none

/-- Tests that are known but not covered. -/
def uncovered : List String :=
  ["-amin", "-anewer", "-atime", "-cmin", "-cnewer", "-ctime", "-fls", "-fprint", "-fprint0", "-fprintf", "-fstype",
   "-gid", "-group", "-ilname", "-inum", "-links", "-lname", "-ls", "-mmin", "-mtime", "-newer", "-nogroup",
   "-nouser", "-ok", "-okdir", "-regextype", "-samefile", "-uid", "-used", "-user", "-execdir", "-regex",
   "-iregex", "-follow", "-files0-from", "-context", "-help", "--help", "-version", "--version"]

mutual

def primary : Nat → FindReader Criterion
  | 0 => throw ""
  | fuel + 1 => do
    match ← peek? with
    | none => throw ("expected an expression after '" ++ (← get).last ++ "'")
    | some w =>
      skip
      if w == "(" then
        if (← peek?) == some ")" then throw "invalid expression; empty parentheses are not allowed."
        let c ← list fuel
        match ← peek? with
        | some ")" =>
          skip
          return c
        | _ => throw "invalid expression; I was expecting to find a ')' somewhere but did not see one."
      else if w == ")" then throw "invalid expression; you have too many ')'"
      else if w == "!" || w == "-not" then return .not (← primary fuel)
      else if ["-o", "-or", "-a", "-and", ","].contains w then
        throw ("invalid expression; you have used a binary operator " ++ curved w ++ " with nothing before it.")
      else
        match ← test w with
        | some c => return c
        | none =>
          if uncovered.contains w then throw ""
          else if w.startsWith "-" then throw ("unknown predicate \x60" ++ w ++ "'")
          else throw ("paths must precede expression: \x60" ++ w ++ "'")

def conjunction : Nat → FindReader Criterion
  | 0 => throw ""
  | fuel + 1 => do
    let a ← primary fuel
    match ← peek? with
    | none => return a
    | some w =>
      if ["-o", "-or", ",", ")"].contains w then return a
      if w == "-a" || w == "-and" then skip
      return .and a (← conjunction fuel)

def disjunction : Nat → FindReader Criterion
  | 0 => throw ""
  | fuel + 1 => do
    let a ← conjunction fuel
    match ← peek? with
    | some w =>
      if w == "-o" || w == "-or" then
        skip
        return .or a (← disjunction fuel)
      return a
    | none => return a

def list : Nat → FindReader Criterion
  | 0 => throw ""
  | fuel + 1 => do
    let a ← disjunction fuel
    match ← peek? with
    | some "," =>
      skip
      return .both a (← list fuel)
    | _ => return a

end

/-- A whole expression. -/
def whole : FindReader Criterion := do
  let n := (← get).words.length
  if n == 0 then return .always true
  let c ← list (4 * n + 8)
  match ← peek? with
  | none => return c
  | some _ => throw "you have too many ')'"

end FindReader

/-- Where a walk is: a path, what it says about the start, and how deep it is. -/
structure Found where
  path : String
  start : String
  depth : Nat

def Found.name (f : Found) : String := lastOf f.path f.path

/-- What has happened on a walk. -/
structure Walk where
  /-- the paths for programs that are run once, the last one first -/
  gathered : List (Nat × String) := []
  pruned : Bool := false
  stopped : Bool := false
  failed : Bool := false

abbrev Walking := StateT Walk Run

namespace Walking

/-- The text of a format for a path; none if it asks for what is not covered. -/
def formatted (s : Session) (f : Found) : List Char → Option String
  | [] => some ""
  | '\\' :: c :: rest => do
    let d ← match c with
      | 'n' => some "\n"
      | 't' => some "\t"
      | '0' => some "\x00"
      | '\\' => some "\\"
      | _ => none
    return d ++ (← formatted s f rest)
  | '%' :: c :: rest => do
    let e ← s.entryAt? f.path
    let fact ← match c, e with
      | 'p', _ => some f.path
      | 'f', _ => some f.name
      | 'h', _ => some (if f.path.toList.contains '/' then directoryOf f.path else ".")
      | 'P', _ => some (String.ofList ((f.path.toList.drop f.start.length).dropWhile (· == '/')))
      | 'd', _ => some (toString f.depth)
      | 'y', .directory => some "d"
      | 'y', .file _ _ => some "f"
      | 's', .file text _ => some (toString (Text.bytes text.toList).length)
      | 'm', .directory => some "755"
      | 'm', .file _ x => some (if x then "755" else "644")
      | 'u', _ => some "root"
      | 'g', _ => some "root"
      | '%', _ => some "%"
      | _, _ => none
    return fact ++ (← formatted s f rest)
  | c :: rest => do return String.singleton c ++ (← formatted s f rest)

/-- Words with a path in place of each mark. -/
def filled (path : String) (words : List String) : List String :=
  words.map fun w => path.intercalate (w.splitOn "\x7b\x7d")

def runProgram (E : Engine) (words : List String) : Run Nat := do
  let s ← get
  let code ← launch E (environment s) words fun name fault => do
    complain (curved name ++ ": " ++ startFaultText fault)
    return 1
  return code

/-- Works an expression out at a path. -/
def holds (E : Engine) (f : Found) : Criterion → Walking Bool
  | .always b => return b
  | .named folds p =>
    let trimmed := (f.path.toList.reverse.dropWhile (· == '/')).reverse
    let name := if trimmed.isEmpty then "/" else lastOf (String.ofList trimmed) f.path
    return p.fits folds name.toList
  | .path folds p => return p.fits folds f.path.toList
  | .regex folds e => return e.regex.fitsAll folds f.path.toList
  | .kind letters => do
    let s ← getThe Session
    return match s.entryAt? f.path with
      | some .directory => letters.contains 'd'
      | some (.file _ _) => letters.contains 'f'
      | none => false
  | .empty => do
    let s ← getThe Session
    return match s.place f.path, s.entryAt? f.path with
      | .ok place, some .directory => isEmptyDirectory s place
      | _, some (.file text _) => text.isEmpty
      | _, _ => false
  | .size measure n unit => do
    let s ← getThe Session
    match s.entryAt? f.path with
    | some (.file text _) =>
      let bytes := (Text.bytes text.toList).length
      let size := (bytes + unit - 1) / unit
      return match measure with
        | .more => n < size
        | .less => size < n
        | .exactly => size == n
    | _ => throw (.unsupported "find -size")
  | .executable => do
    let s ← getThe Session
    return match s.entryAt? f.path with
      | some (.file _ x) => x
      | some .directory => true
      | none => false
  | .rights measure bits => do
    let s ← getThe Session
    let mode := match s.entryAt? f.path with
      | some (.file _ false) => 0o644
      | _ => 0o755
    return match measure with
      | .all => mode &&& bits == bits
      | .any => bits == 0 || mode &&& bits != 0
      | .exactly => mode == bits
  | .print stop => do
    out (f.path ++ stop)
    return true
  | .printFormatted format => do
    match formatted (← getThe Session) f format.toList with
    | some text =>
      out text
      return true
    | none => throw (.unsupported "find -printf")
  | .each words => return (← runProgram E (filled f.path words)) == 0
  | .together n _ => do
    modify fun w => { w with gathered := (n, f.path) :: w.gathered }
    return true
  | .delete => do
    let s ← getThe Session
    match s.place f.path, s.entryAt? f.path with
    | .ok place, some e =>
      if f.path == "." then return true
      if e == .directory && !isEmptyDirectory s place then
        complain ("cannot delete " ++ curved f.path ++ ": Directory not empty")
        modify fun w => { w with failed := true }
        return false
      modifyThe Session fun s => { s with tree := s.tree.erase place }
      return true
    | _, _ => return false
  | .prune => do
    modify fun w => { w with pruned := true }
    return true
  | .quit => do
    modify fun w => { w with stopped := true }
    return true
  | .not c => return !(← holds E f c)
  | .and a b => do if ← holds E f a then holds E f b else return false
  | .or a b => do if ← holds E f a then return true else holds E f b
  | .both a b => do
    discard (holds E f a)
    holds E f b

/-- Visits a path and what is below it. The fuel bounds the depth. -/
def visit (E : Engine) (r : FindReading) (depthFirst : Bool) (c : Criterion) : Nat → Found → Walking Unit
  | 0, _ => return ()
  | fuel + 1, f => do
    if (← get).stopped then return ()
    let here := do
      if r.least ≤ f.depth && !(← get).stopped then discard (holds E f c)
    let s ← getThe Session
    let names := match s.place f.path, s.entryAt? f.path with
      | .ok place, some .directory => if r.most.any (· ≤ f.depth) then [] else s.tree.children place
      | _, _ => []
    modify fun w => { w with pruned := false }
    if !depthFirst then here
    if depthFirst || !(← get).pruned then
      let base := if f.path.endsWith "/" then f.path else f.path ++ "/"
      for name in names do
        visit E r depthFirst c fuel ⟨base ++ name, f.start, f.depth + 1⟩
    if depthFirst then here

end Walking

/-- The programs that are run once, with their numbers. -/
def Criterion.calls : Criterion → List (Nat × List String)
  | .together n words => [(n, words)]
  | .not c => c.calls
  | .and a b | .or a b | .both a b => a.calls ++ b.calls
  | _ => []

def find : Utility := fun E args => do
  let args := args.dropWhile fun a => a ∈ ["-H", "-L", "-P"]
  let isPath := fun (a : String) => !(a.startsWith "-" && a != "-") && a != "(" && a != "!" && a != ")" && a != ","
  let paths := args.takeWhile isPath
  match FindReader.whole.run { words := args.drop paths.length } with
  | .error "" => throw (.unsupported "find")
  | .error message => fail 1 message
  | .ok (c, r) =>
    let c := if c.acts then c else .and c (.print "\n")
    let mut walk : Walk := {}
    for path in (if paths.isEmpty then ["."] else paths) do
      let s ← get
      if (s.entryAt? path).isSome then
        let ((), next) ← (Walking.visit E r (r.depthFirst || c.needsDepth) c 100 ⟨path, path, 0⟩).run walk
        walk := next
      else if !walk.stopped then
        complain (curved path ++ ": " ++ (fileFault s path).message)
        walk := { walk with failed := true }
    for (n, words) in c.calls do
      let gathered := (walk.gathered.filter fun g => g.1 == n).reverse.map (·.2)
      if !gathered.isEmpty then
        if (← Walking.runProgram E (words ++ gathered)) != 0 then walk := { walk with failed := true }
    return if walk.failed then 1 else 0

end Toolwrap.Shell.Utility
