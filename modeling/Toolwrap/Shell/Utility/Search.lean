import Toolwrap.Shell.Regex.Reader
import Toolwrap.Shell.Utility.Basic
/-!
Lines that hold a match of a pattern. A line counts if it has a match of one of the patterns, or, turned
around, if it has none.
-/
namespace Toolwrap.Shell.Utility

/-- What is looked for. -/
structure Quest where
  regex : Regex
  folds : Bool := false
  /-- matches have to be words -/
  words : Bool := false
  /-- matches have to be lines -/
  whole : Bool := false
  /-- lines without a match count -/
  turned : Bool := false

/-- A match at a place of a line: where it begins, its text, the character before its end and what follows. -/
structure Hit where
  start : Nat
  text : List Char
  before : Option Char
  rest : List Char

namespace Quest

/-- Whether a way may end where it does, behind the character before its start. -/
def allows (q : Quest) (start : Nat) (before : Option Char) (w : Regex.Way) : Bool :=
  let isWord := fun (c : Option Char) => c.any Regex.isWordChar
  (!q.words || (!isWord before && !isWord w.rest.head?)) && (!q.whole || (start == 0 && w.rest.isEmpty))

/-- The first match from an index on. -/
def hitFrom (q : Quest) (index : Nat) (before : Option Char) : List Char → Option Hit
  | [] => at_ []
  | c :: s =>
    match at_ (c :: s) with
    | some hit => some hit
    | none => hitFrom q (index + 1) (some c) s
where
  at_ (s : List Char) : Option Hit :=
    (Regex.longest ((q.regex.ways q.folds ⟨index, before, s, []⟩).filter (q.allows index before))).map fun w =>
      ⟨index, s.take (w.index - index), w.before, w.rest⟩

/-- All matches of a line that hold a character, one behind the other. The fuel bounds their number. -/
def hits (q : Quest) : Nat → Nat → Option Char → List Char → List Hit
  | 0, _, _, _ => []
  | fuel + 1, index, before, s =>
    match q.hitFrom index before s with
    | none => []
    | some hit =>
      if hit.text.isEmpty then
        match hit.rest with
        | c :: rest => hits q fuel (hit.start + 1) (some c) rest
        | [] => []
      else hit :: hits q fuel (hit.start + hit.text.length) hit.before hit.rest

def selects (q : Quest) (line : List Char) : Bool := (q.hitFrom 0 none line).isSome != q.turned

end Quest

/-- A text that stands for itself. -/
def literal (s : List Char) : Regex := s.foldl (fun r c => .seq r (.char c)) .empty

/-- What is shown of the lines that count. -/
structure Display where
  named : Bool
  numbered : Bool
  offsets : Bool
  only : Bool
  before : Nat
  after : Nat

/-- A line with its number and the number of bytes before it. -/
structure Spot where
  number : Nat
  offset : Nat
  line : List Char

def spots : Nat → Nat → List (List Char) → List Spot
  | _, _, [] => []
  | n, offset, line :: rest => ⟨n, offset, line⟩ :: spots (n + 1) (offset + (Text.bytes line).length + 1) rest

/-- What stands in front of a line. -/
def Display.lead (d : Display) (name : String) (number offset : Nat) (mark : String) : String :=
  (if d.named then name ++ mark else "") ++ (if d.numbered then toString number ++ mark else "") ++
    if d.offsets then toString offset ++ mark else ""

/-- The lines to be shown: those that count and their surroundings, with a mark where some are left out.
`last` is the number of the last line that was shown. -/
def Display.lines (d : Display) (name : String) (q : Quest) (counted : List Nat) (last : Option Nat) :
    List Spot → List String
  | [] => []
  | s :: rest =>
    let counts := counted.contains s.number
    let near := counts || counted.any fun n =>
      (n < s.number && s.number ≤ n + d.after) || (s.number < n && n ≤ s.number + d.before)
    if !near then d.lines name q counted last rest
    else
      let gap := if (d.after != 0 || d.before != 0) && last.any (fun n => n + 1 != s.number) then ["--"] else []
      let these :=
        if d.only then
          if counts && !q.turned then
            (q.hits (s.line.length + 1) 0 none s.line).map fun h =>
              d.lead name s.number (s.offset + (Text.bytes (s.line.take h.start)).length) ":" ++ String.ofList h.text
          else []
        else [d.lead name s.number s.offset (if counts then ":" else "-") ++ String.ofList s.line]
      gap ++ these ++ d.lines name q counted (some s.number) rest

/-- The files in a directory and below, with their paths. The fuel bounds the depth. -/
def filesBelow (s : Session) : Nat → String → List String
  | 0, _ => []
  | fuel + 1, path =>
    match s.place path, s.entryAt? path with
    | .ok place, some .directory =>
      let base := if path.endsWith "/" then path else path ++ "/"
      (s.tree.children place).flatMap fun name => filesBelow s fuel (base ++ name)
    | _, _ => [path]

/-- A call that asks for what cannot be. -/
def searchMisused (message : Option String) : Run Nat := do
  match message with
  | some m => complain m
  | none => pure ()
  Run.print 2 ("Usage: " ++ (← get).arg0 ++ " [OPTION]... PATTERNS [FILE]...\n")
  hint
  return 2

def searchOptions : Options := {
  short := "EFGPe:f:iywxzsvVm:bnHhoqaI:d:D:rRLlcTZUA:B:C:", code := 2
  long := [("extended-regexp", "E"), ("fixed-strings", "F"), ("basic-regexp", "G"), ("perl-regexp", "P"),
    ("regexp", "e"), ("file", "f"), ("ignore-case", "i"), ("no-ignore-case", "no-ignore-case"), ("word-regexp", "w"),
    ("line-regexp", "x"), ("null-data", "z"), ("no-messages", "s"), ("invert-match", "v"), ("max-count", "m"),
    ("byte-offset", "b"), ("line-number", "n"), ("line-buffered", "line-buffered"), ("with-filename", "H"),
    ("no-filename", "h"), ("only-matching", "o"), ("quiet", "q"), ("silent", "q"), ("text", "a"),
    ("recursive", "r"), ("files-without-match", "L"), ("files-with-matches", "l"), ("count", "c"),
    ("initial-tab", "T"), ("null", "Z"), ("after-context", "A"), ("before-context", "B"), ("context", "C"),
    ("color", "color"), ("colour", "color"), ("label", "label"), ("include", "include"), ("exclude", "exclude")]
  valued := ["label", "include", "exclude"], optionally := ["color"] }

/-- The patterns of a call, and the operands that are files; none if there is no pattern. -/
def questTexts (call : Call) : Run (Except String (List String × List String)) := do
  let mut found := []
  for (key, value) in call.options do
    if key == "e" then found := found ++ Text.splitAt '\n' (value.getD "")
    if key == "f" then
      match ← textOf (value.getD "") with
      | .ok text => found := found ++ linesOf text
      | .error fault => return .error (value.getD "" ++ ": " ++ fault.message)
  if call.has "e" || call.has "f" then return .ok (found, call.operands)
  match call.operands with
  | [] => return .error ""
  | pattern :: files => return .ok (Text.splitAt '\n' pattern, files)

/-- The expression of patterns, of which one has to match. -/
def questRegex (style : Option Regex.Style) (patterns : List String) : Except Regex.Fault (Option Regex) := do
  let regexes ← patterns.mapM fun p =>
    match style with
    | none => .ok (literal p.toList)
    | some style => (Regex.read style p.toList).map (·.regex)
  match regexes with
  | [] => return none
  | r :: rest => return some (rest.foldl .either r)

/-- A number behind a dash says how many lines around a match are shown. -/
def withContexts (args : List String) : List String :=
  args.flatMap fun word =>
    match word.toList with
    | '-' :: cs =>
      let digits := cs.takeWhile Char.isDigit
      let letters := cs.drop digits.length
      if digits.isEmpty then [word]
      else "-C" :: String.ofList digits :: if letters.isEmpty then [] else [String.ofList ('-' :: letters)]
    | _ => [word]

/-- Looks for patterns in texts; `kind` says how the patterns are written unless options do. -/
def search (kind : String) : Utility := fun _ args => do
  modify fun s => { s with arg0 := "grep" }
  match searchOptions.read (withContexts args) with
  | .error misuse => searchMisused (some misuse.message)
  | .ok call =>
    if ["help", "version", "P", "z", "T", "Z", "d", "D", "I", "include", "exclude"].any call.has ||
        (call.value? "color").any (· == "always") then
      throw (.unsupported "grep")
    let number := fun (key : String) => ((call.value? key).map String.toNat?)
    match ← questTexts call with
    | .error "" => searchMisused none
    | .error message => fail 2 message
    | .ok (patterns, files) =>
      let nothing := number "m" == some (some 0) || (patterns == [""] && call.has "v" && !call.has "x" && !call.has "w")
      if nothing && !call.has "L" then return 1
      let kind := (call.last? ["E", "F", "G"]).getD kind
      let style : Option Regex.Style :=
        if kind == "F" then none else some { extended := kind == "E", strict := false }
      match questRegex style patterns with
      | .error fault => fail 2 fault.message
      | .ok regex =>
        let contexts := ["A", "B", "C"].filterMap fun k => (call.value? k)
        match contexts.find? fun v => v.toNat?.isNone, number "m" with
        | some v, _ => fail 2 (v ++ ": invalid context length argument")
        | none, some none => fail 2 "invalid max count"
        | none, most =>
          for p in patterns do
            for mark in (style.map fun w => Regex.idleMarks w p.toList).getD [] do
              complain ("warning: " ++ mark ++ " at start of expression")
          let around := ((number "C").getD (some 0)).getD 0
          let quest : Quest := {
            regex := regex.getD (.set false []), folds := call.has "i" || call.has "y"
            words := call.has "w", whole := call.has "x", turned := call.has "v" }
          let recursive := call.has "r" || call.has "R"
          let s ← get
          let paths :=
            if files.isEmpty then
              (if recursive then (filesBelow s 64 ".").map fun p => String.ofList (p.toList.drop 2) else ["-"])
            else if recursive then files.flatMap (filesBelow s 64)
            else files
          let several := match call.last? ["H", "h"] with
            | some k => k == "H"
            | none => 1 < files.length || recursive
          let display : Display := {
            named := several, numbered := call.has "n", offsets := call.has "b", only := call.has "o"
            before := ((number "B").getD (some around)).getD 0, after := ((number "A").getD (some around)).getD 0 }
          let mut found := false
          let mut failed := false
          let mut shownBefore := false
          for path in paths do
            if !(call.has "q" && found) then
              match ← textOf path with
              | .ok text =>
                if text.toList.any Text.isLoose then throw (.unsupported "grep")
                -- what holds null characters is no text, and they end its lines
                let isBinary := text.toList.contains '\x00' && !call.has "a"
                let text := if isBinary then String.ofList (text.toList.map fun c => if c == '\x00' then '\n' else c)
                  else text
                let name := if path == "-" then (call.value? "label").getD "(standard input)" else path
                let lines := spots 1 0 ((linesOf text).map String.toList)
                let counted := (lines.filter fun s => quest.selects s.line).map (·.number)
                let counted := match most with
                  | some (some m) => counted.take m
                  | _ => counted
                if !counted.isEmpty then found := true
                if call.has "q" then pure ()
                else if call.has "l" then
                  if !counted.isEmpty then outLines [name]
                else if call.has "L" then
                  if counted.isEmpty then outLines [name]
                else if call.has "c" then
                  outLines [(if several then name ++ ":" else "") ++ toString counted.length]
                else if isBinary then
                  if !counted.isEmpty then complain (name ++ ": binary file matches")
                else
                  let shown := display.lines name quest counted none lines
                  if shownBefore && !shown.isEmpty && (display.before != 0 || display.after != 0) then outLines ["--"]
                  if !shown.isEmpty then shownBefore := true
                  outLines shown
              | .error fault =>
                failed := true
                if !call.has "s" then complain (path ++ ": " ++ fault.message)
          return if failed && !(call.has "q" && found) then 2 else if found then 0 else 1

end Toolwrap.Shell.Utility
