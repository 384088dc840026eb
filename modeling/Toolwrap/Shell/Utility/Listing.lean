import Toolwrap.Shell.Utility.Basic
/-!
Lists of the names in directories.
-/
namespace Toolwrap.Shell.Utility

/-- What a list shows, and in which order. -/
structure ListStyle where
  /-- names with a dot in front, too; with `dots`, also those of the directory itself and the one above -/
  hidden : Bool
  dots : Bool
  backup : Bool
  reversed : Bool
  unsorted : Bool
  bySize : Bool
  byEnding : Bool
  byVersion : Bool
  /-- marks behind directories, and behind programs -/
  slashes : Bool
  stars : Bool
  commas : Bool
  quoted : Bool
  recursive : Bool
  zero : Bool

/-- A text cut into runs of digits and of other characters. -/
def versionRuns : List Char → List (Bool × List Char)
  | [] => []
  | c :: rest =>
    match versionRuns rest with
    | [] => [(c.isDigit, [c])]
    | (digits, run) :: more =>
      if digits == c.isDigit then (digits, c :: run) :: more else (c.isDigit, [c]) :: (digits, run) :: more

/-- The order of a character in a version: a tilde first, then the end, letters, and the others. -/
def versionWeight (c : Char) : Nat :=
  if c == '~' then 0 else if c.isAlpha then 1 + c.toNat else 1000 + c.toNat

def weightsLe : List Char → List Char → Option Bool
  | [], [] => none
  | [], c :: _ => some (c != '~')
  | c :: _, [] => some (c == '~')
  | c :: cs, d :: ds =>
    if versionWeight c < versionWeight d then some true
    else if versionWeight d < versionWeight c then some false
    else weightsLe cs ds

/-- The order of versions: runs of digits count as numbers. -/
def versionLe : List (Bool × List Char) → List (Bool × List Char) → Option Bool
  | [], [] => none
  | [], _ => some true
  | _, [] => some false
  | (p, a) :: as, (q, b) :: bs =>
    if p && q then
      let m := numberIn 10 a
      let n := numberIn 10 b
      if m < n then some true else if n < m then some false else versionLe as bs
    else
      match weightsLe a b with
      | some answer => some answer
      | none => versionLe as bs

def versionBefore (a b : String) : Bool :=
  (versionLe (versionRuns a.toList) (versionRuns b.toList)).getD (decide (a ≤ b))

def sizeOf (s : Session) (path : String) : Nat :=
  match s.entryAt? path with
  | some (.file text _) => (Text.bytes text.toList).length
  | _ => 4096

def endingOf (name : String) : String :=
  let cs := name.toList
  if cs.contains '.' then String.ofList (cs.reverse.takeWhile (· != '.')).reverse else ""

namespace ListStyle

/-- Names in order; `path` leads from a name to its file. -/
def sorted (style : ListStyle) (s : Session) (path : String → String) (names : List String) : List String :=
  if style.unsorted then names
  else
    let byName := Text.sorted names
    let ordered :=
      if style.bySize then byName.mergeSort fun a b => decide (sizeOf s (path b) ≤ sizeOf s (path a))
      else if style.byEnding then byName.mergeSort fun a b => decide (endingOf a ≤ endingOf b)
      else if style.byVersion then byName.mergeSort versionBefore
      else byName
    if style.reversed then ordered.reverse else ordered

/-- A name as it is shown. -/
def shown (style : ListStyle) (s : Session) (path : String → String) (name : String) : String :=
  let text := if style.quoted then "\x22" ++ String.ofList (name.toList.flatMap quotedChar) ++ "\x22" else name
  match s.entryAt? (path name) with
  | some .directory => if style.slashes then text ++ "/" else text
  | some (.file _ true) => if style.stars then text ++ "*" else text
  | _ => text
where
  quotedChar (c : Char) : List Char :=
    if c == '\x22' || c == '\\' then ['\\', c]
    else if Requoted.isShown c then [c] else Requoted.escapedChar c

def lines (style : ListStyle) (items : List String) : String :=
  if style.commas then (if items.isEmpty then "" else ", ".intercalate items ++ "\n")
  else String.join (items.map (· ++ if style.zero then "\x00" else "\n"))

/-- The names in a directory. -/
def namesIn (style : ListStyle) (s : Session) (directory : String) : List String :=
  let all := match s.place directory with
    | .ok place => s.tree.children place
    | .error _ => []
  let all := if style.hidden then all else all.filter fun n => !n.startsWith "."
  let all := if style.backup then all.filter fun n => !n.endsWith "~" else all
  style.sorted s (fun n => directory ++ "/" ++ n) ((if style.dots then [".", ".."] else []) ++ all)

/-- Lists a directory and, if that is asked for, those below it. The fuel bounds the depth. -/
def directory (style : ListStyle) (headed first : Bool) : Nat → String → Run Unit
  | 0, _ => pure ()
  | fuel + 1, path => do
    let s ← get
    if !first then out "\n"
    if headed then out (path ++ ":\n")
    let names := style.namesIn s path
    let below := fun (n : String) => (if path.endsWith "/" then path else path ++ "/") ++ n
    out (style.lines (names.map (style.shown s below)))
    if style.recursive then
      for n in names do
        if n != "." && n != ".." && s.entryAt? (below n) == some .directory then
          directory style headed false fuel (below n)

end ListStyle

def listOptions : Options := {
  short := "abcdfghiklmnopqrstuvw:xABCDFGHI:LNQRST:UXZ1"
  long := [("all", "a"), ("almost-all", "A"), ("ignore-backups", "B"), ("directory", "d"), ("reverse", "r"),
    ("recursive", "R"), ("classify", "F"), ("color", "color"), ("quote-name", "Q"), ("literal", "N"),
    ("file-type", "file-type"), ("group-directories-first", "group-directories-first"), ("sort", "sort"),
    ("zero", "zero"), ("human-readable", "h"), ("size", "s"), ("inode", "i"), ("no-group", "G")]
  valued := ["sort"]
  optionally := ["color"]
  code := 2 }

def list : Utility := fun _ args =>
  withCall listOptions args fun call => do
    let uncovered := ["l", "g", "o", "n", "i", "s", "t", "c", "u", "C", "x", "b", "q", "Z", "group-directories-first"]
    let sort := (call.value? "sort").getD ""
    if uncovered.any call.has || ["time"].contains sort then throw (.unsupported "ls")
    let style : ListStyle := {
      hidden := call.has "a" || call.has "A" || call.has "f"
      dots := call.has "f" || call.last? ["a", "A"] == some "a"
      backup := call.has "B"
      reversed := call.has "r"
      unsorted := call.has "U" || call.has "f" || sort == "none"
      bySize := call.has "S" || sort == "size"
      byEnding := call.has "X" || sort == "extension"
      byVersion := call.has "v" || sort == "version"
      slashes := call.has "F" || call.has "p" || call.has "file-type"
      stars := call.has "F"
      commas := call.has "m"
      quoted := call.has "Q"
      recursive := call.has "R"
      zero := call.has "zero" }
    let s ← get
    let operands := if call.operands.isEmpty then ["."] else call.operands
    let mut files := []
    let mut directories := []
    let mut code := 0
    for path in operands do
      match s.entryAt? path with
      | some .directory =>
        if call.has "d" then files := path :: files else directories := path :: directories
      | some (.file _ _) => files := path :: files
      | none =>
        match deviceOf? s path with
        | some _ => files := path :: files
        | none =>
          complain ("cannot access " ++ quotedName path ++ ": " ++ (fileFault s path).message)
          code := 2
    let shownFiles := style.sorted s id files.reverse
    out (style.lines (shownFiles.map (style.shown s id)))
    let headed := style.recursive || 1 < operands.length
    let mut first := shownFiles.isEmpty
    for path in style.sorted s id directories.reverse do
      style.directory headed first 100 path
      first := false
    return code

end Toolwrap.Shell.Utility
