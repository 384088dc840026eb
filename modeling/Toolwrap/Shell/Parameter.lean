import Toolwrap.Shell.Calendar
import Toolwrap.Shell.Escape
import Toolwrap.Shell.Session
import Toolwrap.Shell.Spelling
/-!
Parameters: the variables together with what a shell knows of itself. A name of digits is an argument,
a single mark a fact about the run, and some names of variables are facts as well.
-/
namespace Toolwrap.Shell

/-- The release of the shell. -/
def shellRelease : List String := ["5", "2", "15", "1", "release", "x86_64-pc-linux-gnu"]

def numberedItems (xs : List String) : Content := .items ((List.range xs.length).zip xs)

namespace Session

/-- The names of the functions that are running, innermost first. -/
def runningNames (s : Session) : List String :=
  if s.isInFunction then
    s.frames.map (·.name) ++ (if s.origin.isNone then ["main"] else [])
  else []

/-- The letters of what is on. -/
def flagsText (s : Session) : String :=
  if s.isPlain then
    -- the plain shell lists its switches in an order of its own
    String.ofList (['u', 'v', 'x', 'C', 'n', 'f', 'e', 'a'].filter fun c =>
      (Switch.ofLetter? c).any s.has)
  else
    String.ofList (Switch.letters.filter fun c => (Switch.ofLetter? c).any s.has) ++
      String.ofList s.origin.toList

/-- What is on, of the switches of `set` or of `shopt`, in order. -/
def switchesText (s : Session) (names : List String) : String :=
  ":".intercalate (Text.sorted (names.filter fun n => s.has ⟨n⟩))

/-- A directory as it is shown: the home directory is a tilde. -/
def tildeText (s : Session) (path : String) : String :=
  match s.value? "HOME" with
  | some home =>
    if home.isEmpty || home == "/" then path
    else if path == home then "~"
    else if path.startsWith (home ++ "/") then "~" ++ String.ofList (path.toList.drop home.length)
    else path
  | none => path

/-- The facts that names of variables stand for. -/
def fact? (s : Session) (x : String) : Option Content :=
  if s.isPlain then none
  else
    match x with
    | "FUNCNAME" => if s.isInFunction then some (numberedItems s.runningNames) else some .declared
    | "BASH_SOURCE" =>
      some (numberedItems (s.frames.map (·.file) ++ (if s.origin.isNone then [s.arg0] else [])))
    | "BASH_LINENO" =>
      some (numberedItems (s.frames.map (fun f => toString f.line) ++ (if s.origin.isNone then ["0"] else [])))
    | "PIPESTATUS" => some (numberedItems (s.pipes.map toString))
    | "DIRSTACK" => some (numberedItems (s.hereText :: s.directories))
    | "BASH_VERSINFO" => some (numberedItems shellRelease)
    | "BASH_VERSION" => some (.text "5.2.15(1)-release")
    | "BASH" => some (.text "/usr/bin/bash")
    | "BASH_COMMAND" => s.current.map fun c => .text c.current
    | "BASH_SUBSHELL" => some (.text (toString s.depth))
    | "BASH_ARGV0" => some (.text s.arg0)
    | "SHELLOPTS" => some (.text (s.switchesText (Switch.options.map (·.1))))
    | "BASHOPTS" => some (.text (s.switchesText Switch.extras))
    | "GROUPS" => some (numberedItems ["0"])
    | "UID" => some (.text "0")
    | "EUID" => some (.text "0")
    | "LINENO" => some (.text (toString s.line))
    | "SECONDS" => some (.text (toString (s.clock / 1000000)))
    | "EPOCHSECONDS" => some (.text (toString (Calendar.now + s.clock / 1000000)))
    | "EPOCHREALTIME" => some (.text (toString Calendar.now ++ ".000000"))
    | "RANDOM" => some (.text "4")
    | "SRANDOM" => some (.text "4")
    | "BASHPID" => some (.text (toString (1 + s.depth)))
    | "PPID" => some (.text "0")
    | "HOSTNAME" => some (.text "localhost")
    | "HOSTTYPE" => some (.text "x86_64")
    | "OSTYPE" => some (.text "linux-gnu")
    | "MACHTYPE" => some (.text "x86_64-pc-linux-gnu")
    | _ => none

/-- The names of facts that keep their value. -/
def fixedFacts : List String := ["BASHOPTS", "BASH_VERSINFO", "EUID", "PPID", "SHELLOPTS", "UID"]

/-- The names of all facts. -/
def facts : List String :=
  ["BASH", "BASHOPTS", "BASHPID", "BASH_ARGV0", "BASH_COMMAND", "BASH_LINENO", "BASH_SOURCE", "BASH_SUBSHELL",
   "BASH_VERSINFO", "BASH_VERSION", "DIRSTACK", "EPOCHREALTIME", "EPOCHSECONDS", "EUID", "FUNCNAME", "GROUPS",
   "HOSTNAME", "HOSTTYPE", "LINENO", "MACHTYPE", "OSTYPE", "PIPESTATUS", "PPID", "RANDOM", "SECONDS",
   "SHELLOPTS", "SRANDOM", "UID"]

/-- What a name holds. -/
def contentOf (s : Session) (x : String) : Content :=
  let x := s.resolved x
  match s.find? x with
  | some v => v.content
  | none => (s.fact? x).getD .declared

/-- The value of a parameter that is not a list. -/
def special? (s : Session) (name : String) : Option String :=
  match name with
  | "#" => some (toString s.args.length)
  | "?" => some (toString s.status)
  | "$" => some "1"
  | "-" => some s.flagsText
  | "!" => s.lastJob.map toString
  | "_" => some s.lastWord
  | _ =>
    match if name.toList.all Char.isDigit then name.toNat? else none with
    | some 0 => some s.arg0
    | some n => s.args[n - 1]?
    | none => (s.contentOf name).value?

/-- An index that is negative counts from behind the last item. -/
def indexIn? (items : List (Nat × String)) (n : Int) : Option Nat :=
  let n := if n < 0 then Content.nextIndex items + n else n
  if n < 0 then none else some n.toNat

end Session

end Toolwrap.Shell

/-!
Tildes. A tilde without quotes at the front of a word, up to a slash or the end of the word, stands for a
directory. In the value of an assignment the same holds behind a colon.
-/
namespace Toolwrap.Shell.Tilde

/-- The directory that a tilde with a name behind it stands for. -/
def directory? (s : Session) (name : String) : Option String :=
  match name with
  | "" => some ((s.value? "HOME").getD "/root")
  | "+" => if s.isPlain then none else some (s.valueD "PWD")
  | "-" => if s.isPlain then none else s.value? "OLDPWD"
  | "root" => some "/root"
  | _ => none

/-- Where tildes count. -/
inductive Mode where
  | nowhere
  /-- at the front of a word -/
  | word
  /-- at the front of a value and behind colons -/
  | value
deriving DecidableEq, Repr

/-- Pieces of a text, and whether each one comes from a tilde. -/
abbrev Pieces := List (Bool × List Char)

/-- The pieces of a text at the front of a word; `closed` says whether the word ends behind the text, and
`colons` whether a colon ends a name. -/
def front (s : Session) (closed colons : Bool) (text : List Char) : Pieces :=
  match text with
  | '~' :: rest =>
    let name := rest.takeWhile fun c => c != '/' && !(colons && c == ':')
    let after := rest.drop name.length
    if after.isEmpty && !closed then [(false, text)]
    else
      match directory? s (String.ofList name) with
      | some directory => [(true, directory.toList), (false, after)]
      | none => [(false, text)]
  | _ => [(false, text)]

/-- The pieces of a text in the value of an assignment. -/
def valueText (s : Session) (first closed : Bool) (text : List Char) : Pieces :=
  match Text.Chars.splitAt ':' text with
  | [] => []
  | piece :: rest =>
    (if first then front s (closed || !rest.isEmpty) true piece else [(false, piece)]) ++ behind closed rest
where
  behind (closed : Bool) : List (List Char) → Pieces
    | [] => []
    | [piece] => (false, [':']) :: front s closed true piece
    | piece :: rest => (false, [':']) :: front s true true piece ++ behind closed rest

/-- The pieces of a text at the front of a word of a command. A tilde may also stand behind a name and an
equals sign. -/
def wordText (s : Session) (closed : Bool) (text : List Char) : Pieces :=
  let name := text.takeWhile isNameChar
  match text.drop name.length with
  | '=' :: '~' :: after =>
    if isName (String.ofList name) && !s.isPlain then
      (false, name ++ ['=']) :: front s closed false ('~' :: after)
    else [(false, text)]
  | _ => front s closed false text

/-- The pieces of a text in a word; `first` says whether it is at the front, `closed` whether nothing follows
it. -/
def pieces (s : Session) (mode : Mode) (first closed : Bool) (text : List Char) : Pieces :=
  match mode with
  | .nowhere => [(false, text)]
  | .word => if first then wordText s closed text else [(false, text)]
  | .value => valueText s first closed text

end Toolwrap.Shell.Tilde

/-!
Variables written out as the commands that declare them.
-/
namespace Toolwrap.Shell

namespace Variable

/-- The letters of the marks of a variable. -/
def letters (v : Variable) : String :=
  let kind := match v.content with
    | .items _ => ['a']
    | .table _ => ['A']
    | _ => []
  let flag := fun (b : Bool) (c : Char) => if b then [c] else []
  String.ofList (kind ++ flag v.integer 'i' ++ flag v.reference 'n' ++ flag v.fixed 'r' ++
    flag v.exported 'x' ++ flag (v.casing == some false) 'l' ++ flag (v.casing == some true) 'u')

/-- The items of an array between parentheses. -/
def itemsText : Content → Option String
  | .items xs =>
    some ("(" ++ " ".intercalate (xs.map fun (n, s) => s!"[{n}]=" ++ Requoted.declared s) ++ ")")
  | .table xs =>
    let shown := (Content.table xs).entries.map fun (k, s) =>
      "[" ++ Requoted.key k ++ "]=" ++ Requoted.declared s ++ " "
    some ("(" ++ String.join shown ++ ")")
  | _ => none

/-- The value behind an equals sign, if there is one. -/
def valueText (quote : String → String) (v : Variable) : String :=
  match v.content with
  | .declared => ""
  | .text s => "=" ++ quote s
  | c => "=" ++ (itemsText c).getD ""

/-- The command that declares a variable. -/
def declaration (x : String) (v : Variable) : String :=
  let letters := v.letters
  "declare -" ++ (if letters.isEmpty then "-" else letters) ++ " " ++ x ++ v.valueText Requoted.declared

/-- The shortest command that gives a variable its value. -/
def assignment (x : String) (v : Variable) : String :=
  let letters := v.letters
  if letters.isEmpty then x ++ v.valueText Requoted.quoted
  else "declare -" ++ letters ++ " " ++ x ++ v.valueText Requoted.quoted

end Variable

/-- A variable with what the shell knows of itself. -/
def Session.shownVariable? (s : Session) (x : String) : Option Variable :=
  match s.find? x with
  | some v => some v
  | none => (s.fact? x).map fun content =>
    { content, fixed := Session.fixedFacts.contains x, integer := x == "UID" || x == "EUID" }

end Toolwrap.Shell
