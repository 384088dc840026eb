import Toolwrap.Shell.Builtin.Control
import Toolwrap.Shell.Builtin.Declare
import Toolwrap.Shell.Builtin.Directory
import Toolwrap.Shell.Builtin.Events
import Toolwrap.Shell.Builtin.Input
import Toolwrap.Shell.Builtin.Output
import Toolwrap.Shell.Builtin.Settings
import Toolwrap.Shell.Builtin.Surroundings
import Toolwrap.Shell.Utility.Columns
import Toolwrap.Shell.Utility.Date
import Toolwrap.Shell.Utility.Edit
import Toolwrap.Shell.Utility.Figure
import Toolwrap.Shell.Utility.Find
import Toolwrap.Shell.Utility.Listing
import Toolwrap.Shell.Utility.Name
import Toolwrap.Shell.Utility.Order
import Toolwrap.Shell.Utility.Reckoning
import Toolwrap.Shell.Utility.Search
import Toolwrap.Shell.Utility.Starting
/-!
Commands that are part of the shell, by their names.
-/
namespace Toolwrap.Shell.Builtin

/-- The commands that work on the state of the shell alone. -/
def known : List (String × Builtin) :=
  [(":", nothing 0), (".", source "."), ("[", bracket), ("alias", alias_), ("bg", needsControl "bg"),
   ("bind", bindKeys), ("break", break_), ("caller", caller), ("cd", changeDirectory),
   ("compgen", complete), ("complete", noteCompletion), ("compopt", changeCompletion),
   ("continue", continue_), ("declare", declareAs "declare" false), ("dirs", listDirectories),
   ("disown", forgetJobs), ("echo", echo), ("eval", evaluate),
   ("exit", exit), ("export", exports), ("false", nothing 1), ("fc", pastCommands),
   ("fg", needsControl "fg"), ("getopts", nextArgument), ("help", help), ("history", lineHistory),
   ("jobs", jobs), ("kill", kill), ("let", calculate), ("local", declareAs "local" true),
   ("logout", refused "logout: not login shell: use \x60exit'"), ("mapfile", mapFile "mapfile"),
   ("popd", popDirectory), ("printf", printFormat), ("pushd", pushDirectory), ("pwd", printDirectory),
   ("read", read), ("readarray", mapFile "readarray"), ("readonly", readonly), ("return", return_),
   ("set", set_), ("shift", shift), ("shopt", switch), ("source", source "source"),
   ("suspend", suspend), ("test", test), ("times", times),
   ("trap", trap), ("true", nothing 0), ("typeset", declareAs "typeset" false), ("ulimit", limits),
   ("umask", umask), ("unalias", unalias), ("unset", unset), ("wait", wait)]

/-- The commands that work on other commands, or on programs. -/
def onCommands : List String := ["builtin", "command", "enable", "exec", "hash", "type"]

/-- The commands that the plain language lacks. -/
def onlyFull : List String :=
  ["bind", "builtin", "caller", "compgen", "complete", "compopt", "declare", "dirs", "disown", "enable",
   "fc", "help", "history", "let", "logout", "mapfile", "popd", "pushd", "readarray", "shopt", "source",
   "suspend", "typeset"]

def named? (plain : Bool) (name : String) : Option Builtin :=
  if plain && onlyFull.contains name then none
  else if plain && name == "chdir" then some changeDirectory
  else known.lookup name

/-- Whether a name is that of a command of the shell. -/
def isKnown (plain : Bool) (name : String) : Bool :=
  (named? plain name).isSome || (onCommands.contains name && !(plain && onlyFull.contains name))

/-- The names of all commands. -/
def names : List String := Text.sorted (known.map (·.1) ++ onCommands)

/-- The commands whose failures end a program in the plain language, and before which assignments stay. -/
def special : List String :=
  [":", ".", "break", "continue", "eval", "exec", "exit", "export", "readonly", "return", "set", "shift",
   "times", "trap", "unset"]

/-- Words of the language itself. -/
def keywords (plain : Bool) : List String :=
  ["if", "then", "else", "elif", "fi", "case", "esac", "for", "while", "until", "do", "done", "in", "\x7b",
   "\x7d", "!"] ++ if plain then [] else ["select", "function", "time", "[[", "]]", "coproc"]

/-- Commands that declare variables: assignments among their words are not cut. -/
def isDeclaration (name : String) : Bool :=
  name ∈ ["local", "declare", "typeset", "export", "readonly"]

end Toolwrap.Shell.Builtin

/-!
Programs that every host has, as far as wrappers and plain scripts use them. A utility reads its
input, prints, works on the files, and gives its exit code.
-/
namespace Toolwrap.Shell.Utility

def known : List (String × Utility) :=
  [("arch", saying "x86_64"), ("awk", lessOfTwo), ("basename", basename), ("cat", cat), ("chgrp", changeOwner),
   ("chmod", changeMode), ("chown", changeOwner), ("comm", common), ("cp", transfer "cp" false), ("cut", cut),
   ("date", date), ("dirname", dirname), ("egrep", search "E"), ("env", env), ("expand", expand),
   ("expr", reckoning), ("fgrep", search "F"), ("find", find), ("fold", fold), ("grep", search "G"),
   ("groups", groups), ("head", showParts false), ("id", identity), ("install", install), ("join", join),
   ("logname", loginName), ("ls", list), ("mkdir", makeDirectories), ("mktemp", makeTemporary),
   ("mv", transfer "mv" true), ("nice", nice), ("nl", number), ("nohup", lasting), ("paste", paste),
   ("printenv", printEnvironment), ("readlink", readLink), ("realpath", realPath), ("rev", reverseCharacters),
   ("rm", remove), ("rmdir", removeDirectories), ("sed", edit), ("seq", countUp), ("sleep", sleep),
   ("sort", sort), ("stat", status), ("stdbuf", buffered), ("sync", synchronize), ("tac", reverseLines),
   ("tail", showParts true), ("tee", tee), ("timeout", limited), ("touch", touch), ("tr", translate),
   ("truncate", truncate), ("tty", terminal), ("uname", system), ("uniq", unique), ("unlink", unlink),
   ("wc", count), ("which", whereabouts), ("whoami", saying "root"), ("xargs", eachInput)]

def named? (name : String) : Option Utility := known.lookup name

end Toolwrap.Shell.Utility

/-!
Starting programs from a session: a text for a shell, a shell itself, or a program of the host. A
program has a session of its own, of which the files and what was written are kept.
-/
namespace Toolwrap.Shell

/-- Runs the text of a program in a session of its own. -/
def runText (E : Engine) (dialect : Dialect) (arg0 : String) (args : List String)
    (env : List (String × String)) (change : Run Unit) (lead text : String) : Run Unit :=
  Run.subshell E (fun s => s.started dialect arg0 args env) do
    change
    E.source lead (readable text)

/-- What options of a shell ask for, where it is started. -/
structure ShellCall where
  /-- the words for `set` -/
  switches : List String := []
  /-- the switches of `shopt`, turned on or off -/
  extras : List (Bool × String) := []
  /-- the program is the first operand -/
  fromArgument : Bool := false
  /-- the program is the input -/
  fromInput : Bool := false
  operands : List String := []

/-- Long options of a shell that change nothing here, each with whether it needs a value. -/
def shellNames : List (String × Bool) :=
  [("debug", false), ("debugger", false), ("login", false), ("noediting", false), ("noprofile", false),
   ("norc", false), ("posix", false), ("restricted", false), ("verbose", false), ("init-file", true),
   ("rcfile", true)]

/-- The options in front of the operands of a shell, or the one that makes no sense. The fuel bounds the
number of words. -/
def readShellCall (isPlain : Bool) : Nat → ShellCall → List String → Except String ShellCall
  | 0, call, words => .ok { call with operands := words }
  | _, call, [] => .ok call
  | fuel + 1, call, word :: rest =>
    match word.toList with
    | ['-', '-'] => .ok { call with operands := rest }
    | ['-'] => .ok { call with operands := rest }
    | '-' :: '-' :: name =>
      match if isPlain then none else shellNames.lookup (String.ofList name) with
      | some needed => readShellCall isPlain fuel call (if needed then rest.drop 1 else rest)
      | none => .error word
    | sign :: c :: cs =>
      if sign != '-' && sign != '+' then .ok { call with operands := word :: rest }
      else
        let flags := c :: cs
        let ours := ['c', 's', 'i', 'l', 'o', 'O', 'D', 'r']
        match flags.find? fun f => !ours.contains f && (Switch.ofLetter? f).isNone with
        | some f => .error (String.ofList [sign, f])
        | none =>
          let plainFlags := flags.filter fun f => !ours.contains f
          let call := { call with
            fromArgument := call.fromArgument || flags.contains 'c'
            fromInput := call.fromInput || flags.contains 's'
            switches := call.switches ++
              if plainFlags.isEmpty then [] else [String.ofList (sign :: plainFlags)] }
          match flags.contains 'o', flags.contains 'O', rest with
          | true, _, name :: rest =>
            readShellCall isPlain fuel
              { call with switches := call.switches ++ [String.ofList [sign, 'o'], name] } rest
          | _, true, name :: rest =>
            readShellCall isPlain fuel { call with extras := call.extras ++ [(sign == '-', name)] } rest
          | _, _, _ => readShellCall isPlain fuel call rest
    | _ => .ok { call with operands := word :: rest }

/-- What a shell says of itself when it is called in a way that makes no sense. -/
def shellUsage (name : String) : String :=
  "Usage:\t" ++ name ++ " [GNU long option] [option] ...\n\t" ++ name ++
    " [GNU long option] [option] script-file ...\nGNU long options:\n" ++
    String.join ((["debug", "debugger", "dump-po-strings", "dump-strings", "help", "init-file", "login",
      "noediting", "noprofile", "norc", "posix", "pretty-print", "rcfile", "restricted", "verbose",
      "version"]).map fun n => "\t--" ++ n ++ "\n") ++
    "Shell options:\n\t-ilrsD or -c command or -O shopt_option\t\t(invocation only)\n" ++
    "\t-abefhkmnptuvxBCEHPT or -o option\n"

/-- Turns on what a call asks for. -/
def ShellCall.turn (call : ShellCall) (origin : Option Char) : Run Unit := do
  modify fun s => { s with origin }
  Builtin.startWith call.switches
  modify fun s => call.extras.foldl (fun s (on, name) => s.turn ⟨name⟩ on) s

/-- The file that an operand of a shell names: one without a slash may be looked for. -/
def scriptPath (s : Session) (path : String) : String :=
  if path.toList.contains '/' || (s.entryAt? path).isSome then path
  else
    match (s.searchPath.map fun d => d ++ "/" ++ path).find? fun p =>
        match s.entryAt? p with | some (.file _ _) => true | _ => false with
    | some found => found
    | none => path

/-- A shell of the host: it runs a text behind `-c`, a file, or its input. -/
def runShell (E : Engine) (dialect : Dialect) (called : String) (args : List String)
    (env : List (String × String)) : Run Unit := do
  let isPlain := dialect == .plain
  let say := fun (message : String) => Run.print 2 ((if isPlain then called ++ ": 0: " else called ++ ": ") ++ message ++ "\n")
  match readShellCall isPlain (args.length + 1) {} args with
  | .error word =>
    if word == "--help" || word == "--version" then throw (.unsupported (called ++ " " ++ word))
    if isPlain then say ("Illegal option " ++ word)
    else
      say (word ++ ": invalid option")
      Run.print 2 (shellUsage called)
    Run.setStatus 2
  | .ok call =>
    let s ← get
    let unknown := call.switches.find? fun w =>
      !w.startsWith "-" && !w.startsWith "+" && (Switch.ofOption? w).isNone
    match unknown, call.extras.find? fun e => (Switch.ofExtra? e.2).isNone with
    | some name, _ =>
      if isPlain then say ("Illegal option -o " ++ name)
      else say ("line 0: " ++ called ++ ": " ++ name ++ ": invalid option name")
      Run.setStatus 2
    | none, some (_, name) =>
      say ("line 0: " ++ name ++ ": invalid shell option name")
      Run.setStatus 2
    | none, none =>
      if call.fromArgument then
        match call.operands with
        | [] =>
          say (if isPlain then "-c requires an argument" else "-c: option requires an argument")
          Run.setStatus 2
        | text :: rest =>
          runText E dialect (rest.headD called) (rest.drop 1) env (call.turn (if isPlain then none else some 'c')) "-c: " text
      else
        match if call.fromInput then [] else call.operands with
        | [] =>
          let text ← Run.takeInput
          runText E dialect called call.operands env (call.turn (some 's')) "" text
        | path :: rest =>
          match s.entryAt? (scriptPath s path) with
          | some (.file text _) =>
            if Session.isBinary 80 text && !isPlain then
              Run.print 2 (path ++ ": " ++ path ++ ": cannot execute binary file\n")
              Run.setStatus 126
            else runText E dialect (scriptPath s path) rest env (call.turn none) "" text
          | some .directory =>
            if isPlain then Run.setStatus 0
            else
              Run.print 2 (path ++ ": " ++ path ++ ": Is a directory\n")
              Run.setStatus 126
          | none =>
            match deviceOf? s path with
            | some c =>
              set (s.leave c "")
              runText E dialect path rest env (call.turn none) "" (s.input c)
            | none =>
              let fault := fileFault s path
              if isPlain then
                let reason := match fault with | .missing => "No such file" | other => other.message
                say ("cannot open " ++ path ++ ": " ++ reason)
                Run.setStatus 2
              else
                say (path ++ ": " ++ fault.message)
                Run.setStatus 127

/-- Commands of the shell that are programs of the host as well. -/
def alsoPrograms : List String := ["echo", "printf", "test", "[", "true", "false", "pwd"]

/-- Runs a program of the host in a session of its own. -/
def runHost (E : Engine) (called name : String) (args : List String) (env : List (String × String)) : Run Unit := do
  if fullShells.contains name then runShell E .full called args env
  else if plainShells.contains name then runShell E .plain called args env
  else
    let own := fun (s : Session) =>
      { s with
        arg0 := called, shielded := true, traps := []
        -- it sees the environment alone
        scopes := [env.map fun (x, v) => (x, { content := .text v, exported := true })] }
    match Utility.named? name, if alsoPrograms.contains name then Builtin.named? false name else none with
    | some utility, _ => Run.subshell E own do Run.setStatus (← utility E args)
    | none, some builtin => Run.subshell E own (builtin E args)
    | none, none => throw (.unsupported name)

/-- Runs what a program comes to. -/
def Start.run (E : Engine) (env : List (String × String)) (dialect : Dialect) : Start → Run Unit
  | .host called name args => runHost E called name args env
  | .script path text args => runText E dialect path args env (pure ()) "" text

/-- The complaint of a shell about a program that it cannot start, and the code for that. -/
def notStarted (name path : String) (fault : StartFault) : Run Unit := do
  let s ← get
  if s.isPlain then
    match fault with
    | .isDirectory => Builtin.refuse 126 (name ++ ": Permission denied")
    | .notAllowed => Builtin.refuse 126 (name ++ ": Permission denied")
    | .badInterpreter _ => Builtin.refuse 126 (name ++ ": Permission denied")
    | .file .notDirectory => Builtin.refuse 127 (name ++ ": not found")
    | .file .nameTooLong => Builtin.refuse 126 (name ++ ": File name too long")
    | .binary => Builtin.refuse 126 (name ++ ": Exec format error")
    | _ => Builtin.refuse 127 (name ++ ": not found")
  else
    match fault with
    | .unknown => Builtin.refuse 127 (name ++ ": command not found")
    | .file .missing => Builtin.refuse 127 (path ++ ": No such file or directory")
    | .file fault => Builtin.refuse 126 (path ++ ": " ++ fault.message)
    | .isDirectory => Builtin.refuse 126 (path ++ ": Is a directory")
    | .notAllowed => Builtin.refuse 126 (path ++ ": Permission denied")
    | .noInterpreter => Builtin.refuse 127 (path ++ ": cannot execute: required file not found")
    | .badInterpreter reader => Builtin.refuse 126 (path ++ ": " ++ reader ++ ": bad interpreter: Permission denied")
    | .binary => Builtin.refuse 126 (path ++ ": cannot execute binary file: Exec format error")

namespace Session

/-- Remembers where a program was found, and that it was run. -/
def remember (s : Session) (name path : String) (runs : Nat) : Session :=
  if name.toList.contains '/' then s
  else
    let before := match s.hashed.lookup name with
      | some (known, n) => if known == path then n else 0
      | none => 0
    { s with hashed := (name, path, before + runs) :: s.hashed.filter fun h => h.1 != name }

/-- The environment of a program that is started from a path, with the exported functions. -/
def environmentFor (s : Session) (path : String) : List (String × String) := s.passedOn path

end Session

/-- Starts the program of a name from a shell. -/
def runProgram (E : Engine) (name : String) (args : List String) : Run Unit := do
  let s ← get
  match s.startOf name args with
  | .ok (path, start) =>
    modify fun s => s.remember name path 1
    let s ← get
    start.run E (s.environmentFor path) s.dialect
  | .error (path, fault) => notStarted name path fault

end Toolwrap.Shell
