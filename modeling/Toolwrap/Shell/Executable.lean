import Toolwrap.Shell.Expansion
/-!
Programs that can be started: files that may be executed, and programs that every host has. A file says
on its first line which program reads it; to start it is to start that one.
-/
namespace Toolwrap.Shell

/-- Where programs of the host are found. -/
def hostPlaces : List Place := [["usr", "bin"], ["bin"]]

/-- The shells of the host that run the whole language. -/
def fullShells : List String := ["bash", "rbash"]

/-- The shells of the host that run its plain core. -/
def plainShells : List String := ["sh", "dash"]

/-- Programs of the host besides its shells. -/
def hostPrograms : List String :=
  ["[", "arch", "awk", "b2sum", "base32", "base64", "basename", "basenc", "cat", "chcon", "chgrp", "chmod",
   "chown", "chroot", "cksum", "clear", "cmp", "comm", "cp", "csplit", "cut", "date", "dd", "df", "diff",
   "dir", "dircolors", "dirname", "dpkg", "du", "echo", "egrep", "env", "expand", "expr", "factor", "false",
   "fgrep", "find", "fold", "getconf", "getopt", "grep", "groups", "gunzip", "gzip", "head", "hostid",
   "hostname", "iconv", "id", "infocmp", "install", "join", "ldd", "link", "ln", "locale", "logname",
   "ls", "mawk", "md5sum", "mkdir", "mkfifo", "mknod", "mktemp", "more", "mount", "mv", "nice", "nl", "nohup",
   "nproc", "numfmt", "od", "paste", "pathchk", "perl", "pinky", "pr", "printenv", "printf", "ptx", "pwd",
   "readlink", "realpath", "reset", "rev", "rm", "rmdir", "runcon", "sed", "seq", "sha1sum", "sha224sum",
   "sha256sum", "sha384sum", "sha512sum", "shred", "shuf", "sleep", "sort", "split", "stat", "stdbuf", "stty",
   "sum", "sync", "tac", "tail", "tar", "tee", "test", "timeout", "touch", "tput", "tr", "true", "truncate",
   "tsort", "tty", "umount", "uname", "unexpand", "uniq", "unlink", "uptime", "users", "vdir", "wc", "which",
   "who", "whoami", "xargs", "yes", "zcat"]

def isHostProgram (name : String) : Bool :=
  fullShells.contains name || plainShells.contains name || hostPrograms.contains name

inductive Executable where
  /-- a program of the host -/
  | host (name : String)
  | file (text : String)
deriving DecidableEq, Repr

/-- Why a program is not started. -/
inductive StartFault where
  /-- no directory has it -/
  | unknown
  | file (fault : FileFault)
  | isDirectory
  | notAllowed
  /-- the program that is to read it is not there -/
  | noInterpreter
  /-- the program that is to read it cannot be used -/
  | badInterpreter (name : String)
  /-- it is no text -/
  | binary
deriving Repr

/-- What is run in the end, and with which arguments. -/
inductive Start where
  | host (called name : String) (args : List String)
  /-- a text without a first line that names its reader -/
  | script (path text : String) (args : List String)
deriving Repr

namespace Session

/-- The directories in which programs are looked for. -/
def searchPath (s : Session) : List String :=
  match s.value? "PATH" with
  | some path => (Text.splitAt ':' path).map fun d => if d.isEmpty then "." else d
  | none => ["/usr/local/bin", "/usr/bin", "/bin", "."]

/-- The program at a path. -/
def programAt (s : Session) (path : String) : Except StartFault Executable :=
  match s.place path, s.entryAt? path with
  | .ok _, some (.file text true) => .ok (.file text)
  | .ok _, some (.file _ false) => .error .notAllowed
  | .ok _, some .directory => .error .isDirectory
  | .ok place, none =>
    if hostPlaces.contains place.dropLast && isHostProgram (place.getLastD "") then
      .ok (.host (place.getLastD ""))
    else .error (.file .missing)
  | .error fault, _ => .error (.file fault)

/-- The program that a name stands for, with its path. A name with a slash is a path; any other one is
looked for, and a file that may not be executed is found last. -/
def program (s : Session) (name : String) : Except (String × StartFault) (String × Executable) :=
  if name.toList.contains '/' then
    match s.programAt name with
    | .ok e => .ok (name, e)
    | .error fault => .error (name, fault)
  else if name.isEmpty then .error (name, .unknown)
  else
    let paths := s.searchPath.map fun directory => directory ++ "/" ++ name
    match paths.findSome? fun path => (s.programAt path).toOption.map (path, ·) with
    | some found => .ok found
    | none =>
      match paths.find? fun path => match s.programAt path with | .error .notAllowed => true | _ => false with
      | some path => .error (path, .notAllowed)
      | none => .error (name, .unknown)

/-- Whether a text is none: its first line, or the one behind a line that names its reader, holds a byte
that ends texts. Only so many bytes of it are looked at. -/
def isBinary (looked : Nat) (text : String) : Bool :=
  let bytes := (Text.bytes text.toList).take looked
  let first := bytes.takeWhile (· != 10)
  let second := (bytes.drop (first.length + 1)).takeWhile (· != 10)
  first.contains 0 || text.startsWith "#!" && second.contains 0

/-- The program that the first line of a text names, and all that follows it as one argument. -/
def interpreter? (text : String) : Option (String × Option String) :=
  match text.toList with
  | '#' :: '!' :: rest =>
    let isBlank := fun (c : Char) => c == ' ' || c == '\t'
    let line := (rest.takeWhile (· != '\n')).dropWhile isBlank
    let line := (line.reverse.dropWhile isBlank).reverse
    let name := line.takeWhile fun c => !isBlank c
    let argument := (line.drop name.length).dropWhile isBlank
    if name.isEmpty then none
    else some (String.ofList name, if argument.isEmpty then none else some (String.ofList argument))
  | _ => none

/-- How often a program may be read by one that is read by another one itself. -/
def maxInterpreters : Nat := 5

/-- What is run to start a program. The fuel bounds how often the reader of a program is a file itself. -/
def start (s : Session) : Nat → String → Executable → List String → Except StartFault Start
  | _, path, .host name, args => .ok (.host path name args)
  | 0, _, .file _, _ => .error (.file .missing)
  | fuel + 1, path, .file text, args =>
    match interpreter? text with
    | none => if isBinary 128 text then .error .binary else .ok (.script path text args)
    | some (name, argument) =>
      match s.programAt name with
      | .ok e => s.start fuel name e (argument.toList ++ path :: args)
      | .error (.file .missing) => .error .noInterpreter
      | .error (.file .notDirectory) => .error (.badInterpreter name)
      | .error _ => .error (.badInterpreter name)

/-- What is run to start the program of a name, and the path at which it was found. -/
def startOf (s : Session) (name : String) (args : List String) :
    Except (String × StartFault) (String × Start) := do
  let (path, e) ← s.program name
  -- a program of the host is told the name under which it was called
  let called := match e with | .host _ => name | .file _ => path
  match s.start maxInterpreters called e args with
  | .ok start => .ok (path, start)
  | .error fault => .error (path, fault)

/-- The bucket of a name in the table of the plain shell. -/
def plainBucket (name : String) : Nat :=
  let bytes := Text.bytes name.toList
  bytes.foldl (· + ·) (bytes.headD 0 * 16) % 39

/-- The environment of a program that the session starts from a path. -/
def passedOn (s : Session) (path : String) : List (String × String) :=
  let given := s.environment
  if s.isPlain then given.mergeSort fun a b => decide (plainBucket a.1 ≤ plainBucket b.1)
  else
    let given := given.filter fun v => v.1 != "_"
    given.filter (fun v => !isName v.1) ++ given.filter (fun v => isName v.1) ++ [("_", path)]

/-- The session of a program that is started: it has the environment, and of the other variables and
functions only what every session has. -/
def started (s : Session) (dialect : Dialect) (arg0 : String) (args : List String)
    (env : List (String × String)) : Session :=
  let isPlain := dialect == .plain
  let kept := env.filter fun (x, _) =>
    x != "IFS" && !(isPlain && !isName x) && !(!isPlain && (fixedFacts.contains x || x == "_" || x == "OPTIND"))
  let given : Scope := kept.map fun (x, v) => (x, { content := .text v, exported := true })
  let own : Scope :=
    [("IFS", { content := .text " \t\n" }), ("OPTIND", { content := .text "1", integer := !isPlain })]
  let new : Session :=
    { tree := s.tree, here := s.here, scopes := [own ++ given], args, arg0, dialect, mask := s.mask
      functions := if isPlain then [] else s.functions.filter fun f => f.2.exported
      lastWord := (env.lookup "_").getD ""
      switches := if isPlain then [] else Switch.initial
      fromFiles := s.fromFiles, descriptors := s.descriptors
      horizon := s.horizon, shared := s.shared, programs := s.programs + 1
      programNumber := if s.givesWay then s.self else s.programs + 1
      self := if s.givesWay then s.self else s.programs + 1 }
  let session := new.keeping s
  if isPlain then
    let session := (session.setText "PWD" s.hereText).setExported "PWD" true
    if (session.find? "PS4").isSome then session else session.setText "PS4" "+ "
  else
    let level := (((env.lookup "SHLVL").bind String.toNat?).getD 0) + 1
    let session := (session.setText "PWD" s.hereText).setExported "PWD" true
    let session := (session.setText "SHLVL" (toString level)).setExported "SHLVL" true
    let session := (session.setText "PS4" "+ ").setText "OPTERR" "1"
    let absent := [("TERM", "dumb"), ("SHELL", "/bin/bash")].filter fun v => (session.find? v.1).isNone
    let session := absent.foldl (fun s (x, v) => s.setText x v) session
    let old? := (env.lookup "OLDPWD").filter fun d => session.entryAt? d == some .directory
    match old? with
    | some _ => session
    | none => session.put "OLDPWD" { content := .declared, exported := true }

end Session

end Toolwrap.Shell
