import Toolwrap.Shell.Utility.Basic
/-!
Programs that work on paths as texts, and on where they lead.
-/
namespace Toolwrap.Shell.Utility

def withoutSlashes (s : List Char) : List Char := (s.reverse.dropWhile (· == '/')).reverse

/-- The directory part of a path as text. -/
def directoryOf (path : String) : String :=
  let s := withoutSlashes path.toList
  if s.isEmpty then (if path.startsWith "/" then "/" else ".")
  else
    let before := (s.reverse.dropWhile (· != '/')).reverse
    if before.isEmpty then "."
    else
      let directory := withoutSlashes before
      if directory.isEmpty then "/" else String.ofList directory

/-- The last part of a path as text, without an end that is not all of it. -/
def lastOf (path ending : String) : String :=
  let s := withoutSlashes path.toList
  if s.isEmpty then (if path.startsWith "/" then "/" else "")
  else
    let name := String.ofList (s.reverse.takeWhile (· != '/')).reverse
    if name.endsWith ending && name != ending then
      String.ofList (name.toList.take (name.length - ending.length))
    else name

/-- Prints texts, each closed by a line feed or by the character that closes names. -/
def outEach (zero : Bool) (items : List String) : Run Unit :=
  out (String.join (items.map fun x => x ++ if zero then "\x00" else "\n"))

def missingOperand : Run Nat := misused 1 "missing operand"

def extraOperand (x : String) : Run Nat := misused 1 ("extra operand " ++ curved x)

/-- The directory parts of paths. Of the help only the first line is given. -/
def dirname : Utility := fun _ args => do
  match ({ short := "z", long := [("zero", "z")] } : Options).read args with
  | .error misuse => misused 1 misuse.message
  | .ok call =>
    match call.last? ["help", "version"] with
    | some "help" =>
      outLines ["Usage: " ++ (← get).arg0 ++ " [OPTION] NAME..."]
      return 0
    | some _ =>
      outLines ["dirname"]
      return 0
    | none =>
      if call.operands.isEmpty then missingOperand
      else
        outEach (call.has "z") (call.operands.map directoryOf)
        return 0

def basename : Utility := fun _ args =>
  let o : Options := {
    short := "as:z", long := [("multiple", "a"), ("suffix", "s"), ("zero", "z")], inFront := true }
  withCall o args fun call => do
    let many := call.has "a" || call.has "s"
    match call.operands with
    | [] => missingOperand
    | paths =>
      match many, paths with
      | false, _ :: _ :: x :: _ => extraOperand x
      | false, [path, ending] =>
        outEach (call.has "z") [lastOf path ending]
        return 0
      | _, paths =>
        outEach (call.has "z") (paths.map fun p => lastOf p ((call.value? "s").getD ""))
        return 0

/-- How much of a path has to be there. -/
inductive Need where
  | all | allButLast | nothing
deriving DecidableEq, Repr

/-- The place of a path, as far as it has to be there. -/
def resolvedPlace (s : Session) (need : Need) (path : String) : Except FileFault Place :=
  if path.isEmpty then .error .missing
  else
    match need with
    | .nothing => .ok ((Path.parse path).settle s.here)
    | .allButLast => s.place path
    | .all => do
      let place ← s.place path
      if (s.tree.entryAt? place).isSome then .ok place else .error .missing

def placeText (place : Place) : String := "/" ++ "/".intercalate place

/-- The way from one place to another. -/
def relativePath : Place → Place → String
  | a :: as, b :: bs =>
    if a == b then relativePath as bs else climb (a :: as) (b :: bs)
  | from_, to_ => climb from_ to_
where
  climb (from_ to_ : Place) : String :=
    let parts := from_.map (fun _ => "..") ++ to_
    if parts.isEmpty then "." else "/".intercalate parts

def realPath : Utility := fun _ args =>
  let o : Options := {
    short := "eELmPqsz"
    long := [("canonicalize-existing", "e"), ("canonicalize", "E"), ("canonicalize-missing", "m"), ("logical", "L"),
      ("physical", "P"), ("quiet", "q"), ("strip", "s"), ("no-symlinks", "s"), ("zero", "z"),
      ("relative-to", "relative-to"), ("relative-base", "relative-base")]
    valued := ["relative-to", "relative-base"] }
  withCall o args fun call => do
    let need := match call.last? ["e", "m", "E"] with
      | some "e" => Need.all
      | some "m" => .nothing
      | _ => .allButLast
    let s ← get
    if call.operands.isEmpty then missingOperand
    else
      let base := (call.value? "relative-to").bind fun p => (resolvedPlace s need p).toOption
      let within := (call.value? "relative-base").bind fun p => (resolvedPlace s need p).toOption
      each call.operands fun path => do
        match resolvedPlace s need path with
        | .ok place =>
          let inside := match within with | some w => w.isPrefixOf place | none => true
          let text := match base.or within, inside with
            | some b, true => relativePath b place
            | _, _ => placeText place
          outEach (call.has "z") [text]
          return true
        | .error fault =>
          if !call.has "q" then plainRefusal path fault
          return false

/-- The target of a link; no file is one. With `-f`, the path from the root. -/
def readLink : Utility := fun _ args =>
  let o : Options := {
    short := "efmnqsvz"
    long := [("canonicalize", "f"), ("canonicalize-existing", "e"), ("canonicalize-missing", "m"),
      ("no-newline", "n"), ("quiet", "q"), ("silent", "s"), ("verbose", "v"), ("zero", "z")] }
  withCall o args fun call => do
    let s ← get
    match call.operands, call.last? ["e", "f", "m"] with
    | [], _ => missingOperand
    | paths, none =>
      each paths fun path => do
        if call.has "v" then
          plainRefusal path (match fileFault s path with
            | .missing => if (s.entryAt? path).isSome then .badName else .missing
            | fault => fault)
        return false
    | paths, some kind =>
      let need := if kind == "e" then Need.all else if kind == "m" then .nothing else .allButLast
      each paths fun path => do
        match resolvedPlace s need path with
        | .ok place =>
          if call.has "n" && paths.length == 1 then out (placeText place)
          else outEach (call.has "z") [placeText place]
          return true
        | .error fault =>
          if call.has "v" then plainRefusal path fault
          return false

/-!
Programs that tell who runs them and on what. The user is the first one, whose group is the first one.
-/

/-- Refuses operands. -/
def alone (o : Options) (args : List String) (work : Call → Run Nat) : Run Nat :=
  withCall o args fun call =>
    match call.operands with
    | [] => work call
    | x :: _ => extraOperand x

/-- A program that prints one line. -/
def saying (line : String) : Utility := fun _ args =>
  alone { short := "" } args fun _ => do
    outLines [line]
    return 0

/-- The users of every host: their names and numbers, and those of their groups. -/
def accounts : List (String × Nat × String × Nat) :=
  [("root", 0, "root", 0), ("daemon", 1, "daemon", 1), ("bin", 2, "bin", 2), ("sys", 3, "sys", 3),
   ("sync", 4, "nogroup", 65534), ("games", 5, "games", 60), ("man", 6, "man", 12), ("lp", 7, "lp", 7),
   ("mail", 8, "mail", 8), ("news", 9, "news", 9), ("uucp", 10, "uucp", 10), ("proxy", 13, "proxy", 13),
   ("www-data", 33, "www-data", 33), ("backup", 34, "backup", 34), ("list", 38, "list", 38), ("irc", 39, "irc", 39),
   ("_apt", 42, "nogroup", 65534), ("nobody", 65534, "nogroup", 65534)]

/-- The user of a name or a number. -/
def account? (text : String) : Option (String × Nat × String × Nat) :=
  match accounts.lookup text with
  | some a => some (text, a)
  | none => text.toNat?.bind fun n => accounts.find? fun a => a.2.1 == n

/-- Numbers and names of the user and the groups. -/
def identity : Utility := fun _ args =>
  let o : Options := {
    short := "agnruzGZ"
    long := [("group", "g"), ("groups", "G"), ("name", "n"), ("real", "r"), ("user", "u"), ("zero", "z")] }
  withCall o args fun call => do
    let kinds := ["u", "g", "G"].filter call.has
    match kinds with
    | _ =>
      if 1 < kinds.length then fail 1 "cannot print \"only\" of more than one choice"
      else if kinds.isEmpty && (call.has "n" || call.has "r") then
        fail 1 "cannot print only names or real IDs in default format"
      else
        each (if call.operands.isEmpty then ["root"] else call.operands) fun x => do
          match account? x with
          | none =>
            complain (curved x ++ ": no such user")
            return false
          | some (user, n, group, g) =>
            let line :=
              if kinds.isEmpty then s!"uid={n}(" ++ user ++ s!") gid={g}(" ++ group ++ s!") groups={g}(" ++ group ++ ")"
              else if call.has "u" then (if call.has "n" then user else toString n)
              else if call.has "n" then group
              else toString g
            outEach (call.has "z") [line]
            return true

/-- The groups of users. -/
def groups : Utility := fun _ args =>
  withCall { short := "" } args fun call => do
    if call.operands.isEmpty then
      outLines ["root"]
      return 0
    else
      each call.operands fun x => do
        match accounts.lookup x with
        | some (_, group, _) =>
          outLines [x ++ " : " ++ group]
          return true
        | none =>
          complain (curved x ++ ": no such user")
          return false

/-- The name of the system and of the machine. -/
def system : Utility := fun _ args =>
  let o : Options := {
    short := "asnrvmpio"
    long := [("kernel-name", "s"), ("machine", "m"), ("operating-system", "o"), ("all", "a"), ("nodename", "n"),
      ("kernel-release", "r"), ("kernel-version", "v"), ("processor", "p"), ("hardware-platform", "i")] }
  alone o args fun call => do
    if ["a", "n", "r", "v", "p", "i"].any call.has then throw (.unsupported "uname")
    let parts := (if call.has "s" || call.options.isEmpty then ["Linux"] else []) ++
      (if call.has "m" then ["x86_64"] else []) ++ (if call.has "o" then ["GNU/Linux"] else [])
    outLines [" ".intercalate parts]
    return 0

/-- The terminal of the input, which has none. -/
def terminal : Utility := fun _ args =>
  withCall { short := "s", long := [("silent", "s"), ("quiet", "s")], code := 2 } args fun call => do
    match call.operands with
    | x :: _ => return ← misused 2 ("extra operand " ++ curved x)
    | [] => pure ()
    if !call.has "s" then outLines ["not a tty"]
    return 1

def loginName : Utility := fun _ args => alone { short := "" } args fun _ => fail 1 "no login name"

end Toolwrap.Shell.Utility
