import Toolwrap.Shell.Builtin.Basic
/-!
Commands that change and show the working directory.
-/
namespace Toolwrap.Shell.Builtin

/-- Goes to a directory; whether that worked. -/
def enter (name path : String) : Run Bool := do
  let s ← get
  let refused := fun (reason : String) => do
    if s.isPlain then refuse 2 (name ++ ": can't cd to " ++ path)
    else refuse 1 (name ++ ": " ++ path ++ ": " ++ reason)
    return false
  match s.place path, s.entryAt? path with
  | .ok place, some .directory =>
    let old := s.valueD "PWD"
    let s := { s with here := place }
    set (((s.setText "OLDPWD" old).setText "PWD" s.hereText).setExported "OLDPWD" true)
    Run.setStatus 0
    return true
  | .ok _, some (.file _ _) => refused "Not a directory"
  | _, _ => refused (fileFault s path).message

def changeDirectory : Builtin := fun _ args =>
  withOptions "cd" "LPe" "" args fun _ words => do
    let s ← get
    match words with
    | [] =>
      match s.value? "HOME" with
      | some home => discard (enter "cd" (if home.isEmpty then "." else home))
      | none => refuse 1 "cd: HOME not set"
    | [path] => go path
    | path :: _ => if s.isPlain then go path else refuse 1 "cd: too many arguments"
where
  go (path : String) : Run Unit := do
    if path == "-" then
      match (← get).value? "OLDPWD" with
      | some old => if ← enter "cd" old then Run.print 1 ((← get).hereText ++ "\n")
      | none => refuse 1 "cd: OLDPWD not set"
    else
      match searched (← get) path with
      | some (place, shown) =>
        if ← enter "cd" place then
          if shown then Run.print 1 ((← get).hereText ++ "\n")
      | none => discard (enter "cd" (if path.isEmpty then "." else path))
  /-- The directory in one of those that are searched, and whether it is shown. -/
  searched (s : Session) (path : String) : Option (String × Bool) :=
    let first := (Text.splitAt '/' path).headD ""
    if path.startsWith "/" || first == "." || first == ".." then none
    else
      match s.value? "CDPATH" with
      | none => none
      | some places =>
        if places.isEmpty then none
        else
          (Text.splitAt ':' places).findSome? fun d =>
            let place := if d.isEmpty then path else d ++ "/" ++ path
            if s.entryAt? place == some .directory then some (place, !d.isEmpty) else none

def printDirectory : Builtin := fun _ args =>
  withOptions "pwd" "LP" "" args fun _ _ => do
    Run.print 1 ((← get).hereText ++ "\n")
    Run.setStatus 0

/-- Shows the working directory and those to return to. -/
def showDirectories : Run Unit := do
  let s ← get
  Run.print 1 (" ".intercalate ((s.hereText :: s.directories).map s.tildeText) ++ "\n")
  Run.setStatus 0

/-- A word that begins with a sign and names an entry: whether it counts from the last one, and how far. -/
inductive EntryWord where
  | none
  | senseless
  | entry (fromEnd : Bool) (n : Nat)

def entryWord (word : String) : EntryWord :=
  match word.toList with
  | sign :: digits =>
    if sign == '+' || sign == '-' then
      match Condition.wordInteger? (String.ofList digits) with
      | some n => .entry (sign == '-') n.toNat
      | Option.none => .senseless
    else .none
  | [] => .none

/-- The place of an entry among all directories. -/
def entryPlace? (count : Nat) (fromEnd : Bool) (n : Nat) : Option Nat :=
  if count ≤ n then none else some (if fromEnd then count - 1 - n else n)

/-- Refuses an entry that is not there. -/
def noEntry (name word : String) : Run Unit := do
  if (← get).directories.isEmpty then refuse 1 (name ++ ": directory stack empty")
  else refuse 1 (name ++ ": " ++ word ++ ": directory stack index out of range")

/-- Whether directories are only listed in another way, without going to one, and the words behind. -/
def withoutGoing : List String → Bool × List String
  | "-n" :: rest => (true, (withoutGoing rest).2)
  | "--" :: rest => (false, rest)
  | words => (false, words)

def pushDirectory : Builtin := fun _ args => do
  let s ← get
  let (stays, words) := withoutGoing args
  let all := s.hereText :: s.directories
  match words with
  | [] =>
    match s.directories with
    | [] => if stays then Run.setStatus 0 else refuse 1 "pushd: no other directory"
    | next :: rest =>
      if stays then Run.setStatus 0
      else if ← enter "pushd" next then
        modify fun t => { t with directories := s.hereText :: rest }
        showDirectories
  | word :: more =>
    match if args.head? == some "--" || word == "-" then .none else entryWord word with
    | .senseless => misuse "pushd" (word ++ ": invalid number")
    | .entry fromEnd n =>
      match entryPlace? all.length fromEnd n with
      | none => noEntry "pushd" word
      | some i =>
        let turned := all.drop i ++ all.take i
        if stays then
          modify fun t => { t with directories := turned.drop 1 }
          showDirectories
        else if ← enter "pushd" (turned.headD "") then
          modify fun t => { t with directories := turned.drop 1 }
          showDirectories
    | .none =>
      if stays then
        modify fun t => { t with directories := word :: s.directories }
        showDirectories
      else if !more.isEmpty then refuse 1 "pushd: too many arguments"
      else if ← enter "pushd" (if word == "-" then s.valueD "OLDPWD" else word) then
        modify fun t => { t with directories := s.hereText :: s.directories }
        showDirectories

def popDirectory : Builtin := fun _ args => do
  let s ← get
  let (stays, words) := withoutGoing args
  let top := do
    match s.directories with
    | [] => noEntry "popd" ""
    | next :: rest =>
      if stays || (← enter "popd" next) then
        modify fun t => { t with directories := rest }
        showDirectories
  match words with
  | [] => top
  | word :: _ =>
    match entryWord word with
    | .senseless => misuse "popd" (word ++ ": invalid number")
    | .none => if word.isEmpty then top else misuse "popd" (word ++ ": invalid argument")
    | .entry fromEnd n =>
      let count := s.directories.length
      if count < n || count == 0 then noEntry "popd" word
      else if n == 0 || (fromEnd && n == count) then top
      else
        modify fun t => { t with directories := s.directories.eraseIdx (if fromEnd then count - 1 - n else n - 1) }
        showDirectories

/-- How directories are listed. -/
structure DirectoryList where
  clears : Bool := false
  long : Bool := false
  inRows : Bool := false
  numbered : Bool := false
  /-- the one that is asked for, and its word -/
  entry : Option (Option Nat × String) := none

/-- Reads the words of a list of so many directories, or refuses one. -/
def directoryList (count : Nat) : DirectoryList → List String → Except String DirectoryList
  | list, [] => .ok list
  | list, word :: rest =>
    match word with
    | "-c" => directoryList count { list with clears := true } rest
    | "-l" => directoryList count { list with long := true } rest
    | "-p" => directoryList count { list with inRows := true } rest
    | "-v" => directoryList count { list with inRows := true, numbered := true } rest
    | "--" => .ok list
    | word =>
      match entryWord word with
      | .none => .error (word ++ ": invalid option")
      | .senseless => .error (word ++ ": invalid number")
      | .entry fromEnd n =>
        directoryList count
          { list with entry := some (entryPlace? count fromEnd n, String.ofList (word.toList.drop 1)) } rest

def listDirectories : Builtin := fun _ args => do
  let s ← get
  let all := s.hereText :: s.directories
  match directoryList all.length {} args with
  | .error message => misuse "dirs" message
  | .ok list =>
    let shown := if list.long then all else all.map s.tildeText
    let row := fun (path : String) (n : Nat) =>
      if list.numbered then (if n < 10 then " " else "") ++ s!"{n}  " ++ path else path
    if list.clears then
      set { s with directories := [] }
      Run.setStatus 0
    else
      match list.entry with
      | some (none, word) => noEntry "dirs" word
      | some (some n, _) =>
        Run.print 1 (row (shown.getD n "") n ++ "\n")
        Run.setStatus 0
      | none =>
        Run.print 1 ((if list.inRows then "\n" else " ").intercalate (shown.zipIdx.map fun (path, n) => row path n) ++ "\n")
        Run.setStatus 0

end Toolwrap.Shell.Builtin
