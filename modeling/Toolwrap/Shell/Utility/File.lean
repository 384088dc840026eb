import Toolwrap.Shell.Utility.Name
/-!
Programs that make, remove, copy and mark files and directories.
-/
namespace Toolwrap.Shell.Utility

/-- The first of the directories above a path at which there is a file. -/
def blockedBy (s : Session) (p : Path) : Option String :=
  ((List.range p.parts.length).map fun n => toString (⟨p.anchor, p.parts.take (n + 1)⟩ : Path)).find?
    fun above => match s.entryAt? above with | some (.file _ _) => true | _ => false

/-- The paths above a path and the path itself that are not there. -/
def missingAbove (s : Session) (p : Path) : List String :=
  ((List.range p.parts.length).map fun n => toString (⟨p.anchor, p.parts.take (n + 1)⟩ : Path)).filter
    fun above => (s.entryAt? above).isNone

def makeDirectories : Utility := fun _ args =>
  let o : Options := {
    short := "m:pvZ", long := [("mode", "m"), ("parents", "p"), ("verbose", "v"), ("context", "Z")] }
  withCall o args fun call => do
    if call.operands.isEmpty then missingOperand
    else
      each call.operands fun path => do
        let s ← get
        let p := Path.parse path
        let refuse := fun (shown reason : String) => do
          complain ("cannot create directory " ++ curved shown ++ ": " ++ reason)
          return false
        if path.isEmpty then return ← refuse path "No such file or directory"
        let fresh := if call.has "p" then missingAbove s p else [path]
        let made :=
          if call.has "p" then s.tree.needDirectories s.here p.anchor p.parts.reverse
          else s.tree.makeDirectory s.here p
        match made with
        | .ok tree =>
          set { s with tree }
          if call.has "v" then
            for x in fresh do out (s.arg0 ++ ": created directory " ++ quotedName x ++ "\n")
          return true
        | .error fault =>
          match if call.has "p" then blockedBy s p else none with
          | some above => refuse above (if above == toString p then "File exists" else "Not a directory")
          | none => refuse path fault.message

def isEmptyDirectory (s : Session) (place : Place) : Bool := (s.tree.children place).isEmpty

def removeDirectories : Utility := fun _ args =>
  let o : Options := {
    short := "pv"
    long := [("parents", "p"), ("path", "p"), ("verbose", "v"),
      ("ignore-fail-on-non-empty", "ignore-fail-on-non-empty")] }
  withCall o args fun call => do
    if call.operands.isEmpty then missingOperand
    else each call.operands fun path => removeUp call (Path.parse path).parts.length path
where
  /-- Removes a directory and, if that is asked for, those above it. -/
  removeUp (call : Call) : Nat → String → Run Bool
    | 0, path => removeOne call path
    | fuel + 1, path => do
      let worked ← removeOne call path
      let above := directoryOf path
      if worked && call.has "p" && above != "." && above != "/" then removeUp call fuel above
      else return worked
  removeOne (call : Call) (path : String) : Run Bool := do
    let s ← get
    if call.has "v" then out ((← get).arg0 ++ ": removing directory, " ++ quotedName path ++ "\n")
    let refuse := fun (reason : String) => do
      complain ("failed to remove " ++ quotedName path ++ ": " ++ reason)
      return false
    match s.place path, s.entryAt? path with
    | .ok place, some .directory =>
      if isEmptyDirectory s place then
        set { s with tree := s.tree.erase place }
        return true
      else if call.has "ignore-fail-on-non-empty" then return true
      else refuse "Directory not empty"
    | _, some _ => refuse "Not a directory"
    | _, none => refuse (fileFault s path).message

/-- The paths below a place, those of a directory before itself. The fuel bounds the depth. -/
def pathsBelow (s : Session) : Nat → String → List (String × Bool)
  | 0, path => [(path, false)]
  | fuel + 1, path =>
    match s.place path, s.entryAt? path with
    | .ok place, some .directory =>
      (s.tree.children place).flatMap (fun n => pathsBelow s fuel (path ++ "/" ++ n)) ++ [(path, true)]
    | _, _ => [(path, false)]

def remove : Utility := fun _ args =>
  let o : Options := {
    short := "dfiIrRv"
    long := [("force", "f"), ("recursive", "r"), ("dir", "d"), ("verbose", "v"), ("interactive", "interactive"),
      ("no-preserve-root", "no-preserve-root"), ("preserve-root", "preserve-root"),
      ("one-file-system", "one-file-system")]
    optionally := ["interactive", "preserve-root"] }
  withCall o args fun call => do
    let isForced := call.last? ["f", "i", "I"] == some "f"
    if call.operands.isEmpty then
      if isForced then return 0 else missingOperand
    else
      each call.operands fun path => do
        let s ← get
        let refuse := fun (reason : String) => do
          complain ("cannot remove " ++ quotedName path ++ ": " ++ reason)
          return false
        let recursive := call.has "r" || call.has "R"
        let last := lastOf path ""
        match s.place path, s.entryAt? path with
        | .ok place, some (.file _ _) =>
          set { s with tree := s.tree.erase place }
          if call.has "v" then out ("removed " ++ quotedName path ++ "\n")
          return true
        | .ok place, some .directory =>
          if recursive && (last == "." || last == "..") then
            complain ("refusing to remove '.' or '..' directory: skipping " ++ quotedName path)
            return false
          if recursive || (call.has "d" && isEmptyDirectory s place) then
            if call.has "v" then
              let stem := String.ofList (withoutSlashes path.toList)
              for (p, isDirectory) in pathsBelow s 100 stem do
                out ((if isDirectory then "removed directory " else "removed ") ++ quotedName p ++ "\n")
            set { s with tree := s.tree.erase place }
            return true
          else if call.has "d" then refuse "Directory not empty"
          else refuse "Is a directory"
        | _, _ =>
          match deviceOf? s path with
          | some _ => return true
          | none =>
            match fileFault s path with
            | .missing => if isForced then return true else refuse "No such file or directory"
            | .notDirectory => if isForced then return true else refuse "Not a directory"
            | fault => refuse fault.message

/-- Puts what stands at a place, with all below it, at another place. -/
def graft (t : FileTree) (source target : Place) : FileTree :=
  let pieces := t.entries.filterMap fun (place, e) =>
    if source.isPrefixOf place then some (target ++ place.drop source.length, e) else none
  pieces.reverse.foldl (fun t (place, e) =>
    if e == .directory && t.entryAt? place == some .directory then t else t.set place e) t

def transferOptions : Options := {
  short := "abdfHilLnprst:uvxPRS:TZ"
  long := [("archive", "a"), ("force", "f"), ("interactive", "i"), ("no-clobber", "n"), ("recursive", "r"),
    ("target-directory", "t"), ("no-target-directory", "T"), ("update", "u"), ("verbose", "v"),
    ("preserve", "preserve"), ("backup", "backup"), ("suffix", "S"), ("link", "l"), ("symbolic-link", "s"),
    ("parents", "parents"), ("dereference", "L"), ("no-dereference", "P"), ("strip-trailing-slashes", "strip-trailing-slashes"),
    ("remove-destination", "remove-destination")]
  optionally := ["preserve", "backup"] }

/-- Copies or moves one file or directory to a path. -/
def transferOne (name : String) (moves : Bool) (call : Call) (source target : String) : Run Bool := do
  let s ← get
  let refuse := fun (message : String) => do
    complain message
    return false
  match s.place source, s.entryAt? source with
  | .ok from_, some e =>
    let recursive := call.has "r" || call.has "R" || call.has "a"
    if e == .directory && !moves && !recursive then
      return ← refuse ("-r not specified; omitting directory " ++ quotedName source)
    let why := fun (reason : String) =>
      if moves then "cannot move " ++ quotedName source ++ " to " ++ quotedName target ++ ": " ++ reason
      else if e == .directory then "cannot create directory " ++ quotedName target ++ ": " ++ reason
      else "cannot create regular file " ++ quotedName target ++ ": " ++ reason
    match s.place target with
    | .error .notDirectory => refuse (if moves then why "Not a directory" else "cannot stat " ++ quotedName target ++ ": Not a directory")
    | .error fault => refuse (why fault.message)
    | .ok to_ =>
      let present := s.tree.entryAt? to_
      if from_ == to_ then
        return ← refuse (quotedName source ++ " and " ++ quotedName target ++ " are the same file")
      if present.isSome && call.has "n" && !(e == .directory && present == some .directory) then return true
      if e == .directory && from_.isPrefixOf to_ then
        if moves then
          return ← refuse ("cannot move " ++ quotedName source ++ " to a subdirectory of itself, " ++ quotedName target)
        set { s with tree := s.tree.ensure to_ }
        return ← refuse ("cannot copy a directory, " ++ quotedName source ++ ", into itself, " ++ quotedName target)
      match e, present with
      | .directory, some (.file _ _) =>
        return ← refuse ("cannot overwrite non-directory " ++ quotedName target ++ " with directory " ++ quotedName source)
      | .file _ _, some .directory =>
        return ← refuse ("cannot overwrite directory " ++ quotedName target ++
          (if moves then " with non-directory" else " with non-directory"))
      | _, _ => pure ()
      if moves && e == .directory && present == some .directory && !isEmptyDirectory s to_ then
        return ← refuse (why "Directory not empty")
      match s.tree.entryAt? to_.dropLast with
      | some .directory =>
        if e != .directory && target.endsWith "/" then
          return ← refuse (why (if present.isNone then "Not a directory" else "Not a directory"))
        let copied := match e, present with
          -- a file that is there keeps its mode
          | .file text _, some (.file _ executable) =>
            if moves then s.tree.set to_ e else s.tree.set to_ (.file text executable)
          | _, _ => graft s.tree from_ to_
        set { s with tree := if moves then copied.erase from_ else copied }
        if call.has "v" then
          if moves then out ("renamed " ++ quotedName source ++ " -> " ++ quotedName target ++ "\n")
          else
            let rest := fun (p : String) => String.ofList (p.toList.drop source.length)
            let all := if e == .directory then parentsFirst s 100 source else [source]
            for p in all do out (quotedName p ++ " -> " ++ quotedName (target ++ rest p) ++ "\n")
        return true
      | some (.file _ _) => refuse (why "Not a directory")
      | none => refuse (why "No such file or directory")
  | _, _ =>
    match textOfDevice? s source with
    | some text =>
      match ← save target text with
      | none => return true
      | some fault => refuse ("cannot create regular file " ++ quotedName target ++ ": " ++ fault.message)
    | none => refuse ("cannot stat " ++ quotedName source ++ ": " ++ (fileFault s source).message)
where
  textOfDevice? (s : Session) (path : String) : Option String :=
    if name == "cp" then (deviceOf? s path).map s.input else none
  /-- The paths below a path, a directory before what it holds. -/
  parentsFirst (s : Session) : Nat → String → List String
    | 0, path => [path]
    | fuel + 1, path =>
      match s.place path, s.entryAt? path with
      | .ok place, some .directory =>
        path :: (s.tree.children place).flatMap fun n => parentsFirst s fuel (path ++ "/" ++ n)
      | _, _ => [path]

def transfer (name : String) (moves : Bool) : Utility := fun _ args =>
  withCall (if moves then { transferOptions with short := "bfinS:t:TuvZ" } else transferOptions) args fun call => do
    if ["i", "u", "b", "l", "s", "S", "parents", "backup"].any call.has then throw (.unsupported name)
    let s ← get
    let isDirectory := fun (path : String) => s.entryAt? path == some .directory
    let into := fun (directory source : String) =>
      let last := lastOf source ""
      (if directory.endsWith "/" then directory else directory ++ "/") ++ last
    match call.value? "t", call.operands with
    | _, [] => misused 1 "missing file operand"
    | some directory, sources =>
      if isDirectory directory then each sources fun x => transferOne name moves call x (into directory x)
      else fail 1 ("target directory " ++ quotedName directory ++ ": " ++ (notDirectory s directory))
    | none, [x] => misused 1 ("missing destination file operand after " ++ quotedName x)
    | none, operands =>
      let target := operands.getLastD ""
      let sources := operands.dropLast
      if call.has "T" then
        match sources with
        | [x] => each [x] fun x => transferOne name moves call x target
        | _ => misused 1 ("extra operand " ++ quotedName (operands[2]?.getD ""))
      else if isDirectory target then each sources fun x => transferOne name moves call x (into target x)
      else if 1 < sources.length then fail 1 ("target " ++ quotedName target ++ ": " ++ notDirectory s target)
      else each sources fun x => transferOne name moves call x target
where
  notDirectory (s : Session) (path : String) : String :=
    match s.entryAt? path with
    | some _ => "Not a directory"
    | none => (fileFault s path).message

/-- Makes files that are not there. -/
def touch : Utility := fun _ args =>
  let o : Options := {
    short := "acd:fhmr:t:"
    long := [("no-create", "c"), ("date", "d"), ("reference", "r"), ("time", "time"), ("no-dereference", "h")]
    valued := ["time"] }
  withCall o args fun call => do
    if call.operands.isEmpty then misused 1 "missing file operand"
    else
      each call.operands fun path => do
        let s ← get
        if (s.entryAt? path).isSome || path == "-" || (deviceOf? s path).isSome then return true
        if path.endsWith "/" then
          if call.has "c" then return true
          let fault := fileFault s path
          complain ("setting times of " ++ quotedName path ++ ": " ++ fault.message)
          return false
        match s.tree.write s.here (Path.parse path) "" with
        | .ok tree =>
          if call.has "c" then return true
          if path.isEmpty then
            complain ("cannot touch '': No such file or directory")
            return false
          set { s with tree }
          return true
        | .error fault =>
          if call.has "c" then
            match fault with
            | .missing => return true
            | _ => pure ()
          complain ("cannot touch " ++ quotedName path ++ ": " ++ fault.message)
          return false

/-- Whether a mode lets the owner execute a file that could be executed before or not; none if it is no mode. -/
def modeAllows? (mode : String) (before isDirectory : Bool) : Option Bool :=
  let digits := mode.toList
  if digits.all isOctal && !digits.isEmpty && numberIn 8 digits ≤ 0o7777 then
    some (numberIn 8 digits / 64 % 2 == 1)
  else
    (Text.splitAt ',' mode).foldlM (fun b clause => clauseAllows? b clause.toList) before
where
  clauseAllows? (before : Bool) (clause : List Char) : Option Bool :=
    let who := clause.takeWhile (· ∈ ['u', 'g', 'o', 'a'])
    actions (who.isEmpty || who.contains 'u' || who.contains 'a') (clause.length + 1) before (clause.drop who.length)
  /-- Actions one behind the other, such as `+x-w`. -/
  actions (counts : Bool) : Nat → Bool → List Char → Option Bool
    | 0, _, _ => none
    | fuel + 1, before, op :: rest =>
      if op ∉ ['+', '-', '='] then none
      else
        let perms := rest.takeWhile (· ∉ ['+', '-', '='])
        if perms.any (· ∉ ['r', 'w', 'x', 'X', 's', 't', 'u', 'g', 'o']) then none
        else
          let hasX := perms.contains 'x' || (perms.contains 'X' && (isDirectory || before)) ||
            (perms.any (· ∈ ['u', 'g', 'o']) && before)
          let now :=
            if !counts then before
            else if op == '+' then before || hasX
            else if op == '-' then before && !hasX
            else hasX
          match rest.drop perms.length with
          | [] => some now
          | more => actions counts fuel now more
    | _ + 1, _, [] => none

/-- Lets files be executed, or no longer. -/
def changeMode : Utility := fun _ args => do
  -- a mode that takes rights away looks like an option
  let isMode := fun (a : String) =>
    match a.toList with
    | '-' :: c :: cs => (c :: cs).all (fun c => isOctal c || c ∈ ['r', 'w', 'x', 'X', 's', 't', ',', '+', '-', '=', 'u', 'g', 'o', 'a']) &&
        (isOctal c || c ∈ ['r', 'w', 'x', 'X', 's', 't'])
    | _ => false
  let before := args.takeWhile fun a => a.startsWith "-" && !isMode a && a != "--"
  let rest := args.drop before.length
  let given := match rest with
    | a :: more => if isMode a then before ++ "--" :: a :: more else args
    | [] => args
  let o : Options := {
    short := "Rcfv"
    long := [("recursive", "R"), ("changes", "c"), ("silent", "f"), ("quiet", "f"), ("verbose", "v"),
      ("reference", "reference"), ("preserve-root", "preserve-root"), ("no-preserve-root", "no-preserve-root")]
    valued := ["reference"] }
  withCall o given fun call => do
    if call.has "v" || call.has "c" || call.has "reference" then throw (.unsupported "chmod")
    match call.operands with
    | [] => missingOperand
    | [mode] => if isMode mode then missingOperand else misused 1 ("missing operand after " ++ curved mode)
    | mode :: paths =>
      if (modeAllows? mode false false).isNone then misused 1 ("invalid mode: " ++ curved mode)
      else
        each paths fun path => do
          let s ← get
          match s.place path, s.entryAt? path with
          | .ok place, some (.file text old) =>
            set { s with tree := s.tree.set place (.file text ((modeAllows? mode old false).getD old)) }
            return true
          | .ok place, some .directory =>
            if call.has "R" then
              let entries := s.tree.entries.map fun (p, e) =>
                match e with
                | .file text old =>
                  if place.isPrefixOf p then (p, Entry.file text ((modeAllows? mode old false).getD old)) else (p, e)
                | e => (p, e)
              set { s with tree := ⟨entries⟩ }
            return true
          | _, _ =>
            if !call.has "f" then
              complain ("cannot access " ++ quotedName path ++ ": " ++ (fileFault s path).message)
            return false

/-- Changes nothing about files that are there: the user owns all of them. -/
def changeOwner : Utility := fun _ args =>
  let o : Options := {
    short := "RcfhvHLP", long := [("recursive", "R"), ("changes", "c"), ("silent", "f"), ("quiet", "f"), ("verbose", "v"),
      ("no-dereference", "h"), ("reference", "reference")], valued := ["reference"] }
  withCall o args fun call => do
    match call.operands with
    | [] => missingOperand
    | [owner] => misused 1 ("missing operand after " ++ curved owner)
    | _ :: paths =>
      each paths fun path => do
        let s ← get
        if (s.entryAt? path).isSome then return true
        if !call.has "f" then
          complain ("cannot access " ++ quotedName path ++ ": " ++ (fileFault s path).message)
        return false

/-- A name that is free, made from the text around so many marks of a template. -/
def freshName (s : Session) (marks : Nat) (stem ending : String) : String :=
  let filled := fun (n : Nat) =>
    let digits := Nat.toDigits 10 n
    String.ofList (List.replicate (marks - digits.length) '0' ++ digits)
  ((List.range 1000).map fun n => stem ++ filled n ++ ending).find?
    (fun name => (s.entryAt? name).isNone) |>.getD stem

/-- Makes a file or a directory with a name of its own. -/
def makeTemporary : Utility := fun _ args =>
  let o : Options := {
    short := "dqtup:V"
    long := [("directory", "d"), ("dry-run", "u"), ("quiet", "q"), ("suffix", "suffix"), ("tmpdir", "tmpdir")]
    valued := ["suffix"], optionally := ["tmpdir"] }
  withCall o args fun call => do
    if 1 < call.operands.length then return ← misused 1 "too many templates"
    let s ← get
    let temporary := (s.value? "TMPDIR").getD "/tmp"
    let template := call.operands.headD "tmp.XXXXXXXXXX"
    let directory := match call.value? "p", call.value? "tmpdir" with
      | some d, _ => some (if d.isEmpty then temporary else d)
      | none, some d => some d
      | none, none => if call.operands.isEmpty || call.has "t" || call.has "tmpdir" then some temporary else none
    let cs := template.toList
    let after := (cs.reverse.takeWhile (· != 'X')).reverse
    let before := cs.take (cs.length - after.length)
    let marks := (before.reverse.takeWhile (· == 'X')).length
    if marks < 3 then fail 1 ("too few X's in template " ++ curved template)
    else
      let stem := String.ofList (before.take (before.length - marks))
      let stem := match directory with | some d => d ++ "/" ++ stem | none => stem
      let path := freshName s marks stem (String.ofList after ++ (call.value? "suffix").getD "")
      let made :=
        if call.has "u" then .ok s.tree
        else if call.has "d" then s.tree.makeDirectory s.here (Path.parse path)
        else s.tree.write s.here (Path.parse path) ""
      match made with
      | .ok tree =>
        set { s with tree }
        outLines [path]
        return 0
      | .error fault =>
        if !call.has "q" then
          let shown := match directory with | some d => d ++ "/" ++ template | none => template
          complain ("failed to create " ++ (if call.has "d" then "directory" else "file") ++ " via template " ++
            curved shown ++ ": " ++ fault.message)
        return 1

/-- Writes its input to its output and to files. -/
def tee : Utility := fun _ args =>
  let o : Options := {
    short := "aip", long := [("append", "a"), ("ignore-interrupts", "i"), ("output-error", "p")] }
  withCall o args fun call => do
    let text ← Run.takeInput
    out text
    each call.operands fun path => do
      let s ← get
      let before := match s.entryAt? path with
        | some (.file old _) => if call.has "a" then old else ""
        | _ => ""
      match ← save path (before ++ text) with
      | none => return true
      | some fault =>
        plainRefusal path fault
        return false

/-- A size with a letter for its unit. -/
def sizeNumber? (s : String) : Option Nat :=
  let digits := s.toList.takeWhile Char.isDigit
  let n := numberIn 10 digits
  if digits.isEmpty then none
  else
    match String.ofList (s.toList.drop digits.length) with
    | "" => some n
    | "b" => some (n * 512)
    | "kB" => some (n * 1000)
    | "K" => some (n * 1024)
    | "k" => some (n * 1024)
    | "KiB" => some (n * 1024)
    | "MB" => some (n * 1000 * 1000)
    | "M" => some (n * 1024 * 1024)
    | "m" => some (n * 1024 * 1024)
    | "MiB" => some (n * 1024 * 1024)
    | "GB" => some (n * 1000 * 1000 * 1000)
    | "G" => some (n * 1024 * 1024 * 1024)
    | "GiB" => some (n * 1024 * 1024 * 1024)
    | _ => none

/-- Cuts files or fills them up with the character that is none. -/
def truncate : Utility := fun _ args =>
  let o : Options := {
    short := "cor:s:", long := [("no-create", "c"), ("size", "s"), ("reference", "r"), ("io-blocks", "o")] }
  withCall o args fun call => do
    match call.value? "s", call.operands with
    | none, _ => misused 1 "you must specify either ‘--size’ or ‘--reference’"
    | some _, [] => misused 1 "missing file operand"
    | some size, paths =>
      match sizeNumber? size with
      | none =>
        if size.toList.head?.any fun c => c ∈ ['+', '-', '<', '>', '/', '%'] then throw (.unsupported "truncate")
        fail 1 ("Invalid number: " ++ curved size)
      | some n =>
        each paths fun path => do
          let s ← get
          let old := match s.entryAt? path with | some (.file text _) => Text.bytes text.toList | _ => []
          if (s.entryAt? path).isNone && call.has "c" then return true
          let text := String.ofList (Text.ofBytes ((old ++ List.replicate (n - old.length) 0).take n))
          match ← save path text with
          | none => return true
          | some fault =>
            complain ("cannot open " ++ quotedName path ++ " for writing: " ++ fault.message)
            return false

/-- Facts about a file, as letters behind a percent sign ask for them. -/
def statText? (path : String) (e : Entry) : List Char → Option String
  | [] => some ""
  | '%' :: c :: rest => do
    let fact ← match c, e with
      | 'n', _ => some path
      | 'N', _ => some (quotedName path)
      | 's', .file text _ => some (toString (Text.bytes text.toList).length)
      | 'F', .file text _ => some (if text.isEmpty then "regular empty file" else "regular file")
      | 'F', .directory => some "directory"
      | 'a', .file _ x => some (if x then "755" else "644")
      | 'a', .directory => some "755"
      | 'A', .file _ x => some (if x then "-rwxr-xr-x" else "-rw-r--r--")
      | 'A', .directory => some "drwxr-xr-x"
      | 'u', _ => some "0"
      | 'g', _ => some "0"
      | 'U', _ => some "root"
      | 'G', _ => some "root"
      | '%', _ => some "%"
      | _, _ => none
    return fact ++ (← statText? path e rest)
  | c :: rest => do return String.singleton c ++ (← statText? path e rest)

/-- All that is written is kept anyway. -/
def synchronize : Utility := fun _ args =>
  withCall { short := "df", long := [("data", "d"), ("file-system", "f")] } args fun call => do
    each call.operands fun path => do
      let s ← get
      if (s.entryAt? path).isSome then return true
      complain ("error opening " ++ quotedName path ++ ": " ++ (fileFault s path).message)
      return false

def status : Utility := fun _ args =>
  let o : Options := {
    short := "Lfc:t", long := [("format", "c"), ("printf", "printf"), ("dereference", "L"), ("terse", "t")], valued := ["printf"] }
  withCall o args fun call => do
    match call.value? "c", call.operands with
    | _, [] => missingOperand
    | format, paths =>
      each paths fun path => do
        let s ← get
        match s.entryAt? path with
        | some e =>
          match format.bind fun f => statText? path e f.toList with
          | some text =>
            out (text ++ "\n")
            return true
          | none => throw (.unsupported "stat")
        | none =>
          complain ("cannot statx " ++ quotedName path ++ ": " ++ (fileFault s path).message)
          return false

/-- Makes directories, or copies files with a mode. -/
def install : Utility := fun _ args =>
  let o : Options := {
    short := "bcDdg:m:o:psS:t:Tv"
    long := [("directory", "d"), ("mode", "m"), ("target-directory", "t"), ("verbose", "v"), ("owner", "o"), ("group", "g")] }
  withCall o args fun call => do
    if call.has "v" then throw (.unsupported "install")
    let s ← get
    if call.has "d" then
      if call.operands.isEmpty then misused 1 "missing file operand"
      else
        each call.operands fun path => do
          let s ← get
          let p := Path.parse path
          match s.tree.needDirectories s.here p.anchor p.parts.reverse with
          | .ok tree =>
            set { s with tree }
            return true
          | .error fault =>
            complain ("cannot create directory " ++ quotedName path ++ ": " ++ fault.message)
            return false
    else
      let mode := (call.value? "m").getD "755"
      if (modeAllows? mode false false).isNone then fail 1 ("invalid mode " ++ quotedName mode)
      else
        let (sources, target) := match call.value? "t" with
          | some d => (call.operands, d)
          | none => (call.operands.dropLast, call.operands.getLastD "")
        match sources with
        | [] =>
          if call.operands.isEmpty then misused 1 "missing file operand"
          else misused 1 ("missing destination file operand after " ++ quotedName target)
        | sources =>
          let isDirectory := s.entryAt? target == some .directory
          each sources fun source => do
            let path := if isDirectory then target ++ "/" ++ lastOf source "" else target
            if call.has "D" then
              let s ← get
              match s.tree.needParent s.here (Path.parse path) with
              | .ok tree => set { s with tree }
              | .error _ => pure ()
            let s ← get
            match s.entryAt? source with
            | some (.file text _) =>
              match s.tree.write s.here (Path.parse path) text with
              | .ok tree =>
                let tree := match tree.walk s.here (Path.parse path) with
                  | .ok place => tree.set place (.file text ((modeAllows? mode false false).getD true))
                  | .error _ => tree
                set { s with tree }
                return true
              | .error fault =>
                complain ("cannot create regular file " ++ quotedName path ++ ": " ++ fault.message)
                return false
            | some .directory =>
              complain ("omitting directory " ++ quotedName source)
              return false
            | none =>
              complain ("cannot stat " ++ quotedName source ++ ": " ++ (fileFault s source).message)
              return false

/-- Removes one file. -/
def unlink : Utility := fun _ args =>
  withCall { short := "" } args fun call => do
    match call.operands with
    | [] => missingOperand
    | [path] =>
      let s ← get
      match s.place path, s.entryAt? path with
      | .ok place, some (.file _ _) =>
        set { s with tree := s.tree.erase place }
        return 0
      | _, some _ => fail 1 ("cannot unlink " ++ quotedName path ++ ": Is a directory")
      | _, none => fail 1 ("cannot unlink " ++ quotedName path ++ ": " ++ (fileFault s path).message)
    | _ :: x :: _ => extraOperand x

end Toolwrap.Shell.Utility
