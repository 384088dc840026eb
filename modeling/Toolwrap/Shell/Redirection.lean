import Toolwrap.Fault
import Toolwrap.Shell.Assignment
/-!
Redirections of a command: where its descriptors lead while it runs.
-/
namespace Toolwrap.Shell

/-- The message of a file that cannot be used. -/
def fileFault (s : Session) (path : String) : FileFault :=
  match s.place path with
  | .error fault => fault
  | .ok _ => .missing

/-- Lets a descriptor lead to a text that is to be read. -/
def feed (fd : Nat) (text : String) : Run Unit := modify fun s =>
  let (s, n) := s.addText text
  s.redirect fd (.text n)

/-- The channel of a file that is a device or a descriptor. -/
def deviceOf? (s : Session) (path : String) : Option Channel :=
  match path with
  | "/dev/null" => some .null
  | "/dev/stdin" => some (s.channel 0)
  | "/dev/stdout" => some (s.channel 1)
  | "/dev/stderr" => some (s.channel 2)
  | _ =>
    if path.startsWith descriptorPath then
      ((String.ofList (path.toList.drop descriptorPath.length)).toNat?).map s.channel
    else none

/-- Complains about a file that is not opened. -/
def refuseFile (path : String) (opening : String) (fault : FileFault) : Run Unit := do
  let s ← get
  if s.isPlain then
    let reason :=
      match fault with
      | .missing => if opening == "create" then "Directory nonexistent" else "No such file"
      | fault => fault.message
    Run.complain ("cannot " ++ opening ++ " " ++ path ++ ": " ++ reason)
  else Run.complain (path ++ ": " ++ fault.message)

/-- How a file is opened for writing. -/
inductive Opening where
  | anew | append | force
deriving DecidableEq, Repr

/-- Opens a file for writing. -/
def openOutput (path : String) (how : Opening) : Run (Option Channel) := do
  let s ← get
  match deviceOf? s path with
  | some .closed =>
    refuseFile path "create" .missing
    return none
  | some c => return some c
  | none =>
    let isFile := match s.entryAt? path with | some (.file _ _) => true | _ => false
    if how == .anew && s.has .noclobber && isFile then
      if s.isPlain then Run.complain ("cannot create " ++ path ++ ": File exists")
      else Run.complain (path ++ ": cannot overwrite existing file")
      return none
    if path.endsWith "/" && !isFile then
      match fileFault s path with
      | .missing => refuseFile path "create" .isDirectory
      | fault => refuseFile path "create" fault
      return none
    let old := match s.entryAt? path with | some (.file text _) => text | _ => ""
    let written : Except FileFault (Place × FileTree) := do
      let place ← s.place path
      let tree ← s.tree.write s.here (Path.parse path) (if how == .append then old else "")
      return (place, tree)
    match written with
    | .ok (place, tree) =>
      set { s with tree }
      return some (.file place)
    | .error fault =>
      refuseFile path "create" fault
      return none

/-- Opens a file for reading: the channel that its text is read from. -/
def openInput (path : String) : Run (Option Channel) := do
  let s ← get
  match deviceOf? s path with
  | some .closed =>
    refuseFile path "open" .missing
    return none
  | some c => return some c
  | none =>
    match s.entryAt? path with
    | some (.file text _) =>
      let (s, n) := s.addText text
      set { s with fromFiles := n :: s.fromFiles }
      return some (.text n)
    | some .directory =>
      let (s, n) := s.addText ""
      set s
      return some (.text n)
    | none =>
      refuseFile path "open" (fileFault s path)
      return none

/-- Lets descriptors lead to a channel; whether there is one. -/
def leadTo (fds : List Nat) : Option Channel → Run Bool
  | some c => do
    modify fun s => fds.foldl (fun s fd => s.redirect fd c) s
    return true
  | none => return false

namespace Redirect

/-- The file that a target names, which has to be one word. -/
def path (E : Engine) (target : Word) (work : String → Run Bool) : Run Bool := do
  match ← Word.fields E target with
  | [path] => work path
  | _ =>
    if (← get).isPlain then work (← Word.text E target)
    else
      Run.complain (inlineParts target ++ ": ambiguous redirect")
      return false

/-- Lets a descriptor lead where another one does, or nowhere. With a dash behind its number the other one is
closed. -/
def duplicate (fd : Nat) (target : String) (shown : String) (orFile : Bool) : Run Bool := do
  let moves := target.endsWith "-"
  let digits := if moves then String.ofList target.toList.dropLast else target
  if target == "-" then
    modify fun s => s.redirect fd .closed
    return true
  match if digits.toList.all Char.isDigit then digits.toNat? else none with
  | some n =>
    match (← get).channel n with
    | .closed =>
      Run.complain (digits ++ ": Bad file descriptor")
      return false
    | c =>
      modify fun s =>
        let s := s.redirect fd c
        if moves && n != fd then s.redirect n .closed else s
      return true
  | none =>
    if orFile then leadTo [1, 2] (← openOutput target .anew)
    else
      Run.complain (shown ++ ": ambiguous redirect")
      return false

/-- Applies a redirection to a descriptor; whether that worked. -/
def applyTo (E : Engine) (fd : Nat) (kind : RedirectKind) (target : Word) : Run Bool := do
  match kind with
  | .hereVerbatim =>
    feed fd (fragmentText (← expandParts E true target))
    return true
  | .hereExpanded =>
    feed fd (fragmentText (← expandParts E true target))
    return true
  | .hereText =>
    feed fd ((← Word.text E target) ++ "\n")
    return true
  | .write => path E target fun p => do leadTo [fd] (← openOutput p .anew)
  | .force => path E target fun p => do leadTo [fd] (← openOutput p .force)
  | .append => path E target fun p => do leadTo [fd] (← openOutput p .append)
  | .writeBoth => path E target fun p => do leadTo [1, 2] (← openOutput p .anew)
  | .appendBoth => path E target fun p => do leadTo [1, 2] (← openOutput p .append)
  | .readWrite => path E target fun p => do
    match (← get).entryAt? p with
    | some _ => leadTo [fd] (← openInput p)
    | none => leadTo [fd] (← openOutput p .append)
  | .read => path E target fun p => do leadTo [fd] (← openInput p)
  | .duplicate => do
    path E target fun p => duplicate fd p (inlineParts target) (fd == 1)

/-- The least number of a descriptor that is given to a variable. -/
def leastNamed : Nat := 10

def apply (E : Engine) : Redirect → Run Bool
  | .mk fd kind target => applyTo E fd kind target
  | .named x kind target => do
    match kind, target with
    | .duplicate, [.text "-"] =>
      match ((← get).valueD x).toNat? with
      | some fd =>
        modify fun s => s.redirect fd .closed
        return true
      | none =>
        Run.complain (x ++ ": Bad file descriptor")
        return false
    | _, _ =>
      let s ← get
      let fd := ((List.range 200).map (leastNamed + ·)).find? (fun n => s.channel n == .closed) |>.getD leastNamed
      if ← applyTo E fd kind target then
        modify fun s => { s.setText x (toString fd) with named := fd :: s.named }
        return true
      return false

end Redirect

/-- Applies redirections in order, up to one that fails. -/
def applyRedirects (E : Engine) : List Redirect → Run Bool
  | [] => return true
  | r :: rest => do if ← r.apply E then applyRedirects E rest else return false

/-- Lets the descriptors that were changed since then lead where they did, but for those that were given to
variables. -/
def Session.restoredFrom (before after now : Session) : Session :=
  let fds := (before.descriptors.map (·.1) ++ after.descriptors.map (·.1)).eraseDups
  let changed := fds.filter fun fd =>
    before.channel fd != after.channel fd && !after.named.contains fd
  let now := changed.foldl (fun s fd => s.redirect fd (before.channel fd)) now
  { now with descriptors := now.descriptors.filter fun d => d.2 != .closed }

/-- Runs with redirections; if one of them fails, nothing is run. -/
def redirecting (E : Engine) (redirects : List Redirect) (work : Run Unit) : Run Unit := do
  if redirects.isEmpty then work
  else
    let before ← get
    let applied ← try applyRedirects E redirects
      catch stop =>
        modify fun s => { s with descriptors := before.descriptors }
        throw stop
    let after ← get
    modify fun s => { s with named := before.named }
    Run.finally_ (do
      if applied then work
      else
        Run.setStatus (if (← get).isPlain then 2 else 1)
        Run.check E) (modify fun now => before.restoredFrom after now)

end Toolwrap.Shell
