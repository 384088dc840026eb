import Toolwrap.Workspace
import Toolwrap.Yaml.Content
/-!
Pinned releases. A release is asked for by a variable or else by the nearest project file on the way
up from the working directory; the call is handed to that release unless it is this one.
-/
namespace Toolwrap

/-- The release of this library, which every wrapper names. -/
def release : String := "0.4.0"

namespace Release

/-- The file that pins a release for everything below its directory. -/
def projectFile : String := "_bashwrap.yaml"

/-- Asks for the release that was called, so that a release never hands on twice. -/
def noDelegation : String := "-"

def versionVariable : String := "BASHWRAP_VERSION"

def homeVariable : String := "BASHWRAP_HOME"

/-- What is asked for. -/
structure Pin where
  requested : Option String
  /-- the directory of the installed releases -/
  home : Path
deriving Repr

/-- The places on the way up from one, the place itself first. -/
def upward (place : Place) : List Place :=
  (List.range (place.length + 1)).map fun n => place.take (place.length - n)

/-- The release that a project file asks for. -/
def pinnedIn (file : String) (text : String) : Checked (Option String) :=
  match Yaml.parse (Text.readLineEnds text) with
  | .error .malformed => refuse (.unreadablePin file)
  | .error .impossible => .error .unsuited
  | .ok (.map fields) =>
    match Fields.getD fields "bashwrap_version" with
    | .null => .ok none
    | v => .ok (some v.display)
  | .ok _ => .ok none

/-- The pin of the nearest project file. -/
def projectVersion (t : FileTree) (start : Place) : Checked (Option String) :=
  match (upward start).findSome? fun place =>
      match t.entryAt? (place ++ [projectFile]) with
      | some (.file text _) => some (place ++ [projectFile], text)
      | _ => none with
  | some (file, text) => pinnedIn ("/" ++ "/".intercalate file) text
  | none => .ok none

/-- A variable that is set to more than nothing. -/
def variableOf (env : List (String × String)) (name : String) : Option String :=
  (env.lookup name).filter fun v => !v.isEmpty

/-- The home directory that a sign stands for: the one of the caller, or that of the only other user
known by name. -/
def homeOf? (userHome sign : String) : Option String :=
  if sign == "~" then
    let trimmed := (userHome.toList.reverse.dropWhile (· == '/')).reverse
    if trimmed.isEmpty then some "/" else some (String.ofList trimmed)
  else if sign == "~root" then some "/root"
  else none

/-- A path whose first part may be the sign for a home directory. -/
def expandHome (userHome : String) (p : Path) : Checked Path :=
  match p.anchor, p.parts with
  | .here, first :: rest =>
    if first.startsWith "~" then
      match homeOf? userHome first with
      | some directory =>
        if directory.startsWith "~" then .error .unsuited
        else .ok ((Path.parse directory).join ⟨.here, rest⟩)
      | none => .error .unsuited
    else .ok p
  | _, _ => .ok p

def defaultHome : String := "~/.bashwrap"

/-- What is asked for, the variable before the project file. -/
def detect (t : FileTree) (userHome : String) (env : List (String × String)) (workdir : Place) :
    Checked Pin := do
  let home ← expandHome userHome (Path.parse ((variableOf env homeVariable).getD defaultHome))
  match variableOf env versionVariable with
  | some requested => return { requested := some requested, home }
  | none => return { requested := ← projectVersion t workdir, home }

/-- The program of the release that is asked for, unless the call stays here. -/
def delegatePath (requested : Option String) (current : String) (home : Path) : Option Path :=
  match requested with
  | none => none
  | some r =>
    if r.isEmpty || r == noDelegation || r == current then none
    else some (((home.child "releases").child r).child "bashwrap")

end Release

end Toolwrap
