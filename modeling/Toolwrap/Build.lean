import Toolwrap.CallLog
import Toolwrap.Component
import Toolwrap.Origin
import Toolwrap.Platform
import Toolwrap.Release
import Toolwrap.Yaml.Content
import Toolwrap.Yaml.Flow
/-!
Descriptions: files from which components are read. The files that a description names are found from
its own directory.
-/
namespace Toolwrap

/-- The absolute path of a place. -/
def Path.ofPlace (place : Place) : Path := ⟨.root, place⟩

/-- Reads a component from a file. An empty description counts as a mapping without fields. -/
def readDescription (file : Path) : Work Component := do
  let w ← get
  let text ← Work.orFail
    (fun fault => .resource (.unreadableDescription (toString file) fault)) (w.tree.read w.here file)
  match Yaml.parse (Text.readLineEnds text) with
  | .error .malformed => throw (.configuration (.unreadableDescription (toString file)))
  | .error .impossible => throw .unsuited
  | .ok v =>
    let base := Path.ofPlace (Path.settle w.here file.parent)
    let origin := Path.ofPlace (Path.settle w.here file)
    Component.ofValue (if v.isGiven then v else .map []) base (some origin)

/-!
The record of a build, placed beside the wrapper: by which release and when it was built, and from
what. Of paths only the last part is kept.
-/

/-- A path without the directories that lead to it. -/
def anonymize (p : Path) : String := "[anonymized]/" ++ p.name

structure BuildRecord where
  release : String
  /-- the file of the description -/
  config : Option Path
  /-- the wrapper -/
  executable : Path
  output : Path
  /-- the platform -/
  engine : Value
  runner : String := "executable"
  time : String
  /-- where the files come from -/
  origin : Option String

namespace BuildRecord

def fileName : String := ".bashwrap.yaml"

def fields (r : BuildRecord) : Fields :=
  [(.text "bashwrap_version", .text r.release),
   (.text "config", r.config.elim .null fun p => .text (anonymize p)),
   (.text "executable", .text (anonymize r.executable)),
   (.text "output", .text (anonymize r.output)),
   (.text "engine", r.engine),
   (.text "runner", .text r.runner),
   (.text "build_time", .text r.time)] ++
    (r.origin.map fun address => (.text "git_remote", .text address)).toList

def render (r : BuildRecord) : String := Yaml.document r.fields

end BuildRecord

/-!
Building a component: its wrapper is generated and its resources are looked for before anything is
written; then the resources, the wrapper and the record of the build are placed in one directory.
-/

namespace Build

/-- Whether a resource may be missing when the component is built. -/
def mayBeMissing (isMain : Bool) (r : Resource) : Bool :=
  r.hasText || (isMain && r.kind == .executable)

/-- Every resource is there, in order. -/
def checkResources (t : FileTree) (here : Place) (c : Component) : Checked Unit := do
  for (r, isMain) in (c.main, true) :: c.others.map (·, false) do
    if !mayBeMissing isMain r then
      let source ← r.source
      if !(← Resource.present t here source) then
        .error (.resource (.absent (toString source)))

/-- Writes the record of a build. -/
def writeRecord (record : BuildRecord) (directory : Path) : Work Unit := do
  let file := directory.child BuildRecord.fileName
  Work.change (fun fault => .resource (.unwritten (toString file) fault)) fun t here =>
    t.write here file record.render

/-- The place from which the origin of the files is looked for. -/
def originPlace (t : FileTree) (here : Place) (config : Option Path) (directory : Path) : Place :=
  let p := config.getD directory
  Path.settle here (if t.isDirectory here p then p else p.parent)

/-- Pulls or builds the image of a wrapper. -/
def runSetup (launch : Launcher) (wrapper : Path) : Work Unit := do
  Work.announce ("Running setup of " ++ toString wrapper)
  let outcome ← launch wrapper ["---setup"]
  if outcome.code != 0 then throw (.execution (.setup (toString wrapper)) outcome.code)

/-- Places everything in a directory. -/
def place (c : Component) (p : Platform) (directory : Path) (wrapperText : String) : Work Path := do
  let _ ← c.main.stage directory c.arguments
  for r in c.others do
    let _ ← r.stage directory []
  let wrapper := directory.child c.name
  Resource.writeExecutable (fun fault => .resource (.unwritten (toString wrapper) fault)) wrapper
    wrapperText
  let w ← get
  writeRecord {
    release, config := c.origin, executable := wrapper, output := directory, engine := p.id
    time := w.clock.now
    origin := Origin.remote? w.tree (originPlace w.tree w.here c.origin directory) } directory
  return wrapper

/-- Builds a component for a platform; without a directory, in the one of the platform. -/
def component (launch : Launcher) (c : Component) (p : Platform) (output : Option Path)
    (setup : Bool) : Work Path :=
  Work.logged { name := "build_component" } do
    let directory ← match output with
      | some d => pure d
      | none => Work.ofChecked (p.defaultOutput c)
    let w ← get
    let text ← p.generate c w.tree w.here
    checkResources w.tree w.here c
    let wrapper ← place c p directory text
    Work.announce ("Built " ++ c.name ++ " (" ++ p.id.display ++ ") in " ++ toString directory)
    if setup then runSetup launch wrapper
    return wrapper

end Build

end Toolwrap
