import Toolwrap.Argument.Read
import Toolwrap.Resource
/-!
Components: one described unit of work, a main resource with its typed arguments and what is shipped
with it. The platforms of a component are kept as they were given and read when one is chosen.
-/
namespace Toolwrap

/-- Defaults for the resources of a run. -/
structure RunDefaults where
  processes : Option Nat := none
  memory : Option String := none
deriving Repr

structure Component where
  name : String
  version : Value := .null
  /-- the namespace, which goes into the name of an image -/
  group : Value := .null
  description : Value := .null
  arguments : List Argument := []
  main : Resource
  /-- the resources that are shipped with the main one -/
  others : List Resource := []
  defaults : RunDefaults := {}
  platforms : List Value := []
  /-- the file of the description, where it was read from one -/
  origin : Option Path := none
deriving Repr

namespace Component

def resources (c : Component) : List Resource := c.main :: c.others

/-- The number of processes is a positive integer. -/
def readProcesses : Value → Checked (Option Nat)
  | .null => .ok none
  | .int n => if 0 < n then .ok (some n.toNat) else refuse (.processCount (.int n))
  | v => refuse (.processCount v)

/-- The default amount of memory, kept as it is written, is one that can be read. -/
def readMemory (v : Value) : Checked (Option String) :=
  if v.isNull then .ok none
  else
    match Memory.parse v.display with
    | .ok _ => .ok (some v.display)
    | .error reason => refuse (.memoryDefault reason)

def readDefaults (fields : Fields) : Checked RunDefaults := do
  let processes ← readProcesses (fields.getD "n_proc")
  let memory ← readMemory (fields.getD "memory")
  return { processes, memory }

def isNameChar (c : Char) : Bool :=
  Argument.isNameChar c || c == '.' || c == '-'

/-- A letter, digit or underscore, then these and dots and dashes. One line feed may end a name. -/
def isName (s : List Char) : Bool :=
  match s with
  | c :: rest =>
    Argument.isNameChar c &&
      (if rest.getLast? = some '\n' then rest.dropLast else rest).all isNameChar
  | [] => false

def readName : Value → Checked String
  | .text s => if isName s.toList then .ok s else refuse (.componentName (.text s))
  | v => refuse (.componentName v)

/-- The first resource is a script unless it says otherwise, the others are files. -/
def readResources (v : Value) (base : Path) : Checked (List Resource) := do
  match ← v.givenMembers with
  | [] => return []
  | first :: rest =>
    let main ← Resource.ofValue first base (Language.bash).name
    let others ← rest.mapM fun spec => Resource.ofValue spec base Resource.Kind.file.name
    return main :: others

/-- No resource may take the place of the wrapper. -/
def checkTargets (name : String) (resources : List Resource) : Checked Unit := do
  for r in resources do
    let target ← r.targetName
    if target.same (.text name) then refuse (.resourceOverWrapper name target.display)

def fields : List String :=
  ["name", "version", "namespace", "description", "arguments", "resources", "requirements",
   "platforms"]

def readRequirements : Value → Checked Fields
  | .map fields =>
    if (Fields.unknown fields ["n_proc", "memory"]).isEmpty then .ok fields else refuse .requirementKeys
  | v => if v.isGiven then refuse .requirementKeys else .ok []

def ofMapping (given : Fields) (base : Path) (origin : Option Path) : Checked Component := do
  given.checkKnown fields .componentFields
  if !given.contains "name" then refuse .componentUnnamed
  let resources ← readResources (given.getD "resources") base
  let requirements ← readRequirements (given.getD "requirements")
  let arguments ← readArguments (given.getD "arguments")
  let defaults ← readDefaults requirements
  let platforms ← (given.getD "platforms").givenMembers
  let name ← readName (given.getD "name")
  let version := given.getD "version"
  match resources with
  | [] => refuse (.noResources name)
  | main :: others =>
    if !main.canRun then refuse (.mainNotRunnable name main.kind.name)
    checkTargets name resources
    return {
      name, arguments, main, others, defaults, platforms, origin
      version := if version.isNull then .null else .text version.display
      group := given.getD "namespace", description := given.getD "description" }

/-- Reads a component whose files are found from a base directory. -/
def ofValue (v : Value) (base : Path) (origin : Option Path := none) : Checked Component :=
  match v with
  | .map given => ofMapping given base origin
  | _ => refuse .componentNotMapping

end Component

end Toolwrap
