import Toolwrap.Component
import Toolwrap.Image
import Toolwrap.Requirement
/-!
Containers as an environment of components: the base image with what it needs besides, the name of
the image that is built from it, and how a container is run. Reading one checks its parts in a fixed
order.
-/
namespace Toolwrap

/-- A directory of the host that is given on the command line and appears at a fixed place. -/
structure Volume where
  name : Value
  mount : Value
deriving Repr

/-- A docker platform. Unchecked fields are kept as they were given. -/
structure Docker where
  id : Value
  /-- the base image, as it was given -/
  image : String
  targetRegistry : Value := .null
  targetOrganization : Value := .null
  targetImage : Value := .null
  targetTag : Value := .null
  /-- whether file arguments are mounted -/
  automatic : Bool := true
  /-- whether outputs are given back to the calling user -/
  chown : Bool := true
  ports : List String := []
  workdir : Value := .null
  runArgs : List String := []
  requirements : List Requirement := []
  volumes : List Volume := []
deriving Repr

namespace Docker

def fields : List String :=
  ["id", "image", "target_registry", "target_organization", "target_image", "target_tag",
   "resolve_volume", "chown", "port", "workdir", "run_args", "setup", "apk", "apt", "python", "r",
   "docker", "volumes"]

/-- How volumes of file arguments are found. -/
def resolutions : List String := ["automatic", "manual"]

def readResolution (id : String) : Option Value → Checked Bool
  | none => .ok true
  | some (.text s) =>
    if s ∈ resolutions then .ok (s == "automatic") else refuse (.volumeResolution id resolutions)
  | some _ => refuse (.volumeResolution id resolutions)

/-- The members of a list, and of anything else that is iterated; absent, there are none. -/
def membersOf : Option Value → Checked (List Value)
  | none => .ok []
  | some v => v.members

def textsOf : Option Value → Checked (List String)
  | none => .ok []
  | some v => v.texts

/-- Requirements are listed under `setup` or stand under their own kind, in a fixed order. -/
def readRequirements (given : Fields) : Checked (List Requirement) := do
  let listed ← (← (given.getD "setup").givenMembers).mapM fun spec => Requirement.ofValue spec
  let blocks := ["apk", "apt", "r", "python", "docker"].filter fun k => !(given.getD k).isNull
  let named ← blocks.mapM fun k => Requirement.ofValue (given.getD k) (.text k)
  return listed ++ named

def readVolume (id : String) : Value → Checked Volume
  | .map given =>
    let name := Fields.getD given "name"
    let mount := Fields.getD given "mount"
    if name.isGiven && mount.isGiven then .ok ⟨name, mount⟩ else refuse (.badVolume id (.map given))
  | v => refuse (.badVolume id v)

def ofFields (given : Fields) : Checked Docker := do
  let id := if (given.getD "id").isGiven then given.getD "id" else .text "docker"
  let image := given.getD "image"
  if !image.isGiven then refuse (.imageMissing id.display)
  let _ ← Image.ofValue image
  let automatic ← readResolution id.display (given.get? "resolve_volume")
  let ports ← textsOf (given.get? "port")
  let runArgs ← textsOf (given.get? "run_args")
  let requirements ← readRequirements given
  let volumes ← (← membersOf (given.get? "volumes")).mapM (readVolume id.display)
  return {
    id, automatic, ports, runArgs, requirements, volumes
    image := image.display
    targetRegistry := given.getD "target_registry"
    targetOrganization := given.getD "target_organization"
    targetImage := given.getD "target_image", targetTag := given.getD "target_tag"
    chown := match given.get? "chown" with | some v => v.isGiven | none => true
    workdir := given.getD "workdir" }

/-- The instructions that the requirements add to the base image. -/
def instructions (d : Docker) : List String := d.requirements.flatMap Requirement.instructions

/-- The recipe of the image. -/
def dockerfile (d : Docker) : String :=
  let lines := d.instructions
  "FROM " ++ d.image ++ (if lines.isEmpty then "" else "\n\n" ++ Text.unlines lines)

def buildArgs (d : Docker) : List String := d.requirements.flatMap Requirement.buildArgs

/-- The image that a component is run in: the base image if nothing is added to it, otherwise one
named after the component. -/
def imageFor (d : Docker) (c : Component) : Checked Image :=
  if d.instructions.isEmpty then Image.parse d.image
  else .ok (Image.ofNaming {
    name := .text c.name, group := c.group, version := c.version, registry := d.targetRegistry,
    organization := d.targetOrganization, image := d.targetImage, tag := d.targetTag })

/-- The arguments that take the host directories of the volumes. -/
def volumeArguments (d : Docker) : Checked (List Argument) :=
  d.volumes.mapM fun v => Argument.ofFields .file [
    (.text "name", .text ("--" ++ v.name.display)),
    (.text "description",
      .text ("Host directory mounted at " ++ v.mount.display ++ " in the container."))]

end Docker

end Toolwrap
