import Toolwrap.Docker.Layers
import Toolwrap.Release
import Toolwrap.Wrapper.Assembly
/-!
Platforms: where a component is run, on the host or in a container. A platform turns a component into
the text of its wrapper.
-/
namespace Toolwrap

inductive Platform where
  | native (id : Value)
  | docker (d : Docker)
deriving Repr

namespace Platform

def kind : Platform → String
  | native _ => "native"
  | docker _ => "docker"

def kinds : List String := ["docker", "native"]

def id : Platform → Value
  | native id => id
  | docker d => d.id

def onHost : Platform := .native (.text "native")

def ofMapping (given : Fields) : Checked Platform := do
  let type := ((given.get? "type").getD (.text "native")).display
  let fields : Fields := given.erase "type"
  if type == "native" then
    fields.checkKnown ["id"] (.platformFields type)
    let id := fields.getD "id"
    return .native (if id.isGiven then id else .text type)
  else if type == "docker" then
    fields.checkKnown Docker.fields (.platformFields type)
    return .docker (← Docker.ofFields fields)
  else refuse (.platformTypeUnknown type kinds)

/-- Reads a platform; without a type it is the host. -/
def ofValue : Value → Checked Platform
  | .map given => ofMapping given
  | v => refuse (.platformNotMapping v)

def executor : Platform → String
  | native _ => ""
  | docker d => d.executor

def setupFunctions (p : Platform) (c : Component) : Checked String :=
  match p with
  | native _ => .ok ""
  | docker d => d.setupFunctions c

def helpExtra : Platform → List String
  | native _ => []
  | docker _ => Docker.helpExtra

def layer (p : Platform) (c : Component) : Checked Wrapper.Layer :=
  match p with
  | native _ => .ok .empty
  | docker d => d.layer c

/-- The recipe of the image, where there is one. -/
def dockerfile : Platform → Checked String
  | native id => refuse (.noDockerfile id.display "native")
  | docker d => .ok d.dockerfile

/-- The directory that a component is built in unless another one is named. -/
def defaultOutput (p : Platform) (c : Component) : Checked Path := do
  return ((Path.parse "target").child (← p.id.needText)).child c.name

/-- What the wrapper of a component is made from. -/
def plan (p : Platform) (c : Component) (t : FileTree) (here : Place) : Checked Wrapper.Plan := do
  let command ← c.main.command t here
  let layer ← p.layer c
  let setupFunctions ← p.setupFunctions c
  return {
    name := c.name, version := c.version, description := c.description
    generatorVersion := release, arguments := c.arguments, layer, command, setupFunctions
    executor := p.executor
    processes := c.defaults.processes.elim "" toString
    memory := c.defaults.memory.getD ""
    passArguments := c.main.passArguments, helpExtra := p.helpExtra }

/-- The text of the wrapper of a component. -/
def generate (p : Platform) (c : Component) (t : FileTree) (here : Place) : Checked String := do
  (← p.plan c t here).render

/-- The identity by which a platform is chosen: its id, or else its type. -/
def identity : Value → Checked Value
  | .map given =>
    .ok (((Fields.get? given "id").orElse fun _ => Fields.get? given "type").getD
      (.text "native"))
  | _ => .error .unsuited

/-- The first of the platforms with an identity. -/
def choose? (wanted : Value) : List Value → Checked (Option Value)
  | [] => .ok none
  | spec :: rest => do
    if (← identity spec).same wanted then return some spec
    choose? wanted rest

end Platform

/-- The platform of a component with an identity; without one, the first platform that it names, or
the host. -/
def Component.platform (c : Component) (wanted : Value := .null) : Checked Platform := do
  match c.platforms, wanted with
  | [], .null => return .onHost
  | first :: _, .null => Platform.ofValue first
  | specs, wanted =>
    let specs := if specs.isEmpty then [.map [(.text "type", .text "native")]] else specs
    match ← Platform.choose? wanted specs with
    | some spec => Platform.ofValue spec
    | none =>
      if wanted.same (.text "native") then return .onHost
      let known ← specs.mapM Platform.identity
      refuse (.platformUnknown c.name wanted.display (known.map Value.display))

end Toolwrap
