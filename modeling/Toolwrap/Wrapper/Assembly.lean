import Toolwrap.Argument.Read
import Toolwrap.Wrapper.Functions
import Toolwrap.Wrapper.Help
import Toolwrap.Wrapper.Layer
import Toolwrap.Wrapper.Parsing
import Toolwrap.Wrapper.Phrases
import Toolwrap.Wrapper.Validation
/-!
The whole wrapper: its sections in order, set apart by empty lines. The arguments of the layers are
read and checked like those of the component, behind them.
-/
namespace Toolwrap.Wrapper

open Shell

/-- What a wrapper is made from. -/
structure Plan where
  name : String
  version : Value := .null
  description : Value := .null
  generatorVersion : String
  arguments : List Argument
  layer : Layer := .empty
  /-- the command that starts the environment, empty on the host -/
  executor : String := ""
  /-- how the main resource is started -/
  command : String
  setupFunctions : String := ""
  /-- the default number of processes, empty for none -/
  processes : String := ""
  /-- the default amount of memory, empty for none -/
  memory : String := ""
  /-- whether the command takes the arguments as a command line -/
  passArguments : Bool := false
  helpExtra : List String := []

namespace Plan

/-- The arguments that the wrapper reads. -/
def allArguments (plan : Plan) : List Argument := plan.arguments ++ plan.layer.inputs

def sections (plan : Plan) : Checked (List String) := do
  let all := plan.allArguments
  let title := title plan.name plan.version
  let extra := if plan.layer.parsers.isEmpty then [] else [Clause.spliced plan.layer.parsers]
  let help ← help title plan.description all plan.helpExtra
  return [
    header title plan.generatorVersion,
    tempDir.render,
    Functions.core,
    (metadata plan.name plan.processes plan.memory).render,
    help,
    plan.setupFunctions,
    (storageReset all).render,
    plan.layer.preParse,
    (parserLoop title (all.flatMap argumentClauses ++ metaClauses) extra).render,
    (positionals all).render] ++
    all.map (fun a => (validation a).render) ++ [
    metaDerivation.render,
    (exports all).render,
    plan.layer.postParse,
    if plan.passArguments then (executableArguments plan.arguments).render else "",
    invocation plan.executor plan.layer.extraParams plan.command]

/-- The text of the wrapper. -/
def render (plan : Plan) : Checked String := do
  checkArguments plan.allArguments
  let sections ← plan.sections
  return Functions.apart (sections.filter fun s => !s.isEmpty) ++ "\n"

end Plan

end Toolwrap.Wrapper
