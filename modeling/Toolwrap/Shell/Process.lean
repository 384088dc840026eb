import Toolwrap.Shell.Run
import Toolwrap.Workspace
/-!
Starting programs of the tree. A program is a file that may be executed and whose first line names its
interpreter, or one that every host has. It works on the tree, its input is empty, and what it writes
is kept.
-/
namespace Toolwrap.Shell

/-- How often a loop may go round before a program counts as one that does not end. -/
def maxRounds : Nat := 1000000

/-- How deep programs and functions may call each other. -/
def maxCalls : Nat := 1000

/-- Directories that every host has. -/
def hostDirectories : List Place :=
  [["bin"], ["dev"], ["etc"], ["home"], ["proc"], ["root"], ["tmp"], ["usr", "bin"], ["usr", "lib"],
   ["usr", "local", "bin"], ["usr", "share"], ["var", "tmp"]]

/-- The session from which a program is started, with the descriptors of its input and outputs. -/
def launching (w : Workspace) (env : List (String × String)) : Session :=
  let session : Session :=
    { tree := hostDirectories.foldl FileTree.ensure w.tree, here := w.here, texts := ["", "", ""]
      descriptors := [(0, .text 0), (1, .text 1), (2, .text 2)] }
  session.started .full "" [] env

/-- A text whose bytes are all characters. -/
def readable? (s : String) : Option String := if s.toList.any Text.isLoose then none else some s

/-- Starts a program in an environment. A name without a slash is looked for. A file has to name its reader,
and what is written has to be text. -/
def launch (env : List (String × String)) : Launcher := fun path args => do
  let s := launching (← get) env
  let E := engine maxRounds maxCalls
  if (toString path :: args).any FileTree.isBadName then throw .unsuited
  let program ← match s.startOf (toString path) args with
    | .ok (_, .host called name args) => pure (runHost E called name args env)
    | _ => throw .unsuited
  -- a program is over when nothing writes to its outputs any more
  match (do program; let code := (← get).status; Run.drain firstTask; Run.setStatus code).run s with
  | .ok _ after =>
    modify fun w => { w with tree := after.tree }
    match readable? (after.textOf 1), readable? (after.textOf 2) with
    | some output, some errors => return { code := after.status, output, errors }
    | _, _ => throw .unsuited
  | .error _ after =>
    modify fun w => { w with tree := after.tree }
    throw .unsuited

end Toolwrap.Shell
