import Toolwrap.FileTree
import Toolwrap.Moment
/-!
Work on files: computations over a file tree and a working directory. What was done before a failure
stays done, as it does on a disk, and messages to the user are kept in order.
-/
namespace Toolwrap

structure Workspace where
  tree : FileTree := {}
  /-- the working directory -/
  here : Place := []
  clock : Clock := {}
  /-- what was written to the error stream -/
  messages : String := ""

abbrev Work := EStateM Fault Workspace

/-- How a program ended, and what it wrote. -/
structure Outcome where
  code : Int
  output : String
  errors : String
deriving DecidableEq, Repr

/-- Starts a program with arguments. -/
abbrev Launcher := Path → List String → Work Outcome

namespace Work

def ofChecked {α : Type} : Checked α → Work α
  | .ok x => pure x
  | .error fault => throw fault

instance : MonadLift (Except Fault) Work := ⟨ofChecked⟩

/-- What a question about the tree answers. -/
def ask {α : Type} (question : FileTree → Place → α) : Work α := do
  let w ← get
  return question w.tree w.here

/-- Changes the tree, or fails for a cause that the fault of the file explains. -/
def change (cause : FileFault → Fault) (step : FileTree → Place → Except FileFault FileTree) :
    Work Unit := do
  let w ← get
  match step w.tree w.here with
  | .ok tree => set { w with tree }
  | .error fault => throw (fault.during cause)

/-- Writes a text to a file; one that no file can hold leaves the file empty. -/
def write (cause : FileFault → Fault) (file : Path) (text : String) : Work Unit := do
  if Text.hasSurrogate text then
    change cause fun t here => t.write here file ""
    throw .unsuited
  else change cause fun t here => t.write here file text

/-- A message to the user, on a line of its own. -/
def say (line : String) : Work Unit :=
  modify fun w => { w with messages := w.messages ++ line ++ "\n" }

/-- A text to the user as it stands. -/
def pass (text : String) : Work Unit :=
  modify fun w => { w with messages := w.messages ++ text }

/-- The fault of a file as a fault of the work. -/
def orFail {α : Type} (cause : FileFault → Fault) : Except FileFault α → Work α
  | .ok x => pure x
  | .error fault => throw (fault.during cause)

end Work

end Toolwrap
