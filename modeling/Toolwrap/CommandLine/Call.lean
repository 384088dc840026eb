import Toolwrap.Build
import Toolwrap.CommandLine.Basic
import Toolwrap.Job
import Toolwrap.Shell.Process
/-!
Calls of the program: a pinned release is called in its place, or else the command line is read and
carried out. Faults become messages and codes.
-/
namespace Toolwrap.CommandLine

/-- The environment of a call and the name that a job of it gets. -/
structure Setting where
  env : List (String × String)
  jobId : String
deriving Repr

/-- How a call ends. -/
inductive Ending where
  | code (n : Int)
  | refused (r : Refusal)
deriving DecidableEq, Repr

/-- How a call ended and what it wrote to its output. -/
structure Result where
  ending : Ending
  output : String := ""
deriving DecidableEq, Repr

/-- The platform of a component that a request names. -/
def platformOf (c : Component) (id : Option String) : Work Platform :=
  Work.ofChecked (c.platform (id.elim .null .text))

/-- The arguments of a run; two dashes in front of them only set them apart. -/
def runArguments (args : List String) : List String :=
  if args.head? == some "--" then args.drop 1 else args

def Request.perform (setting : Setting) : Request → Work Result
  | .build config id output setup => do
    let c ← readDescription config
    let p ← platformOf c id
    let _ ← Build.component (Shell.launch setting.env) c p output setup
    return { ending := .code 0 }
  | .run config id logs args => do
    let c ← readDescription config
    let p ← platformOf c id
    let directory := (logs.child "build").join (← Work.ofChecked (p.defaultOutput c))
    let wrapper ← Build.component (Shell.launch setting.env) c p (some directory) false
    Job.needLogs logs
    let job : Job := { id := setting.jobId, wrapper, args := runArguments args }
    let outcome ← job.run (Shell.launch setting.env) logs false
    Work.pass outcome.errors
    return { ending := .code outcome.code, output := outcome.output }
  | .dockerfile config id => do
    let c ← readDescription config
    let p ← platformOf c id
    return { ending := .code 0, output := (← Work.ofChecked p.dockerfile) ++ "\n" }

/-- The environment with another value of a variable. -/
def withVariable (env : List (String × String)) (x value : String) : List (String × String) :=
  (x, value) :: env.filter fun v => v.1 != x

/-- Calls another release, which calls no further one. -/
def delegate (setting : Setting) (requested : String) (path : Path) (line : List String) :
    Work Result := do
  let w ← get
  match w.tree.find w.here path with
  | .ok (.file _ _) =>
    let env := withVariable setting.env Release.versionVariable Release.noDelegation
    let outcome ← Shell.launch env path line
    return { ending := .code outcome.code }
  | .error .nameTooLong => throw .unsuited
  | _ => throw (.release requested (toString path))

/-- Reads a command line and carries it out. -/
def carryOut (setting : Setting) (line : List String) : Work Result :=
  match Request.ofLine line with
  | .ok request => request.perform setting
  | .error .version => return { ending := .refused .version, output := "bashwrap " ++ release ++ "\n" }
  | .error refusal => return { ending := .refused refusal }

/-- Hands a call to the release that is asked for, or carries it out. -/
def dispatch (setting : Setting) (line : List String) : Work Result := do
  let w ← get
  let home := (setting.env.lookup "HOME").getD "/"
  let pin ← Work.ofChecked (Release.detect w.tree home setting.env w.here)
  match Release.delegatePath pin.requested release pin.home with
  | some path => delegate setting (pin.requested.getD "") path line
  | none => carryOut setting line

/-- The code with which a fault ends a call. -/
def codeOf : Fault → Int
  | .execution _ code => code
  | _ => 1

/-- A call of the program. A fault that is no fault of the user is passed on. -/
def call (setting : Setting) (line : List String) : Work Result := do
  try dispatch setting line
  catch
    | .unsuited => throw .unsuited
    | fault =>
      Work.say ("bashwrap: " ++ fault.message)
      return { ending := .code (codeOf fault) }

end Toolwrap.CommandLine
