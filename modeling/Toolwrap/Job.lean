import Toolwrap.CallLog
import Toolwrap.FileTree
/-!
Jobs: runs of a wrapper, each with a name of its own. What a job wrote is kept in two files that bear
its name.
-/
namespace Toolwrap

structure Job where
  id : String
  wrapper : Path
  args : List String
deriving Repr

namespace Job

/-- The file that keeps what a job wrote to its output. -/
def outputLog (job : Job) (logs : Path) : Path := logs.child (job.id ++ ".stdout")

/-- The file that keeps what a job wrote to its error stream. -/
def errorLog (job : Job) (logs : Path) : Path := logs.child (job.id ++ ".stderr")

def line (job : Job) : String :=
  job.id ++ ": " ++ toString job.wrapper ++ " " ++ " ".intercalate job.args

/-- Makes the directory for the files of jobs. -/
def needLogs (logs : Path) : Work Unit :=
  Work.change (fun _ => .unsuited) fun t here =>
    if logs.parts.isEmpty then .ok t else t.needDirectories here logs.anchor logs.parts.reverse

def writeLog (file : Path) (text : String) : Work Unit :=
  Work.change (fun _ => .unsuited) fun t here => t.write here file text

/-- Runs a job. With `check`, it has to succeed. Its outputs are given as they are read back. -/
def run (start : Launcher) (logs : Path) (check : Bool) (job : Job) : Work Outcome := do
  Work.announce job.line
  writeLog (job.outputLog logs) ""
  writeLog (job.errorLog logs) ""
  let outcome ← start job.wrapper job.args
  writeLog (job.outputLog logs) outcome.output
  writeLog (job.errorLog logs) outcome.errors
  if check && outcome.code != 0 then
    throw (.execution (.job job.id (toString (job.errorLog logs))) outcome.code)
  return { outcome with
    output := Text.readLineEnds outcome.output, errors := Text.readLineEnds outcome.errors }

end Job

end Toolwrap
