import Toolwrap.CommandLine.Call
/-!
The program. It reads the files around the working directory into a tree, carries out the call on the
tree, and writes back what has changed.
-/
namespace Toolwrap.Program

/-- The variables that a call looks at or passes on. -/
def usedVariables : List String :=
  ["PATH", "HOME", "LC_ALL", "LANG", "USER"] ++ [Release.versionVariable, Release.homeVariable] ++
    ["BW_TEMP"] ++ Wrapper.tempVariables

def environment : IO (List (String × String)) := do
  let values ← usedVariables.mapM fun x => return (← IO.getEnv x).map (x, ·)
  return values.filterMap id

/-- Whether a text is a program. -/
def isProgram (text : String) : Bool := text.startsWith "#!"

def fileText? (path : String) : IO (Option String) := do
  try return some (← IO.FS.readFile path)
  catch _ => return none

def textOf (place : Place) : String := "/" ++ "/".intercalate place

/-- Adds the files of directories and below them. Files that hold no text are left out. -/
partial def load (t : FileTree) (entries : Array IO.FS.DirEntry) : IO FileTree := do
  let mut t := t
  for e in entries do
    let place := (Path.parse e.path.toString).parts
    if ← e.path.isDir then t ← load (t.ensure place) (← e.path.readDir)
    else
      match ← fileText? e.path.toString with
      | some text => t := t.plant place text (isProgram text)
      | none => pure ()
  return t

/-- Adds the project files on the way up. -/
def loadPins (t : FileTree) (here : Place) : IO FileTree := do
  let mut t := t
  for place in Release.upward here do
    let file := place ++ [Release.projectFile]
    match ← fileText? (textOf file) with
    | some text => t := t.plant file text false
    | none => pure ()
  return t

/-- Writes what differs between two trees. -/
def save (before after : FileTree) : IO Unit := do
  for (place, e) in after.entries.reverse do
    if before.entryAt? place != some e then
      match e with
      | .directory => IO.FS.createDirAll (textOf place)
      | .file text executable =>
        IO.FS.createDirAll (textOf place.dropLast)
        IO.FS.writeFile (textOf place) text
        if executable then
          IO.setAccessRights (textOf place)
            ⟨⟨true, true, true⟩, ⟨true, false, true⟩, ⟨true, false, true⟩⟩
  for (place, e) in before.entries do
    match e, after.entryAt? place with
    | .file _ _, none => IO.FS.removeFile (textOf place)
    | _, _ => pure ()

/-- A name for a job: ten letters. -/
def newJobId : IO String := do
  let letters := "abcdefghijklmnopqrstuvwxyzABCDEFGHIJKLMNOPQRSTUVWXYZ".toList
  let picked ← (List.range 10).mapM fun _ => return letters.getD (← IO.rand 0 51) 'a'
  return String.ofList picked

/-- The time at which a file has just been made. -/
def clock : IO Clock := do
  let (_, file) ← IO.FS.createTempFile
  let made := (← file.metadata).modified.sec
  IO.FS.removeFile file
  return { now := Clock.dateTime made.toNat }

def usage : String :=
  "usage: bashwrap [-h] [--version] \x7bbuild,run,dockerfile\x7d CONFIG [options]\n"

/-- The code of a call, after its messages. -/
def finish (result : CommandLine.Result) : IO UInt32 := do
  match result.ending with
  | .code n => return UInt32.ofNat (n.emod 256).toNat
  | .refused .usage =>
    (← IO.getStderr).putStr usage
    return 2
  | .refused .help =>
    (← IO.getStdout).putStr usage
    return 0
  | .refused .version => return 0

end Toolwrap.Program

open Toolwrap Program in
def main (args : List String) : IO UInt32 := do
  let directory ← IO.currentDir
  let here := (Path.parse directory.toString).parts
  let start := [["tmp"], ["usr", "local", "bin"], ["usr", "bin"], ["bin"], here].foldl FileTree.ensure {}
  let before ← loadPins (← load start (← directory.readDir)) here
  let setting : CommandLine.Setting := { env := ← environment, jobId := ← newJobId }
  match (CommandLine.call setting args).run { tree := before, here, clock := ← clock } with
  | .ok result after =>
    save before after.tree
    (← IO.getStdout).putStr result.output
    (← IO.getStderr).putStr after.messages
    finish result
  | .error fault after =>
    save before after.tree
    (← IO.getStderr).putStr (after.messages ++ fault.message ++ "\n")
    return 1
