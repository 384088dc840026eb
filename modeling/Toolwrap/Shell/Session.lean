import Toolwrap.FileTree
import Toolwrap.Shell.Command
import Toolwrap.Shell.Switch
import Toolwrap.Shell.Variable
/-!
The state of a running shell: its variables in nested scopes, its functions and arguments, the files
it works on, and where its descriptors lead. A descriptor leads to a text that is kept in the state,
to a file, or to nothing, so that pipes and captured output need no operating system.
-/
namespace Toolwrap.Shell

inductive Channel where
  /-- a kept text, written to at its end and read from its front -/
  | text (n : Nat)
  | file (place : Place)
  | null
  | closed
deriving DecidableEq, Repr

/-- The language that a shell runs: the whole one, or its plain core with messages of its own. -/
inductive Dialect where
  | full | plain
deriving DecidableEq, Repr

/-- A function: its body, and the file in which it was defined. -/
structure Function where
  body : Command
  file : String
  /-- the line before the first one of the text in which it was defined -/
  base : Nat := 0
  line : Nat := 0
  exported : Bool := false

/-- A running function or sourced file: its name, the file in which its commands stand, and the line from
which it was called. -/
structure Frame where
  name : String
  file : String
  line : Nat
  isFunction : Bool
deriving DecidableEq, Repr

/-- Why a run did not come to its end. -/
inductive Stop where
  | exit (code : Nat)
  | returned (code : Nat)
  | broke (levels : Nat)
  | continued (levels : Nat)
  /-- the commands of the current line are given up -/
  | discarded
  /-- the time is over until which something was to run, or a signal ends it with a status -/
  | cut (code : Option Nat)
  /-- more steps would have been needed than were allowed -/
  | exhausted
  /-- a program or a construct that is outside of what is covered -/
  | unsupported (what : String)
deriving Repr

/-- What a command came to that runs beside others. -/
structure Outcome where
  tree : FileTree
  texts : List String
  /-- what was written to texts that others see, with the times and the numbers of the texts -/
  written : List (Nat × Nat × String)
  /-- the signals that were sent to others, each with its time and whom it reaches -/
  sent : List (Nat × Nat × Nat)
  /-- the status and the time of its end, none where it went on -/
  ending : Except Stop (Option (Nat × Nat))

/-- A command that is not waited for. It is worked out when time passes: what it does up to a time, if one
is given, with signals that reach it at their times, to files and texts as they are by then. -/
structure Task where
  /-- the number of the process -/
  number : Nat
  run : Option Nat → List (Nat × Nat) → FileTree → List String → Outcome
  arrivals : List (Nat × Nat) := []
  /-- how much of what it wrote, and how many signals, were passed on -/
  written : Nat := 0
  sent : Nat := 0

/-- A task in the list of a shell. -/
structure Job where
  /-- the number in the list -/
  place : Nat
  number : Nat
  text : String
deriving Repr

structure Session where
  tree : FileTree
  /-- the working directory -/
  here : Place
  /-- the scopes of the running functions, innermost first, and at last the global one -/
  scopes : List Scope := [[]]
  functions : List (String × Function) := []
  /-- the arguments of the program or of the running function -/
  args : List String := []
  /-- the name under which the program was started -/
  arg0 : String := "bash"
  dialect : Dialect := .full
  /-- where the program comes from if not from a file: `c` is an argument, `s` the input -/
  origin : Option Char := none
  /-- the exit status of the last command -/
  status : Nat := 0
  /-- the exit status of each command of the last pipe -/
  pipes : List Nat := [0]
  /-- the exit status of the last command whose output stood in for text, if there was one -/
  substituted : Option Nat := none
  switches : List Switch := Switch.initial
  /-- whether a failure is being tested for, so that it ends nothing -/
  shielded : Bool := false
  /-- what is run when the program ends or a command fails, by the name of the event -/
  traps : List (String × String) := []
  /-- what is set for events in the shell around this one, which is shown until something is set here -/
  aroundTraps : List (String × String) := []
  /-- the events for which something is running -/
  trapping : List String := []
  /-- the command that is run -/
  current : Option Command := none
  /-- the line of the command that is run -/
  line : Nat := 1
  /-- the line before the first one of the text that is run -/
  lineBase : Nat := 0
  frames : List Frame := []
  /-- how many loops are running in this function -/
  loops : Nat := 0
  /-- how many subshells are around -/
  depth : Nat := 0
  /-- the last word of the last command -/
  lastWord : String := ""
  /-- the number of the last task -/
  lastJob : Option Nat := none
  /-- the tasks that were neither waited for nor shown to have ended, last one first -/
  jobs : List Job := []
  /-- the numbers of the tasks of this shell -/
  children : List Nat := []
  /-- the time that has passed, in millionths of seconds -/
  clock : Nat := 0
  /-- the time at which everything is cut off -/
  horizon : Option Nat := none
  /-- the tasks that have not ended -/
  tasks : List Task := []
  /-- how many tasks there were -/
  begun : Nat := 0
  /-- the tasks that have ended, each with its status and the time of its end -/
  ended : List (Nat × Nat × Nat) := []
  /-- the kept texts below a number are seen by others than this task -/
  shared : Nat := 0
  /-- what was written to them, with the times -/
  written : List (Nat × Nat × String) := []
  /-- the number of the program, and of the program or the task that signals to this shell reach -/
  programNumber : Nat := 0
  self : Nat := 0
  /-- how many programs are running inside of each other -/
  programs : Nat := 0
  /-- whether a program that is started takes the place of the task -/
  givesWay : Bool := false
  /-- the signals that were sent, each with its time and whom it reaches -/
  arrivals : List (Nat × Nat × Nat) := []
  /-- how many subshells are around the shell that signals reach -/
  home : Nat := 0
  /-- the events for which that shell has set something, where this one is another -/
  guarded : List String := []
  /-- directories to return to -/
  directories : List String := []
  /-- the number of the argument at which `getopts` stands, and of the letter in it -/
  optionPlace : Nat × Nat := (1, 1)
  aliases : List (String × String) := []
  /-- commands of the shell that are not to be found -/
  disabled : List String := []
  /-- the permissions that new files are not given -/
  mask : Nat := 0o022
  /-- programs that were looked for, with their paths and how often they were run -/
  hashed : List (String × String × Nat) := []
  /-- how many texts are run inside of each other -/
  nesting : Nat := 0
  /-- descriptors of the processes that the current command names -/
  processes : List Nat := []
  /-- commands whose input is a kept text that is still written -/
  pending : List (Nat × Script) := []
  texts : List String := []
  /-- the kept texts that are those of files -/
  fromFiles : List Nat := []
  descriptors : List (Nat × Channel) := []
  /-- descriptors that were given to variables by the current command -/
  named : List Nat := []

abbrev Run := EStateM Stop Session

namespace Session

def has (s : Session) (switch : Switch) : Bool := s.switches.contains switch

def turn (s : Session) (switch : Switch) (on : Bool) : Session :=
  let others := s.switches.filter (· != switch)
  { s with switches := if on then switch :: others else others }

def isPlain (s : Session) : Bool := s.dialect == .plain

def find? (s : Session) (x : String) : Option Variable := s.scopes.findSome? (·.lookup x)

/-- The name that references lead to. -/
def resolved (s : Session) (x : String) : String :=
  go 8 x
where
  go : Nat → String → String
    | 0, x => x
    | fuel + 1, x =>
      match s.find? x with
      | some { reference := true, content := .text y, .. } => go fuel y
      | _ => x

def value? (s : Session) (x : String) : Option String := (s.find? x).bind (·.content.value?)

def valueD (s : Session) (x : String) : String := (s.value? x).getD ""

def put (s : Session) (x : String) (v : Variable) : Session :=
  { s with scopes := Scope.putIn x v s.scopes }

/-- A variable as it is, or one that is new. -/
def variableD (s : Session) (x : String) : Variable :=
  (s.find? x).getD { content := .declared, exported := s.has .allexport }

def setContent (s : Session) (x : String) (c : Content) : Session :=
  s.put x { s.variableD x with content := c }

/-- Gives a variable a value; of an array, the item with the index zero changes. -/
def setText (s : Session) (x value : String) : Session :=
  match (s.variableD x).content with
  | .items xs => s.setContent x (.items (Content.insert xs 0 value))
  | .table xs => s.setContent x (.table (Content.tabulate xs "0" value))
  | _ => s.setContent x (.text value)

def setItem (s : Session) (x : String) (n : Nat) (value : String) : Session :=
  s.setContent x (.items (Content.insert (s.variableD x).content.list n value))

def setEntry (s : Session) (x key value : String) : Session :=
  match (s.variableD x).content with
  | .table xs => s.setContent x (.table (Content.tabulate xs key value))
  | _ => s.setContent x (.table [(key, value)])

def setExported (s : Session) (x : String) (on : Bool) : Session :=
  s.put x { s.variableD x with exported := on }

/-- Puts a variable into the innermost scope, hiding one outside of it. -/
def putLocal (s : Session) (x : String) (v : Variable) : Session :=
  match s.scopes with
  | scope :: rest => { s with scopes := scope.put x v :: rest }
  | [] => { s with scopes := [[(x, v)]] }

def unset (s : Session) (x : String) : Session := { s with scopes := Scope.unsetIn x true s.scopes }

/-- The environment of a program that is started: the exported variables. -/
def environment (s : Session) : List (String × String) := Scope.exportsOf [] s.scopes

/-- The names of all variables, sorted. -/
def names (s : Session) : List String :=
  Text.sorted ((s.scopes.flatMap fun scope => scope.map (·.1)).eraseDups)

/-- A new kept text. -/
def addText (s : Session) (content : String) : Session × Nat :=
  ({ s with texts := s.texts ++ [content] }, s.texts.length)

def textOf (s : Session) (n : Nat) : String := s.texts.getD n ""

def setTextOf (s : Session) (n : Nat) (content : String) : Session :=
  { s with texts := s.texts.set n content }

def channel (s : Session) (fd : Nat) : Channel := (s.descriptors.lookup fd).getD .closed

def redirect (s : Session) (fd : Nat) (c : Channel) : Session :=
  { s with descriptors := (fd, c) :: s.descriptors.filter fun d => d.1 != fd }

/-- Puts a text behind another one; bytes that make up characters become characters. -/
def joinTexts (old new : String) : String :=
  if new.toList.any Text.isLoose then String.ofList (Text.mended (old ++ new).toList) else old ++ new

/-- Writes to a channel at a time. -/
def writeAt (s : Session) (time : Nat) (c : Channel) (out : String) : Session :=
  match c with
  | .text n =>
    if n < s.shared then { s with written := s.written ++ [(time, n, out)] }
    else s.setTextOf n (joinTexts (s.textOf n) out)
  | .file place =>
    match s.tree.entryAt? place with
    | some (.file old executable) =>
      { s with tree := s.tree.set place (.file (joinTexts old out) executable) }
    | _ => s
  | _ => s

/-- Writes to a channel. -/
def write (s : Session) (c : Channel) (out : String) : Session := s.writeAt s.clock c out

/-- What is left to be read from a channel. -/
def input (s : Session) (c : Channel) : String :=
  match c with
  | .text n => s.textOf n
  | _ => ""

/-- Leaves something to be read from a channel. -/
def leave (s : Session) (c : Channel) (rest : String) : Session :=
  match c with
  | .text n => s.setTextOf n rest
  | _ => s

/-- The place of a path that is given as text; the empty text is no path, and a final slash asks for a
directory. -/
def place (s : Session) (path : String) : Except FileFault Place := do
  if path.isEmpty then .error .missing
  let place ← s.tree.walk s.here (Path.parse path)
  match path.endsWith "/", s.tree.entryAt? place with
  | true, some (.file _ _) => .error .notDirectory
  | _, _ => .ok place

def entryAt? (s : Session) (path : String) : Option Entry :=
  match s.place path with
  | .ok place => s.tree.entryAt? place
  | .error _ => none

/-- A shell as it was, after what happened around it. -/
def keeping (outer after : Session) : Session :=
  { outer with
    tree := after.tree, texts := after.texts, clock := after.clock, tasks := after.tasks
    begun := after.begun, ended := after.ended, written := after.written
    arrivals := after.arrivals }

/-- The directory that the session works in, as text. -/
def hereText (s : Session) : String := "/" ++ "/".intercalate s.here

/-- Whether a function is running, perhaps around a sourced file. -/
def isInFunction (s : Session) : Bool := s.frames.any (·.isFunction)

/-- The file in which the commands that are run stand, as a message names it. -/
def currentFile (s : Session) : String := ((s.frames.head?).map (·.file)).getD s.arg0

/-- The file in which functions are defined that come from no file. -/
def nowhere : String := "environment"

/-- The start of a message: the file and the line. -/
def lead (s : Session) : String :=
  match s.dialect with
  | .full => s.currentFile ++ ": line " ++ toString s.line ++ ": "
  | .plain => s.arg0 ++ ": " ++ toString s.line ++ ": "

end Session

namespace Run

def setStatus (code : Nat) : Run Unit := modify fun s => { s with status := code % 256 }

/-- Keeps the status as that of a pipe of one command. -/
def keepPipe : Run Unit := modify fun s => { s with pipes := [s.status] }

def print (fd : Nat) (out : String) : Run Unit := modify fun s => s.write (s.channel fd) out

/-- A message of the shell itself, behind the name of the program and the line. -/
def complain (message : String) : Run Unit := do
  print 2 ((← get).lead ++ message ++ "\n")

/-- Ends the program with a message. -/
def abort {α : Type} (message : String) : Run α := do
  complain message
  throw (.exit (if (← get).isPlain then 2 else 1))

/-- Gives up the current line with a message. -/
def discard {α : Type} (message : String) : Run α := do
  complain message
  if (← get).isPlain then throw (.exit 2)
  setStatus 1
  throw .discarded

/-- Takes all that is left of the input of a descriptor. -/
def takeInputOf (fd : Nat) : Run String := do
  let s ← get
  let c := s.channel fd
  set (s.leave c "")
  return s.input c

def takeInput : Run String := takeInputOf 0

/-- Does something at the end of a run, however it ends. -/
def finally_ {α : Type} (work : Run α) (after : Run Unit) : Run α := do
  try
    let x ← work
    after
    return x
  catch stop =>
    after
    throw stop

/-- Runs with a change of the descriptors that does not outlive the run. -/
def withDescriptors {α : Type} (change : Session → Session) (work : Run α) : Run α := do
  let old := (← get).descriptors
  modify change
  finally_ work (modify fun s => { s with descriptors := old })

/-- Runs where a failure is tested for. -/
def shielded {α : Type} (work : Run α) : Run α := do
  let old := (← get).shielded
  modify fun s => { s with shielded := true }
  finally_ work (modify fun s => { s with shielded := old })

end Run

end Toolwrap.Shell
