import Toolwrap.Shell.Task
/-!
What happens around commands: the events for which something is set, how a program ends, and copies of
the shell, in which commands are run, their output taken, or tasks begun.
-/
namespace Toolwrap.Shell

/-- Running what a command holds, with a bound on how deep it goes. -/
structure Engine where
  /-- how often a loop may go round -/
  rounds : Nat
  /-- runs commands -/
  script : Script → Run Unit
  /-- runs a text, behind a word for its messages -/
  source : String → String → Run Unit
  /-- starts a program in an environment -/
  start : List (String × String) → String → List String → Run Unit

namespace Run

/-- Runs what was set for an event, which leaves the status as it is. Its lines are counted from one,
or, with `here`, from the current line. What is given up in it ends only itself. -/
def trapped (E : Engine) (event : String) (here : Bool) (action : String) : Run Unit := do
  let old ← get
  modify fun s => { s with
    lineBase := if here then s.line - 1 else 0, nesting := s.nesting + 1, trapping := event :: s.trapping }
  let lead := match event with
    | "EXIT" => "exit trap: "
    | "ERR" => "error trap: "
    | _ => "trap: "
  try E.source lead action
  catch
    | .discarded => pure ()
    | stop => throw stop
  modify fun s => { s with
    lineBase := old.lineBase, line := old.line, status := old.status, pipes := old.pipes, nesting := old.nesting
    trapping := old.trapping }

/-- Runs what was set for an event that is no end, if it is not being run already. -/
def onEvent (E : Engine) (event : String) : Run Unit := do
  let s ← get
  match s.traps.lookup event with
  | some action => if !action.isEmpty && !s.trapping.contains event then trapped E event true action
  | none => pure ()

/-- Tells which command is run, unless it belongs to what was set for an event, and runs what was set for
all commands. -/
def begin_ (E : Engine) (c : Command) : Run Unit := do
  modify fun s => if s.trapping.isEmpty then { s with current := some c } else s
  onEvent E "DEBUG"

/-- A failure runs what was set for errors, and ends the program where failures count. -/
def check (E : Engine) : Run Unit := do
  let s ← get
  if s.status != 0 && !s.shielded then
    match s.traps.lookup "ERR" with
    | some action =>
      if !action.isEmpty then
        modify fun s => { s with traps := s.traps.filter fun t => t.1 != "ERR" }
        trapped E "ERR" true action
        modify fun t => { t with
          traps := if (t.traps.lookup "ERR").isSome then t.traps else ("ERR", action) :: t.traps }
    | none => pure ()
    if s.has .errexit then throw (.exit s.status)

/-- The code with which commands end. -/
def endCode (work : Run Unit) : Run Nat := do
  let s ← get
  match work.run s with
  | .ok _ after => set after; return after.status
  | .error (.exit own) after => set after; return own
  | .error (.returned own) after => set after; return own
  | .error .discarded after => set after; return after.status
  | .error (.broke _) after => set after; return after.status
  | .error (.continued _) after => set after; return after.status
  | .error stop after => set after; throw stop

/-- Runs the commands whose input was written meanwhile. -/
def runPending (E : Engine) : Run Unit := do
  let s ← get
  set { s with pending := [] }
  for (n, body) in s.pending do
    let now ← get
    set { now with descriptors := (0, .text n) :: now.descriptors.filter fun d => d.1 != 0 }
    let _ ← endCode (E.script body)
    modify fun after => now.keeping after

/-- Ends a program or a subshell: what was set to be run at the end is run, and its own way to end
counts if it ends the program itself. -/
def finish (E : Engine) (work : Run Unit) : Run Nat := do
  let code ← endCode work
  let code ← match (← get).traps.lookup "EXIT" with
    | none => pure code
    | some action => do
      modify fun s => { s with traps := s.traps.filter (fun t => t.1 != "EXIT"), status := code }
      let s ← get
      match (trapped E "EXIT" false action).run s with
      | .ok _ after => set after; pure code
      | .error (.exit own) after => set after; pure own
      | .error .discarded after => set after; pure code
      | .error stop after => set after; throw stop
  runPending E
  return code

/-- The session of a copy of a shell. -/
def copyOf (outer : Session) : Session :=
  let kept := outer.traps.filter fun t =>
    t.2.isEmpty || (t.1 == "ERR" && outer.has .errtrace) ||
      ((t.1 == "DEBUG" || t.1 == "RETURN") && outer.has .functrace)
  { outer with
    traps := kept, aroundTraps := if outer.isPlain then [] else outer.shownTraps, guarded := outer.guards, depth := outer.depth + 1, loops := 0, pending := []
    processes := [], jobs := [], children := [] }

/-- Runs commands in a copy of the shell: what they do to files and outputs stays, and of the rest only
the status. -/
def subshell (E : Engine) (change : Session → Session) (work : Run Unit) : Run Unit := do
  let outer ← get
  set (change (copyOf outer))
  match (finish E work).run (← get) with
  | .ok code after => set { outer.keeping after with status := code % 256 }
  | .error stop after =>
    set (outer.keeping after)
    throw stop

/-- What a run of a task comes to; the program is the one that began it. -/
def outcomeOf (program number : Nat) (E : Engine) (start : Session) (work : Run Unit) : Outcome :=
  let outcome := fun (after : Session) (ending : Except Stop (Option (Nat × Nat))) =>
    let sent := after.arrivals.filter fun (_, target, _) =>
      target ≤ program || (firstTask ≤ target && target != number)
    { tree := after.tree, texts := after.texts, written := after.written, sent, ending : Outcome }
  match (finish E work).run start with
  | .ok code ended =>
    let ending := some (code % 256, ended.clock)
    match (drain firstTask).run ended with
    | .ok _ after => outcome after (.ok ending)
    | .error (.cut _) after => outcome after (.ok ending)
    | .error stop after => outcome after (.error stop)
  | .error (.cut none) after => outcome after (.ok none)
  | .error (.cut (some code)) after => outcome after (.ok (some (code, after.clock)))
  | .error stop after => outcome after (.error stop)

/-- Begins commands in a copy of the shell that are not waited for. -/
def beginTask (E : Engine) (change : Session → Session) (work : Run Unit) : Run Nat := do
  let s ← get
  let number := firstTask + s.begun
  let start := change { copyOf s with
    tasks := [], ended := [], shared := s.texts.length, written := [], self := number, home := s.depth + 1
    -- tasks do not begin at once, but one after the other
    clock := s.clock + startSpan * (s.tasks.length + 1)
    traps := ["INT", "QUIT"].map (·, "") ++ (copyOf s).traps }
  let run := fun (limit : Option Nat) (arrivals : List (Nat × Nat)) (tree : FileTree) (texts : List String) =>
    outcomeOf s.programNumber number E
      { start with
        tree, texts, horizon := limit
        arrivals := arrivals.map fun (time, signal) => (time, number, signal) } work
  set { s with
    tasks := s.tasks ++ [({ number, run } : Task)], begun := s.begun + 1, children := number :: s.children }
  return number

/-- The output of commands, without the line feeds at its end. Their failure ends only themselves. -/
def captured (E : Engine) (work : Run Unit) : Run String := do
  let (s, n) := (← get).addText ""
  set s
  let own := fun (s : Session) =>
    let s := (s.redirect 1 (.text n)).turn .errexit (s.has .errexit && s.has .inheritErrexit)
    { s with lineBase := s.line, nesting := s.nesting + 1 }
  subshell E own work
  drain (firstTask + s.begun)
  modify fun s => { s with substituted := some s.status }
  let text := ((← get).textOf n).toList
  if text.contains '\x00' then
    complain "warning: command substitution: ignored null byte in input"
  return String.ofList ((text.filter (· != '\x00')).reverse.dropWhile (· == '\n')).reverse

end Run

end Toolwrap.Shell
