import Toolwrap.Shell.Builtin.Basic
import Toolwrap.Shell.Task
/-!
Commands about what happens besides the commands of a program: what is run at an event, signals, and
commands that were not waited for.
-/
namespace Toolwrap.Shell

/-- The task that a word names, by its number in the list or by what its command says. -/
def Session.jobOf? (s : Session) (word : String) : Option Job :=
  let name := String.ofList ((word.toList.dropWhile (· == '%')))
  match name.toNat? with
  | some n => s.jobs.find? (·.place == n)
  | none =>
    match name.toList with
    | [] => s.jobs.head?
    | ['+'] => s.jobs.head?
    | ['-'] => (s.jobs.drop 1).head? <|> s.jobs.head?
    | '?' :: part => s.jobs.find? fun job => Text.occursIn (String.ofList part) job.text
    | _ => s.jobs.find? fun job => job.text.startsWith name

namespace Builtin

/-- What is run at an event, as a command. -/
def trapLine (plain : Bool) (event action : String) : String :=
  "trap -- " ++ (if plain then Requoted.alternating action else Requoted.single action) ++ " " ++ (if plain then event else Signal.fullName event) ++ "\n"

/-- Shows what is run at events, in their order. -/
def showTraps (events : List String) : Run Unit := do
  let s ← get
  let shown := (s.shownTraps.filter fun t => events.contains t.1).mergeSort fun a b =>
    decide (Signal.place a.1 ≤ Signal.place b.1)
  Run.print 1 (String.join (shown.map fun (event, action) => trapLine s.isPlain event action))
  Run.setStatus 0

/-- Sets what is run at events; none takes it away. -/
def setTraps (action : Option String) (words : List String) : Run Unit := do
  modify fun s => { s with aroundTraps := [] }
  let s ← get
  let mut code := 0
  for word in words do
    match Signal.event? word with
    | none =>
      if s.isPlain then Run.print 2 ("trap: " ++ word ++ ": bad trap\n")
      else Run.complain ("trap: " ++ word ++ ": invalid signal specification")
      code := 1
    | some event =>
      modify fun s =>
        let others := s.traps.filter fun t => t.1 != event
        { s with traps := match action with | some a => (event, a) :: others | none => others }
  Run.setStatus code

def trap : Builtin := fun _ args =>
  withOptions "trap" "lp" "" args fun options words => do
    let s ← get
    if has options 'l' then
      Run.print 1 Signal.table
      Run.setStatus 0
    else if has options 'p' && !words.isEmpty then
      let known := words.filterMap Signal.event?
      showTraps known
      match words.find? fun w => (Signal.event? w).isNone with
      | some w => refuse 1 ("trap: " ++ w ++ ": invalid signal specification")
      | none => pure ()
    else
      match words with
      | [] => showTraps (s.shownTraps.map (·.1))
      | [word] =>
        if (Signal.event? word).isSome || s.isPlain then setTraps none [word] else showUsage "trap"
      | action :: events =>
        if action == "-" then setTraps none events
        else if !action.isEmpty && action.toList.all Char.isDigit && (Signal.number? action).isSome then
          setTraps none words
        else setTraps (some action) events

/-- The number of the shell's own process, as `$$` gives it. -/
def ownNumber : Nat := 1

/-- Takes a signal in. -/
def receive (E : Engine) (signal : Nat) : Run Unit := do
  let s ← get
  let name := Signal.name signal
  match if name == "KILL" then none else s.traps.lookup name with
  | some action => if !action.isEmpty then Run.trapped E name true action
  | none =>
    if !harmless.contains name then
      if s.self == s.programNumber then throw (.unsupported ("signal " ++ name))
      throw (.cut (some (128 + signal)))

/-- Takes in the signals that have reached the shell. -/
def deliver (E : Engine) : Run Unit := do
  let s ← get
  if s.isHome && !s.arrivals.isEmpty then
    let (ours, others) := s.arrivals.partition fun (time, target, _) => time ≤ s.clock && target == s.self
    if !ours.isEmpty then
      set { s with arrivals := others }
      for (_, _, signal) in ours do receive E signal

/-- Names signals by number, and numbers by name. -/
def nameSignals (words : List String) : Run Unit := do
  let mut code := 0
  for word in words do
    match word.toNat?, Signal.number? word with
    | some n, _ =>
      let n := if 128 < n then n - 128 else n
      if n ≤ Signal.lastRealTime then Run.print 1 (Signal.name n ++ "\n")
      else
        Run.complain ("kill: " ++ word ++ ": invalid signal specification")
        code := 1
    | none, some n => Run.print 1 (toString n ++ "\n")
    | none, none =>
      Run.complain ("kill: " ++ word ++ ": invalid signal specification")
      code := 1
  Run.setStatus code

/-- The signal that `kill` is told to send, and the words behind it. -/
def signalOf : List String → Except String (Nat × List String)
  | "--" :: words => .ok (15, words)
  | "-s" :: word :: words => named word words
  | "-n" :: word :: words => named word words
  | word :: words =>
    match word.toList with
    | '-' :: c :: cs =>
      let body := String.ofList (c :: cs)
      if (c == 's' || c == 'n') && !cs.isEmpty && (Signal.number? body).isNone then named (String.ofList cs) words
      else named body words
    | _ => .ok (15, word :: words)
  | [] => .ok (15, [])
where
  named (word : String) (words : List String) : Except String (Nat × List String) :=
    match Signal.number? word with
    | some n => .ok (n, if words.head? == some "--" then words.drop 1 else words)
    | none => .error word

def killUsage : Run Unit := do
  if (← get).isPlain then
    Run.abort
      "kill: Usage: kill [-s sigspec | -signum | -sigspec] [pid | job]... or\nkill -l [exitstatus]"
  showUsage "kill"

def kill : Builtin := fun E args => do
  match args with
  | [] => killUsage
  | "-l" :: [] =>
    Run.print 1 Signal.table
    Run.setStatus 0
  | "-L" :: [] =>
    Run.print 1 Signal.table
    Run.setStatus 0
  | "-l" :: words => nameSignals words
  | _ =>
    match signalOf args with
    | .error word => refuse 1 ("kill: " ++ word ++ ": invalid signal specification")
    | .ok (_, []) => killUsage
    | .ok (signal, words) =>
      let mut worked := false
      for word in words do
        match ← numberOf word with
        | some n =>
          Run.settle
          let s ← get
          let target := if n == ownNumber then s.programNumber else n
          if (target == s.self && s.isHome) || n == ownNumber + s.depth then
            Run.setStatus 0
            receive E signal
            worked := true
          else if n == ownNumber || s.tasks.any (·.number == n) || target == s.self then
            if signal != 0 then set (s.send s.clock target signal)
            worked := true
          else Run.complain (s!"kill: ({n}) - No such process")
        | none =>
          if word.startsWith "%" then Run.complain ("kill: " ++ word ++ ": no such job")
          else if (← get).isPlain then return ← refuse 2 ("kill: Illegal number: " ++ word)
          else Run.complain ("kill: " ++ word ++ ": arguments must be process or job IDs")
      Run.settle
      Run.setStatus (if worked then 0 else 1)
where
  /-- The number of a process that a word names. -/
  numberOf (word : String) : Run (Option Nat) := do
    if word.startsWith "%" then return ((← get).jobOf? word).map (·.number)
    return word.toNat?

/-- Forgets tasks whose end is known. -/
def forget (numbers : List Nat) : Run Unit :=
  modify fun s => { s with jobs := s.jobs.filter fun job => !numbers.contains job.number }

/-- The status for a signal that has reached the shell. -/
def called? : Run (Option Nat) := do
  let s ← get
  let arrival? := s.arrivals.find? fun (time, target, _) => s.isHome && time ≤ s.clock && target == s.self
  return arrival?.map fun (_, _, signal) => 128 + signal

/-- Waits for the task that a word names, and its status. -/
def waitFor (word : String) : Run Nat := do
  let s ← get
  let wait := fun (number : Nat) => do
    Run.await true [number] (s.tasks.length + 2)
    let code? := ((← get).ended.lookup number).map (·.1)
    if code?.isSome then forget [number]
    return ((← called?) <|> code?).getD 0
  if word.startsWith "%" then
    match s.jobOf? word with
    | some job => wait job.number
    | none =>
      Run.complain ("wait: " ++ word ++ ": no such job")
      return 127
  else
    match if word.toList.all Char.isDigit then word.toNat? else none with
    | some n =>
      if s.children.contains n then wait n
      else
        if !s.isPlain then Run.complain ("wait: pid " ++ word ++ " is not a child of this shell")
        return 127
    | none =>
      if s.isPlain then Run.abort ("wait: Illegal number: " ++ word)
      Run.complain ("wait: \x60" ++ word ++ "': not a pid or valid job spec")
      return 1

/-- Waits for the first task to end, of those that are named or of all. -/
def waitForAny (words : List String) : Run Nat := do
  let s ← get
  let named := words.filterMap fun word =>
    if word.startsWith "%" then (s.jobOf? word).map (·.number) else word.toNat?.filter s.children.contains
  let numbers := (s.jobs.map (·.number)).filter fun n => words.isEmpty || named.contains n
  if numbers.isEmpty then return 127
  Run.await false numbers (s.tasks.length + 2)
  let s ← get
  let finished := (s.ended.filter fun (n, _) => numbers.contains n).mergeSort fun a b => a.2.2 ≤ b.2.2
  match finished with
  | (n, code, _) :: _ =>
    forget [n]
    return (← called?).getD code
  | [] => return (← called?).getD 0

def wait : Builtin := fun E args =>
  withOptions "wait" "fn" "p" args fun options words => do
    if has options 'n' then Run.setStatus (← waitForAny words)
    else if words.isEmpty then
      let s ← get
      Run.await true s.children (s.tasks.length + 2)
      let running := ((← get).tasks.map fun (t : Task) => t.number).filter s.children.contains
      forget (s.children.filter (!running.contains ·))
      if !s.isPlain then modify fun s => { s with children := running }
      Run.setStatus ((← called?).getD 0)
    else
      Run.setStatus 0
      for word in words do Run.setStatus (← waitFor word)
    deliver E

/-- How a task stands in a list. -/
def taskLine (s : Session) (long : Bool) (job : Job) : String :=
  let mark := match s.jobs with
    | a :: rest =>
      if job.number == a.number then "+"
      else if rest.head?.any fun (b : Job) => b.number == job.number then "-" else " "
    | [] => " "
  let (state, running) := match s.ended.lookup job.number with
    | some (code, _) => (if code == 0 then "Done" else s!"Exit {code}", false)
    | none => ("Running", true)
  let state := state ++ String.ofList (List.replicate (24 - state.length) ' ')
  s!"[{job.place}]{mark} " ++ (if long then toString job.number else "") ++ " " ++ state ++ job.text ++
    (if running then " &" else "") ++ "\n"

/-- Lists the tasks of the shell. One that has ended is shown once. -/
def jobs : Builtin := fun _ args =>
  withOptions "jobs" "lnprsx" "" args fun options words => do
    Run.settle
    Run.setStatus 0
    let s ← get
    let isRunning := fun (job : Job) => (s.ended.lookup job.number).isNone
    let mut shown : List Job := []
    for word in words do
      match s.jobOf? word with
      | some job => shown := shown ++ [job]
      | none => refuse 1 ("jobs: " ++ word ++ ": no such job")
    if words.isEmpty then shown := s.jobs.reverse
    if has options 'r' then shown := shown.filter isRunning
    if has options 's' then shown := []
    Run.print 1 (String.join (shown.map fun job =>
      if has options 'p' then toString job.number ++ "\n" else taskLine s (has options 'l') job))
    forget ((shown.filter (!isRunning ·)).map (·.number))

/-- Refuses what needs control over jobs. -/
def needsControl (name : String) : Builtin := fun _ _ => do
  if (← get).isPlain then Run.abort (name ++ ": No current job")
  refuse 1 (name ++ ": no job control")

def forgetJobs : Builtin := fun _ args =>
  withOptions "disown" "ahr" "" args fun options words => do
    match words with
    | [] =>
      if has options 'a' || !(← get).jobs.isEmpty then
        modify fun s => { s with jobs := s.jobs.drop (if has options 'a' then s.jobs.length else 1) }
        Run.setStatus 0
      else refuse 1 "disown: current: no such job"
    | words =>
      Run.setStatus 0
      for word in words do
        match (← get).jobOf? word with
        | some job => forget [job.number]
        | none => refuse 1 ("disown: " ++ word ++ ": no such job")

end Builtin

end Toolwrap.Shell
