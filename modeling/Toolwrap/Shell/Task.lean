import Toolwrap.Shell.Session
/-!
Events for which a shell can be told what to do: the signals, the end of the program, and what the
shell itself goes through.
-/
namespace Toolwrap.Shell.Signal

/-- The signals with a name of their own, in the order of their numbers, from one on. -/
def common : List String :=
  ["HUP", "INT", "QUIT", "ILL", "TRAP", "ABRT", "BUS", "FPE", "KILL", "USR1", "SEGV", "USR2", "PIPE",
   "ALRM", "TERM", "STKFLT", "CHLD", "CONT", "STOP", "TSTP", "TTIN", "TTOU", "URG", "XCPU", "XFSZ",
   "VTALRM", "PROF", "WINCH", "IO", "PWR", "SYS"]

def firstRealTime : Nat := 34

def lastRealTime : Nat := 64

/-- The name of a signal for free use: it counts from the nearer end. -/
def realTimeName (n : Nat) : String :=
  if n == firstRealTime then "RTMIN"
  else if n == lastRealTime then "RTMAX"
  else if n < 50 then "RTMIN+" ++ toString (n - firstRealTime)
  else "RTMAX-" ++ toString (lastRealTime - n)

/-- The signals with their numbers. -/
def all : List (Nat × String) :=
  common.zipIdx.map (fun (name, n) => (n + 1, name)) ++
    ((List.range (lastRealTime - firstRealTime + 1)).map (· + firstRealTime)).map fun n =>
      (n, realTimeName n)

/-- What a shell goes through besides signals. -/
def own : List String := ["DEBUG", "ERR", "RETURN"]

def upper (s : String) : String := String.ofList (s.toList.map Char.toUpper)

/-- The number of a signal that is given by number or by name. -/
def number? (word : String) : Option Nat :=
  match if word.toList.all Char.isDigit then word.toNat? else none with
  | some n => if n ≤ lastRealTime then some n else none
  | none =>
    let name := upper word
    let bare := if name.startsWith "SIG" then String.ofList (name.toList.drop 3) else name
    if bare == "EXIT" then some 0 else (all.find? fun s => s.2 == bare).map (·.1)

/-- The name of the signal with a number; zero is the end of the program. -/
def name (n : Nat) : String :=
  if n == 0 then "EXIT" else (all.lookup n).getD (toString n)

/-- The name of the event that a word means. -/
def event? (word : String) : Option String :=
  if own.contains (upper word) then some (upper word) else (number? word).map name

/-- Where an event stands in a list of events. -/
def place (event : String) : Nat :=
  match own.idxOf? event with
  | some n => lastRealTime + 1 + n
  | none => (number? event).getD 0

/-- The name of an event where it is shown in full. -/
def fullName (event : String) : String :=
  if event == "EXIT" || own.contains event || event.toList.all Char.isDigit then event
  else "SIG" ++ event

/-- The table of all signals, five on a line. -/
def table : String :=
  let cells := all.map fun (n, name) =>
    (if n < 10 then " " else "") ++ toString n ++ ") SIG" ++ name
  let ends := cells.zipIdx.map fun (cell, i) => cell ++ if i % 5 == 4 then "\n" else "\t"
  String.join ends ++ if cells.length % 5 == 0 then "" else "\n"

end Toolwrap.Shell.Signal

/-!
Time and the commands that are not waited for. Time passes only where something waits: then each task is
worked out up to the time that is reached, and what the tasks wrote by then is put into the order of its
times. A task that goes on is worked out again from its start when more time passes.
-/
namespace Toolwrap.Shell

/-- The number of the process of the first task. -/
def firstTask : Nat := 1001

/-- Millionths of seconds in a second. -/
def second : Nat := 1000000

/-- Nothing is waited for longer than this. -/
def longestWait : Nat := 100 * second

/-- The time until a task begins. -/
def startSpan : Nat := second / 1000

/-- The time that a round of a loop takes. -/
def roundSpan : Nat := second / 50000

/-- The earlier one of two times, of which each may be missing. -/
def earlier : Option Nat → Option Nat → Option Nat
  | some a, some b => some (min a b)
  | some a, none => some a
  | none, b => b

/-- Events that a process does not mind. -/
def harmless : List String := ["EXIT", "CHLD", "CONT", "STOP", "TSTP", "TTIN", "TTOU", "URG", "WINCH"]

/-- A task with what was passed on of an outcome. -/
def Task.passedOn (t : Task) (o : Outcome) : Task := { t with written := o.written.length, sent := o.sent.length }

namespace Session

/-- Whether signals reach this shell itself. -/
def isHome (s : Session) : Bool := s.depth == s.home

/-- The events for which something is set in the shell that signals reach. -/
def guards (s : Session) : List String := if s.isHome then s.traps.map (·.1) else s.guarded

/-- What is shown as set for events. -/
def shownTraps (s : Session) : List (String × String) :=
  s.traps ++ s.aroundTraps.filter fun t => (s.traps.lookup t.1).isNone

/-- Whether a signal ends the shell that it reaches. -/
def isFatal (s : Session) (signal : Nat) : Bool :=
  let name := Signal.name signal
  !harmless.contains name && (name == "KILL" || !s.guards.contains name)

/-- Sends a signal at a time to a task, or keeps it for whom else it reaches. -/
def send (s : Session) (time target signal : Nat) : Session :=
  if s.tasks.any (·.number == target) then
    { s with tasks := s.tasks.map fun t =>
        if t.number == target then { t with arrivals := t.arrivals ++ [(time, signal)] } else t }
  else { s with arrivals := s.arrivals ++ [(time, target, signal)] }

/-- The first signal up to a time that ends the shell, with its time. -/
def fatalBy? (s : Session) (time : Nat) : Option (Nat × Nat) :=
  let fatal := s.arrivals.filter fun (t, target, signal) => t ≤ time && target == s.self && s.isFatal signal
  (fatal.mergeSort fun a b => a.1 ≤ b.1).head?.map fun (t, _, signal) => (t, signal)

/-- What a task comes to by a time, from how things are. -/
def outcomeOf (s : Session) (limit : Option Nat) (t : Task) : Outcome :=
  t.run (earlier limit s.horizon) t.arrivals s.tree s.texts

end Session

namespace Run

/-- Works tasks out up to a time, if one is given; whether one of them sent something to another. -/
def settleOnce (limit : Option Nat) : Run Bool := do
  let s ← get
  let tried := s.tasks.map fun t => (t, s.outcomeOf limit t)
  let mut heard : List (Nat × Nat × String) := []
  let mut sent : List (Nat × Nat × Nat) := []
  let mut going : List Task := []
  let mut finished : List (Nat × Task) := []
  for (t, o) in tried do
    match o.ending with
    | .error stop => throw stop
    | .ok (some (_, time)) => finished := finished ++ [(time, t)]
    | .ok none =>
      heard := heard ++ o.written.drop t.written
      sent := sent ++ o.sent.drop t.sent
      going := going ++ [t.passedOn o]
  set { s with tasks := going }
  -- what tasks do to files is seen by those that end later
  for (_, t) in finished.mergeSort fun a b => a.1 ≤ b.1 do
    let s ← get
    let o := s.outcomeOf limit t
    heard := heard ++ o.written.drop t.written
    sent := sent ++ o.sent.drop t.sent
    match o.ending with
    | .ok (some (code, time)) =>
      set { s with tree := o.tree, texts := o.texts, ended := (t.number, code, time) :: s.ended }
    | .ok none => pure ()
    | .error stop => throw stop
  for (time, n, text) in heard.mergeSort fun a b => a.1 ≤ b.1 do
    modify fun s => s.writeAt time (.text n) text
  for (time, target, signal) in sent do modify fun s => s.send time target signal
  let tasks := (← get).tasks
  return sent.any fun (_, target, _) => tasks.any (·.number == target)

/-- The same until no task sends anything to another any more. The fuel bounds how often that happens. -/
def settleBy : Nat → Option Nat → Run Unit
  | 0, _ => return ()
  | fuel + 1, limit => do
    if (← get).tasks.isEmpty then return ()
    if ← settleOnce limit then settleBy fuel limit

/-- Works tasks out up to the present time. -/
def settle : Run Unit := do
  let s ← get
  settleBy (s.tasks.length + 1) (some s.clock)

/-- Lets time pass, unless a signal or the end of the time cuts it off. -/
def pass (span : Nat) : Run Unit := do
  let s ← get
  let time := s.clock + span
  let stopAt := fun (time : Nat) => do
    modify fun s => { s with clock := max s.clock time }
    settle
  match s.fatalBy? time, s.horizon with
  | some (t, signal), h =>
    if h.any (· < t) then
      stopAt (h.getD t)
      throw (.cut none)
    stopAt t
    throw (.cut (some (128 + signal)))
  | none, some h =>
    if h < time then
      stopAt h
      throw (.cut none)
    stopAt time
  | none, none => stopAt time

/-- Lets the time of one round of a loop pass, where time matters to others. -/
def tick : Run Unit := do
  let s ← get
  if !s.tasks.isEmpty || s.horizon.isSome then pass roundSpan

/-- Waits until one of some tasks ends, or all of them. The fuel bounds how many tasks end meanwhile. -/
def await (all : Bool) (numbers : List Nat) : Nat → Run Unit
  | 0 => throw .exhausted
  | fuel + 1 => do
    settle
    let s ← get
    let isOver := fun n => !s.tasks.any fun t => t.number == n
    let called := s.isHome && s.arrivals.any fun (t, target, _) => t ≤ s.clock && target == s.self
    if called || (if all then numbers.all isOver else numbers.any isOver) then return ()
    let limit := s.clock + longestWait
    let ends := s.tasks.filterMap fun t =>
      match (s.outcomeOf (some limit) t).ending with
      | .ok (some (_, time)) => some time
      | _ => none
    match ends.min?, s.horizon with
    | some time, _ => pass (time - s.clock)
    | none, some h => pass (h + 1 - s.clock)
    | none, none => throw .exhausted
    await all numbers fuel

/-- Waits for all tasks from a number on. -/
def drain (first : Nat) : Run Unit := do
  let numbers := ((← get).tasks.map (·.number)).filter (first ≤ ·)
  if !numbers.isEmpty then await true numbers ((← get).tasks.length + 2)

end Run

end Toolwrap.Shell
