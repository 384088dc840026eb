import Toolwrap.Shell.Lookup
import Toolwrap.Shell.Menu
/-!
Running programs. `Command.run` follows the tree of a command; what lies outside of the tree (the body
of a function, a substituted command, a program that is started) goes through an `Engine`, and
`engine` builds engines of any depth.
-/
namespace Toolwrap.Shell

/-! Words of a command. -/

/-- Values that are put into an array behind a declaration. -/
structure ArrayBinding where
  name : String
  append : Bool
  values : List (Option Word × Bool × String)

/-- The fields of a command, and the arrays that are bound among them. -/
structure CommandFields where
  fields : List String := []
  arrays : List ArrayBinding := []

/-- The field of an assignment behind a declaration; an array leaves its name. -/
def bindingField (E : Engine) : Assign → Run CommandFields
  | .value x index append word => do
    let value ← Word.valueText E word
    let place ← match index with
      | [] => pure ""
      | parts => do pure ("[" ++ fragmentText (← expandParts E true parts) ++ "]")
    return { fields := [x ++ place ++ (if append then "+=" else "=") ++ value] }
  | .array x append items => do
    let values ← Assign.itemValues E items
    trace E fun _ => x ++ (if append then "+=" else "=") ++ "(" ++
      " ".intercalate (values.map fun v => Requoted.single v.2.2) ++ ")"
    return { fields := [x], arrays := [⟨x, append, values⟩] }

def commandFields (E : Engine) : List Word → Run CommandFields
  | [] => return {}
  | w :: rest => do
    let first ← match w with
      | [.assign a] => bindingField E a
      | _ => do pure { fields := ← Word.fields E w }
    let more ← commandFields E rest
    return ⟨first.fields ++ more.fields, first.arrays ++ more.arrays⟩

/-! Commands. -/

/-- Does something at the end of a run, unless it ends the program. -/
def unlessExit {α : Type} (work : Run α) (after : Run Unit) : Run α := do
  try
    let x ← work
    after
    return x
  catch
    | .exit code => throw (.exit code)
    | stop =>
      after
      throw stop

/-- What was set for events and does not hold in a function. -/
def hiddenTraps (s : Session) : List (String × String) :=
  s.traps.filter fun t =>
    (t.1 == "ERR" && !s.has .errtrace) || ((t.1 == "DEBUG" || t.1 == "RETURN") && !s.has .functrace)

/-- Runs the body of a function with arguments of its own, in a scope of its own. -/
def callFunction (E : Engine) (name : String) (f : Function) (args : List String) : Run Unit := do
  let outer ← get
  let frame : Frame := { name, file := f.file, line := outer.line, isFunction := true }
  set { outer with
    scopes := [] :: outer.scopes, args, frames := frame :: outer.frames, loops := 0, lineBase := f.base
    givesWay := false }
  let kept := hiddenTraps outer
  modify fun s => { s with traps := s.traps.filter fun t => (kept.lookup t.1).isNone }
  let restore := modify fun s => { s with
    scopes := s.scopes.drop 1, args := outer.args, frames := outer.frames, loops := outer.loops
    lineBase := outer.lineBase, line := outer.line
    traps := s.traps ++ kept.filter fun t => (s.traps.lookup t.1).isNone }
  unlessExit (do
    modify fun s => { s with line := f.line }
    Run.onEvent E "DEBUG"
    modify fun s => { s with line := outer.line }
    let answer : Option Nat ← try
      E.script [f.body]
      pure none
    catch
      | .returned code => pure (some code)
      | stop => throw stop
    -- the status that is given back counts only after the end
    Run.onEvent E "RETURN"
    answer.forM Run.setStatus) restore

/-- Replaces the shell by a program. -/
def replaceShell (E : Engine) (name : String) (args : List String) (arg0 : Option String) (clean : Bool) :
    Run Unit := do
  let s ← get
  let path := if !s.isPlain && name.toList.contains '/' && !name.startsWith "/" then
    s.hereText ++ "/" ++ toString (Path.parse name) else name
  match s.startOf path args with
  | .ok (path, start) =>
    let env := if clean then [("_", path)] else s.environmentFor path
    let start : Start := match arg0, start with
      | some called, .host _ name args => .host called name args
      | _, start => start
    -- the shell counts no longer as one that is around the program
    let level := ((env.lookup "SHLVL").bind String.toNat?).getD 1
    let env := if s.isPlain then env else env.map fun (x, v) => if x == "SHLVL" then (x, toString (level - 1)) else (x, v)
    start.run E env s.dialect
    modify fun s => { s with traps := [] }
    throw (.exit (← get).status)
  | .error (path, fault) =>
    if s.isPlain then notStarted ("exec: " ++ name) path fault
    else
      match fault with
      | .unknown => Builtin.refuse 127 ("exec: " ++ name ++ ": not found")
      | _ =>
        notStarted name path fault
        if (← get).status == 126 then
          Builtin.refuse 126 ("exec: " ++ path ++ ": cannot execute: " ++
            (if fault matches .isDirectory then "Is a directory" else Utility.startFaultText fault))
    if s.isPlain || !s.has ⟨"execfail"⟩ then throw (.exit (← get).status)

/-- Runs a command that is no function. -/
def runNamed (E : Engine) (name : String) (args : List String) : Run Unit := do
  let isPlain := (← get).isPlain
  match if (isPlain && Builtin.onlyFull.contains name) || (← get).disabled.contains name then "" else name with
  | "command" =>
    Builtin.withOptions "command" "pvV" "" args fun options words => do
      if Builtin.has options 'v' || Builtin.has options 'V' then
        Builtin.showMeanings (Builtin.has options 'V') words
      else
        match words with
        | [] => Run.setStatus 0
        | x :: rest => plainly E x rest
  | "builtin" =>
    Builtin.withOptions "builtin" "" "" args fun _ words => do
      match words with
      | [] => Run.setStatus 0
      | x :: rest =>
        if Builtin.isKnown isPlain x && !(← get).disabled.contains x then plainly E x rest
        else Builtin.refuse 1 ("builtin: " ++ x ++ ": not a shell builtin")
  | "exec" =>
    Builtin.withOptions "exec" "cl" "a" args fun options words => do
      match words with
      | [] => Run.setStatus 0
      | x :: rest => replaceShell E x rest (Builtin.value? options 'a') (Builtin.has options 'c')
  | _ => plainly E name args
where
  /-- Commands that work on no other command by themselves. -/
  plainly (E : Engine) (name : String) (args : List String) : Run Unit := do
    let isPlain := (← get).isPlain
    if (← get).disabled.contains name then return ← runProgram E name args
    match Builtin.named? isPlain name, name with
    | some builtin, _ => builtin E args
    | none, "enable" => if isPlain then runProgram E name args else Builtin.enable E args
    | none, "hash" => Builtin.hash E args
    | none, "type" => Builtin.type E args
    | none, "command" =>
      -- commands inside of each other are commands of a program that is run
      E.script [.simple [] ((name :: args).map fun w => [.single w]) []]
    | none, "builtin" =>
      if isPlain then runProgram E name args
      else E.script [.simple [] ((name :: args).map fun w => [.single w]) []]
    | none, "exec" => E.script [.simple [] ((name :: args).map fun w => [.single w]) []]
    | none, _ => runProgram E name args

/-- Marks an array for good. -/
def fixArray (x : String) : Run Unit := modify fun s => s.put x { s.variableD x with fixed := true }

/-- Runs a declaration among whose words arrays are bound. -/
def declareArrays (E : Engine) (name : String) (args : List String) (arrays : List ArrayBinding) : Run Unit := do
  let isFlag := fun (a : String) => a.startsWith "-" && a != "--"
  let flags := args.takeWhile isFlag
  let marks := flags.flatMap fun f => f.toList.drop 1
  let staysOpen := flags.map fun f => String.ofList (f.toList.filter (· != 'r'))
  let kept := staysOpen.filter (· != "-")
  let kind := if marks.contains 'A' || marks.contains 'a' then [] else ["-a"]
  if name == "export" || name == "readonly" then
    for b in arrays do
      if marks.contains 'A' then modify fun s => s.setContent b.name (.table [])
      Assign.storeItems E b.name b.append b.values
    runNamed E name args
  else
    runNamed E name (kept ++ kind ++ args.drop flags.length)
    if (← get).status == 0 then
      for b in arrays do Assign.storeItems E b.name b.append b.values
      if marks.contains 'r' then
        for b in arrays do fixArray b.name

/-- Runs the fields of a command: a function, a command of the shell or a program, in this order. -/
def invoke (E : Engine) (f : CommandFields) : Run Unit := do
  match f.fields with
  | [] => Run.setStatus 0
  | name :: args =>
    let s ← get
    match if s.isPlain && Builtin.special.contains name then none else s.functions.lookup name with
    | some function => callFunction E name function args
    | none =>
      if f.arrays.isEmpty then runNamed E name args else declareArrays E name args f.arrays

/-- Gives variables to a scope one after the other, each of which is seen by the next. -/
def fillScope (E : Engine) : List Assign → Run (List (String × Variable))
  | [] => return []
  | a :: rest => do
    match ← a.temporary? E with
    | some (x, v) =>
      modify (·.putLocal x v)
      return (x, v) :: (← fillScope E rest)
    | none => fillScope E rest

/-- Runs with variables that are gone afterwards. -/
def withAssigns (E : Engine) (assigns : List Assign) (work : Run Unit) : Run Unit := do
  if assigns.isEmpty then work
  else
    modify fun s => { s with scopes := [] :: s.scopes }
    unlessExit (do
      let _ ← fillScope E assigns
      work) (modify fun s => { s with scopes := s.scopes.drop 1 })

/-- Closes the descriptors of processes that a command named, and runs those that read what it wrote. -/
def withProcesses (E : Engine) (work : Run Unit) : Run Unit := do
  let old ← get
  unlessExit work do
    let s ← get
    let ended := s.processes.filter fun fd => !old.processes.contains fd
    if !ended.isEmpty then
      let waiting := s.pending.drop old.pending.length
      set { s with
        processes := old.processes
        pending := waiting
        descriptors := s.descriptors.filter fun d => !ended.contains d.1 }
      Run.runPending E
      modify fun s => { s with pending := old.pending }

/-- Assigns without a command; the status is that of the last command that was substituted. -/
def runAssigns (E : Engine) (assigns : List Assign) (redirects : List Redirect) : Run Unit := do
  assigns.forM (Assign.apply E)
  let code := (← get).substituted.getD 0
  redirecting E redirects (Run.setStatus code)

/-- Redirections of the shell itself. -/
def redirectShell (E : Engine) (redirects : List Redirect) : Run Unit := do
  let applied ← applyRedirects E redirects
  modify fun s => { s with named := [] }
  if !applied && (← get).isPlain then throw (.exit 2)
  Run.setStatus (if applied then 0 else 1)

/-- A command of the fields that are given. -/
def runFields (E : Engine) (assigns : List Assign) (f : CommandFields) (redirects : List Redirect) : Run Unit := do
  let s ← get
  let name := f.fields.headD ""
  let isSpecial := s.isPlain && Builtin.special.contains name
  let shown := fun (_ : Unit) =>
    if s.isPlain then " ".intercalate ((assigns.map Assign.inline) ++ f.fields)
    else " ".intercalate (f.fields.map Requoted.shown)
  if f.fields == ["exec"] then
    trace E shown
    redirectShell E redirects
  else if isSpecial then
    trace E shown
    -- what is assigned stays, and what cannot be redirected ends the program
    assigns.forM (Assign.apply E)
    let before ← get
    if !(← applyRedirects E redirects) then throw (.exit 2)
    let after ← get
    unlessExit (invoke E f) (modify fun now => before.restoredFrom after now)
  else
    withAssigns E assigns do
      trace E shown
      redirecting E redirects (invoke E f)
  modify fun s => { s with lastWord := f.fields.getLastD "" }

/-- Runs a simple command. Without words, its assignments stay and its redirections only make files. -/
def runSimple (E : Engine) (assigns : List Assign) (words : List Word) (redirects : List Redirect) :
    Run Unit := do
  modify fun s => { s with substituted := none }
  withProcesses E do
    let f ← commandFields E words
    if f.fields.isEmpty then runAssigns E assigns redirects
    else runFields E assigns f redirects
  Run.keepPipe

/-! Loops. -/

/-- One round of a loop; whether another one may follow. -/
def loopRound (body : Run Unit) : Run Bool := do
  try
    body
    return true
  catch
    | .broke levels => if levels ≤ 1 then return false else throw (.broke (levels - 1))
    | .continued levels => if levels ≤ 1 then return true else throw (.continued (levels - 1))
    | stop => throw stop

/-- Runs what counts as a loop. -/
def inLoop (work : Run Unit) : Run Unit := do
  modify fun s => { s with loops := s.loops + 1 }
  Run.finally_ work (modify fun s => { s with loops := s.loops - 1 })

/-- Goes round while asked to. A round is given the status of the one before it, and gives its own
unless the loop is over. -/
def loopWhile (round : Nat → Run (Option Nat)) : Nat → Nat → Run Unit
  | 0, _ => throw .exhausted
  | rounds + 1, last => do
    match ← round last with
    | some status =>
      Run.tick
      loopWhile round rounds status
    | none => pure ()

def loopOver (step : String → Run Bool) : List String → Run Unit
  | [] => pure ()
  | x :: rest => do if ← step x then loopOver step rest

/-- Whether a text fits one of the patterns, which are expanded one after the other. -/
def fitsAny (E : Engine) (subject : String) : List Word → Run Bool
  | [] => return false
  | w :: rest => do
    let folds := (← get).has .nocasematch
    if (Pattern.ofMarked true (← Word.marked E w)).fits folds subject.toList then return true
    fitsAny E subject rest

/-! Pipes and other processes. -/

/-- Runs two commands, the output of the first one being the input of the second, each in a copy of
the shell. A second one that is a pipe itself is a copy by its own commands. What comes before a command
is done outside its copy. -/
def runPipe (E : Engine) (before first after second : Run Unit) (goesOn : Bool) : Run Unit := do
  let (s, n) := (← get).addText ""
  set s
  before
  Run.subshell E (·.redirect 1 (.text n)) first
  let code := (← get).status
  Run.drain (firstTask + s.begun)
  let input := fun (s : Session) => s.redirect 0 (.text n)
  after
  if goesOn then
    Run.withDescriptors input (Run.shielded second)
    modify fun s => { s with pipes := code :: s.pipes }
  else
    if (← get).has .lastpipe then Run.withDescriptors input second
    else Run.subshell E input second
    modify fun s => { s with pipes := [code, s.status] }
  modify fun s => if s.has .pipefail && s.status == 0 then { s with status := code } else s
  Run.check E

/-- Runs a command in a copy of the shell, to which its redirections belong. -/
def runInside (E : Engine) (c : Command) (redirects : List Redirect) (work : Run Unit) : Run Unit := do
  let shown := if redirects.isEmpty then c else .redirected c redirects
  modify fun s => if s.trapping.isEmpty then { s with current := some shown } else s
  Run.subshell E id (withProcesses E (redirecting E redirects work))
  Run.keepPipe
  Run.check E
  Builtin.deliver E

/-- Tells of a command that is no compound one before there is a copy of the shell for it. -/
def Command.announced (E : Engine) : Command → Run Unit
  | .located line c => do
    if c matches .simple .. then modify fun s => { s with line := s.lineBase + line }
    c.announced E
  | .not c => c.announced E
  | .redirected c _ => c.announced E
  | .simple assigns words redirects => Run.begin_ E (.simple assigns words redirects)
  | _ => pure ()

/-- Whether a command that is not waited for consists of words. -/
def Command.isSimple : Command → Bool
  | .located _ c => c.isSimple
  | .not c => c.isSimple
  | .simple .. => true
  | _ => false

/-- Begins a command that is not waited for. -/
def runBackground (E : Engine) (text : String) (work : Run Unit) : Run Unit := do
  let number ← Run.beginTask E (fun s => s.redirect 0 .null) work
  modify fun s =>
    let place := (s.jobs.foldl (fun n job => max n job.place) 0) + 1
    { s with jobs := ⟨place, number, text⟩ :: s.jobs, lastJob := some number, status := 0 }

/-! Arithmetic as a command. -/

/-- The value of an expression as an answer; none if it has no value. -/
def truth? (E : Engine) (expr : List Part) : Run (Option Bool) := do
  let text := fragmentText (← expandParts E true expr)
  trace E fun _ => "(( " ++ text ++ " ))"
  return (← Arithmetic.attempt "((: " text).map (· != 0)

/-- The value of an expression that may be left out. -/
def truthIfAny? (E : Engine) (expr : List Part) : Run (Option Bool) := do
  if expr.isEmpty then return some true
  let text := fragmentText (← expandParts E true expr)
  if (Text.strip text).isEmpty then return some true
  trace E fun _ => "(( " ++ Text.strip text ++ " ))"
  return (← Arithmetic.attempt "((: " text).map (· != 0)

def showMenu (values : List String) : Run Unit := do
  let columns := (((← get).value? "COLUMNS").bind String.toNat?).getD 80
  Run.print 2 (Menu.text columns values)

/-- Asks for the number of one of some words: the word, empty if the answer names none, or nothing if the
input ends. An empty answer shows the menu again. The fuel bounds the number of empty answers. -/
def chosen (E : Engine) (values : List String) : Nat → Run (Option String)
  | 0 => throw .exhausted
  | fuel + 1 => do
    Run.print 2 (((← get).value? "PS3").getD "#? ")
    Builtin.read E []
    let s ← get
    if s.status != 0 then
      Run.print 1 "\n"
      return none
    let reply := s.valueD "REPLY"
    if reply.isEmpty then
      showMenu values
      chosen E values fuel
    else
      match Condition.wordInteger? reply with
      | some n => return some (if n < 1 then "" else values.getD (n.toNat - 1) "")
      | none => return some ""

/-- What a directive of a format for times comes to when no time passes, with what is behind it. -/
def timeDirective? (cs : List Char) : Option (String × List Char) :=
  let places := (cs.take 1).filter Char.isDigit
  let rest := cs.drop places.length
  let isLong := rest.head? == some 'l'
  let digits := match places with
    | [d] => min (d.toNat - 48) 3
    | _ => 3
  let zeros := if digits == 0 then "0" else "0." ++ String.ofList (List.replicate digits '0')
  match if isLong then rest.drop 1 else rest with
  | c :: rest =>
    if c ∈ ['R', 'U', 'S'] then some (if isLong then "0m" ++ zeros ++ "s" else zeros, rest)
    else if c == 'P' then some ("0.00", rest)
    else if c == '%' then some ("%", rest)
    else none
  | [] => none

/-- A text by a format for times; none if there is a directive that it does not know. The fuel is the
length of the format. -/
def timesBy? : Nat → List Char → Option String
  | fuel + 1, '%' :: rest => do
    let (text, rest) ← timeDirective? rest
    return text ++ (← timesBy? fuel rest)
  | fuel + 1, c :: rest => (timesBy? fuel rest).map (String.singleton c ++ ·)
  | _, _ => some ""

/-- Shows what time a command took. -/
def showTimes (brief : Bool) : Run Unit := do
  let s ← get
  let format := (s.value? "TIMEFORMAT").getD "\nreal\t%3lR\nuser\t%3lU\nsys\t%3lS"
  if brief then Run.print 2 "real 0.00\nuser 0.00\nsys 0.00\n"
  else if !format.isEmpty then
    match timesBy? format.length format.toList with
    | some text => Run.print 2 (text ++ "\n")
    | none => throw (.unsupported "TIMEFORMAT")

/-- Whether the second command of a pipe is a pipe. -/
def Command.isPipe : Command → Bool
  | .pipe _ _ => true
  | .located _ c => c.isPipe
  | _ => false

mutual

/-- Runs a command that was told of already where there is a copy of the shell for it. An outcome that
nobody waits for is not turned round. -/
def Command.runInCopy (E : Engine) : Command → Run Unit
  | .located line c => do
    modify fun s => { s with line := s.lineBase + line }
    c.runInCopy E
  | .simple assigns words redirects => do
    runSimple E assigns words redirects
    Builtin.deliver E
  | .subshell body => runScript E body
  | .redirected c redirects => withProcesses E (redirecting E redirects (c.runInCopy E))
  | .not c => c.runInCopy E
  | c => c.run E

def Command.run (E : Engine) : Command → Run Unit
  | .simple assigns words redirects => do
    Run.begin_ E (.simple assigns words redirects)
    runSimple E assigns words redirects
    Run.check E
    Builtin.deliver E
  | .pipe first second => do
    let isCopy := !(← get).has .lastpipe || second.isSimple
    runPipe E (first.announced E) (first.runInCopy E) (second.announced E)
      (if isCopy then second.runInCopy E else second.run E) second.isPipe
  | .not c => do
    Run.shielded (c.run E)
    Run.setStatus (if (← get).status == 0 then 1 else 0)
  | .timed brief c => do
    c.run E
    showTimes brief
  | .and a b => do
    Run.shielded (a.run E)
    if (← get).status == 0 then b.run E
  | .or _ a b => do
    Run.shielded (a.run E)
    if (← get).status != 0 then b.run E
  | .group body => runScript E body
  | .subshell body => runInside E (.subshell body) [] (runScript E body)
  | .ifThen cond body orelse => do
    Run.shielded (runScript E cond)
    if (← get).status == 0 then runScript E body
    else
      if orelse.isEmpty then Run.setStatus 0
      runScript E orelse
  | .whileLoop untilTrue cond body => inLoop do
    let round := fun (last : Nat) => do
      let goesOn ← loopRound (Run.shielded (runScript E cond))
      if !goesOn then return none
      if ((← get).status == 0) == untilTrue then
        Run.setStatus last
        return none
      let more ← loopRound (runScript E body)
      let s ← get
      return if more then some s.status else none
    loopWhile round E.rounds 0
  | .forIn x words body => do
    if !isName x then
      Builtin.refuse 1 ("\x60" ++ x ++ "': not a valid identifier")
      return
    let values ← match words with
      | some ws => List.flatten <$> ws.mapM (Word.fields E)
      | none => pure (← get).args
    if values.isEmpty then Run.setStatus 0
    let line := (← get).line
    inLoop (loopOver (fun v => do
      modify fun s => { s with line }
      Run.begin_ E (.forIn x words [])
      traceFull E fun _ => "for " ++ x ++ " in " ++
        (match words with | some ws => " ".intercalate (inlineWords ws) | none => "\x22$@\x22")
      if ← Assign.trySetText x v then loopRound (runScript E body)
      else
        if (← get).isPlain then throw (.exit 2)
        Run.setStatus 1
        return false) values)
  | .choose x words body => do
    if !isName x then
      Builtin.refuse 1 ("\x60" ++ x ++ "': not a valid identifier")
      return
    Run.begin_ E (.choose x words [])
    traceFull E fun _ => "select " ++ x ++ " in " ++
      (match words with | some ws => " ".intercalate (inlineWords ws) | none => "\x22$@\x22")
    let values ← match words with
      | some ws => List.flatten <$> ws.mapM (Word.fields E)
      | none => pure (← get).args
    if values.isEmpty then Run.setStatus 0
    else
      showMenu values
      inLoop do
        let round := fun (_ : Nat) => do
          match ← chosen E values E.rounds with
          | none =>
            Run.setStatus 1
            return none
          | some v =>
            if !(← Assign.trySetText x v) then
              Run.setStatus 1
              return none
            let more ← loopRound (runScript E body)
            let s ← get
            if more && (s.valueD "REPLY").isEmpty then showMenu values
            return if more then some s.status else none
        loopWhile round E.rounds 0
  | .forArith start cond next body => inLoop do
    let truthIfAny? := fun (E : Engine) (expr : List Part) => do
      if !expr.isEmpty then Run.begin_ E (.arith [.text (spelledExpr expr)])
      truthIfAny? E expr
    match ← truthIfAny? E start with
    | none => Run.setStatus 1
    | some _ =>
      let round := fun (last : Nat) => do
        match ← truthIfAny? E cond with
        | none =>
          Run.setStatus 1
          return none
        | some false =>
          Run.setStatus last
          return none
        | some true =>
          let more ← loopRound (runScript E body)
          if !more then return none
          let code := (← get).status
          match ← truthIfAny? E next with
          | none =>
            Run.setStatus 1
            return none
          | some _ => return some code
      loopWhile round E.rounds 0
  | .caseOf word clauses => do
    Run.begin_ E (.caseOf word [])
    traceFull E fun _ => "case " ++ inlineParts word ++ " in"
    runClauses E (← Word.text E word) false clauses
  | .test t => do
    Run.begin_ E (.test t)
    Run.setStatus (← t.holds E).status
    Run.keepPipe
    Run.check E
  | .arith expr => do
    Run.begin_ E (.arith expr)
    Run.setStatus (if (← truth? E expr) == some true then 0 else 1)
    Run.keepPipe
    Run.check E
  | .function name body => do
    let s ← get
    let file := if s.origin == some 'c' && s.frames.isEmpty then Session.nowhere else s.currentFile
    let f : Function := { body, file, base := s.lineBase, line := s.line }
    set { s with functions := (name, f) :: s.functions.filter fun f => f.1 != name }
    Run.setStatus 0
  | .redirected (.located line (.subshell body)) redirects =>
    runInside E (.subshell body) redirects do
      modify fun s => { s with line := s.lineBase + line }
      runScript E body
  | .redirected c redirects => withProcesses E (redirecting E redirects (c.run E))
  | .background c => do
    c.announced E
    runBackground E c.jobText do
      modify fun s => { s with givesWay := c.isSimple }
      c.runInCopy E
  | .located line c => do
    modify fun s => { s with line := s.lineBase + line }
    c.run E
  | .comment _ => pure ()
  | .remark message => Run.complain message
  | .spliced s => throw (.unsupported s)

def runScript (E : Engine) : List Command → Run Unit
  | [] => pure ()
  | c :: rest => do
    if !(← get).has .noexec then
      c.run E
      runScript E rest

/-- Runs the branch that a text fits, or, if the one before it asks for that, the first one. -/
def runClauses (E : Engine) (subject : String) (forced : Bool) : List Clause → Run Unit
  | [] => if forced then pure () else Run.setStatus 0
  | .spliced s :: _ => throw (.unsupported s)
  | .branch patterns body next :: rest => do
    let fits ← if forced then pure true else fitsAny E subject patterns
    if fits then
      if body.isEmpty then Run.setStatus 0
      runScript E body
      match next with
      | .leave => pure ()
      | .fallThrough => runClauses E subject true rest
      | .testNext => runClauses E subject false rest
    else runClauses E subject false rest

end

/-! Texts as programs. -/

/-- Says what is wrong with a text that cannot be read. -/
def report (lead text : String) (fault : Misread) : Run Unit := do
  let s ← get
  if s.isPlain then
    let (line, message) := fault.plainReport text
    let lead := if lead == "eval: " then lead else ""
    Run.print 2 (s.arg0 ++ ": " ++ toString line ++ ": " ++ lead ++ "Syntax error: " ++ message ++ "\n")
  else for (line, message) in fault.report text do
    Run.print 2 (s.currentFile ++ ": " ++ lead ++ "line " ++ toString (s.lineBase + line) ++ ": " ++ message ++ "\n")

/-- Runs the lines of a text one after the other, each as soon as it is read. What is given up in a file
ends its line; elsewhere it ends all. The fuel bounds the number of lines, `ran` says whether there
was a command before. -/
def runLines (E : Engine) (lead text : String) : Nat → Bool → Reading → Run Unit
  | 0, _, _ => pure ()
  | fuel + 1, ran, reading => do
    let s ← get
    let reading := { reading with
      extended := s.has .extglob, plain := s.isPlain, base := s.lineBase
      aliases := if s.isPlain || s.has .expandAliases then s.aliases else [] }
    match Reader.nextLine.run reading with
    | .error (.inArray fault) =>
      report lead text fault
      Run.setStatus 1
      match fault with
      | .unexpected rest =>
        runLines E lead text fuel true { reading with source := (rest.dropWhile (·.1 != '\n')).drop 1 }
      | _ => pure ()
    | .error fault =>
      report lead text fault
      if s.isPlain then throw (.exit 2)
      Run.setStatus 2
    | .ok (script, rest) =>
      if script.isEmpty && rest.source.isEmpty then
        if !ran then Run.setStatus 0
      else
        if s.has ⟨"verbose"⟩ then
          Run.print 2 (Source.text (reading.source.take (reading.source.length - rest.source.length)))
        try E.script script
        catch
          | .discarded => if lead.isEmpty then pure () else throw .discarded
          | stop => throw stop
        runLines E lead text fuel (ran || !script.isEmpty) rest

/-- An engine for programs that call no deeper than a bound, with loops that end within a number of
rounds. -/
def engine (rounds : Nat) : Nat → Engine
  | 0 => ⟨rounds, fun _ => throw .exhausted, fun _ _ => throw .exhausted, fun _ _ _ => throw .exhausted⟩
  | depth + 1 =>
    ⟨rounds, fun script => runScript (engine rounds depth) script,
      fun lead text =>
        let E := engine rounds depth
        let text := closedText text
        runLines { E with script := runScript E } lead text (text.length + 1) false (.ofText false text),
      fun env name args => do
        match (← get).startOf name args with
        | .ok (_, start) => start.run (engine rounds depth) env .plain
        | .error (path, fault) => notStarted name path fault⟩

end Toolwrap.Shell
