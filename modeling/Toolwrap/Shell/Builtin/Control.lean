import Toolwrap.Shell.Builtin.Basic
/-!
Commands that change which command is run next: the ends of programs, functions and loops, and texts
that are run as programs.
-/
namespace Toolwrap.Shell.Builtin

def exit : Builtin := fun _ args => do
  let s ← get
  throw (.exit ((← codeOf? "exit" args).getD s.status))

/-- Ends a function or a sourced file; elsewhere it means nothing. -/
def return_ : Builtin := fun _ args => do
  let s ← get
  let code ← codeOf? "return" args
  if s.frames.isEmpty && s.depth == 0 && !s.isPlain then
    refuse 2 "return: can only \x60return' from a function or sourced script"
  else throw (.returned (code.getD s.status))

/-- The code of a program that leaves a loop by a number that is none. -/
def noLoopCount : Nat := 128

/-- Leaves loops or begins their next rounds; a count that is no count leaves all of them. -/
def leaveLoops (name : String) (stop : Nat → Stop) : Builtin := fun _ args => do
  let s ← get
  let words := if args.head? == some "--" then args.drop 1 else args
  if s.loops == 0 then
    if s.isPlain then Run.setStatus 0
    else
      Run.complain (name ++ ": only meaningful in a \x60for', \x60while', or \x60until' loop")
      Run.setStatus 0
  else
    match words with
    | [] =>
      Run.setStatus 0
      throw (stop 1)
    | word :: rest =>
      match Condition.wordInteger? word with
      | none =>
        if s.isPlain then Run.abort (name ++ ": Illegal number: " ++ word)
        Run.complain (name ++ ": " ++ word ++ ": numeric argument required")
        throw (.exit noLoopCount)
      | some n =>
        if s.isPlain then
          if n ≤ 0 then Run.abort (name ++ ": Illegal number: " ++ word)
        else if !rest.isEmpty then Run.discard (name ++ ": too many arguments")
        if n ≤ 0 then
          refuse 1 (name ++ ": " ++ word ++ ": loop count out of range")
          throw (.broke s.loops)
        Run.setStatus 0
        throw (stop (min n.toNat s.loops))

def break_ : Builtin := leaveLoops "break" .broke

def continue_ : Builtin := leaveLoops "continue" .continued

/-- Drops arguments. -/
def shift : Builtin := fun _ args => do
  let s ← get
  let words := if args.head? == some "--" then args.drop 1 else args
  let count ← match words with
    | [] => pure (some 1)
    | word :: rest =>
      match Condition.wordInteger? word with
      | none =>
        if s.isPlain then Run.abort ("shift: Illegal number: " ++ word)
        refuse 1 ("shift: " ++ word ++ ": numeric argument required")
        pure none
      | some n =>
        if s.isPlain then
          if n < 0 then Run.abort ("shift: Illegal number: " ++ word)
        else if !rest.isEmpty then Run.discard "shift: too many arguments"
        pure (some n)
  match count with
  | none => pure ()
  | some n =>
    if n < 0 then refuse 1 ("shift: " ++ words.headD "" ++ ": shift count out of range")
    else if s.args.length < n.toNat then
      if s.isPlain then Run.abort "shift: can't shift that many"
      if s.has ⟨"shift_verbose"⟩ then
        Run.complain ("shift: " ++ words.headD "" ++ ": shift count out of range")
      Run.setStatus 1
    else
      set { s with args := s.args.drop n.toNat }
      Run.setStatus 0

/-- Runs the words as a program. -/
def evaluate : Builtin := fun E args =>
  withOptions "eval" "" "" args fun _ words => do
    if words.isEmpty then Run.setStatus 0
    else
      let old ← get
      set { old with lineBase := old.line - 1, nesting := old.nesting + 1 }
      Run.finally_ (E.source "eval: " (" ".intercalate words)) (modify fun s =>
        { s with lineBase := old.lineBase, nesting := old.nesting, line := old.line })

/-- The path of a file that is to be sourced: one without a slash is looked for, and lastly it is taken as it
stands. -/
def sourcePath (s : Session) (path : String) : Option String :=
  if path.toList.contains '/' then some path
  else
    let isFile := fun (p : String) => match s.entryAt? p with | some (.file _ _) => true | _ => false
    let directories := (Text.splitAt ':' (s.valueD "PATH")).map fun d => if d.isEmpty then "." else d
    match (directories.map fun d => d ++ "/" ++ path).find? isFile with
    | some found => some found
    | none => if s.isPlain then none else some path

/-- Runs the commands of a file in this shell, perhaps with arguments of its own. -/
def runFileHere (E : Engine) (path text : String) (args : List String) : Run Unit := do
  let old ← get
  set { old with
    args := if args.isEmpty then old.args else args
    frames := { name := "source", file := path, line := old.line, isFunction := false } :: old.frames
    lineBase := 0
    nesting := old.nesting + 1 }
  let restore := modify fun s => { s with
    args := if args.isEmpty then s.args else old.args
    frames := old.frames, lineBase := old.lineBase, line := old.line, nesting := old.nesting }
  let answer : Option Nat ← try
    E.source "" (readable text)
    pure none
  catch
    | .returned code => pure (some code)
    | .exit code => throw (.exit code)
    | stop =>
      restore
      throw stop
  restore
  -- the status that is given back counts only after the end
  Run.onEvent E "RETURN"
  answer.forM Run.setStatus

def source (name : String) : Builtin := fun E args =>
  withOptions name "" "" args fun _ words => do
    match words with
    | [] =>
      if (← get).isPlain then Run.setStatus 0
      else misuse name "filename argument required"
    | path :: rest =>
      let s ← get
      match sourcePath s path with
      | none => Run.abort (name ++ ": " ++ path ++ ": not found")
      | some found =>
        match s.entryAt? found with
        | some (.file text _) =>
          runFileHere E found text (if s.isPlain then [] else rest)
        | some .directory =>
          if s.isPlain then Run.setStatus 0
          else refuse 1 (name ++ ": " ++ path ++ ": is a directory")
        | none =>
          match deviceOf? s found with
          | some c => do
            let text := s.input c
            set (s.leave c "")
            runFileHere E found text rest
          | none =>
            let fault := fileFault s found
            if s.isPlain then
              let reason := match fault with | .missing => "No such file" | other => other.message
              Run.abort (name ++ ": cannot open " ++ path ++ ": " ++ reason)
            refuse 1 (path ++ ": " ++ fault.message)

/-- Computes expressions; the last one gives the answer. -/
def calculate : Builtin := fun _ args => do
  match if args.head? == some "--" then args.drop 1 else args with
  | [] => refuse 1 "let: expression expected"
  | words => go words
where
  go : List String → Run Unit
    | [] => pure ()
    | word :: rest => do
      match ← Arithmetic.attempt "let: " word with
      | none => Run.setStatus 1
      | some n =>
        Run.setStatus (if n == 0 then 1 else 0)
        go rest

/-- Shows from where the running function or file was called. -/
def caller : Builtin := fun _ args =>
  withOptions "caller" "" "" args fun _ words => do
    let s ← get
    let files := s.frames.map (·.file) ++ (if s.origin.isNone then [s.arg0] else [])
    let lines := s.frames.map (·.line)
    match words with
    | [] =>
      match lines with
      | [] =>
        if s.origin.isNone then
          Run.print 1 "0 NULL\n"
          Run.setStatus 0
        else Run.setStatus 1
      | line :: _ =>
        Run.print 1 (toString line ++ " " ++ (files[1]?).getD "NULL" ++ "\n")
        Run.setStatus 0
    | word :: _ =>
      match word.toNat? with
      | none => misuse "caller" (word ++ ": invalid number")
      | some n =>
        let names := s.runningNames
        match lines[n]?, names[n + 1]?, files[n + 1]? with
        | some line, some name, some file =>
          Run.print 1 (toString line ++ " " ++ name ++ " " ++ file ++ "\n")
          Run.setStatus 0
        | _, _, _ => Run.setStatus 1

end Toolwrap.Shell.Builtin
