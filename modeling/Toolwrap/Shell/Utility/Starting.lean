import Toolwrap.Shell.Utility.Basic
/-!
Programs that start other ones: in another environment, for a limited time, or for each of many words.
What they start is looked for as the program of a name.
-/
namespace Toolwrap.Shell.Utility

/-- The environment of a program of the host, in its order. -/
def environment (s : Session) : List (String × String) :=
  (s.scopes.headD []).map fun (x, v) => (x, (v.content.value?).getD "")

/-- Gives a variable of an environment a value, at its place or at the end. -/
def withVariable (env : List (String × String)) (x v : String) : List (String × String) :=
  if (env.lookup x).isSome then env.map fun e => if e.1 == x then (x, v) else e else env ++ [(x, v)]

def showVariable (x v : String) : String := x ++ "=" ++ v

/-- A word that gives a variable a value. -/
def assignment? (word : String) : Option (String × String) :=
  let name := word.toList.takeWhile (· != '=')
  match word.toList.drop name.length with
  | '=' :: value => some (String.ofList name, String.ofList value)
  | _ => none

/-- The words in front that give variables values, and the words behind them. -/
def assignments : List String → List (String × String) × List String
  | [] => ([], [])
  | word :: rest =>
    match assignment? word with
    | some a =>
      let (more, words) := assignments rest
      (a :: more, words)
    | none => ([], word :: rest)

/-- The usual complaint of a program about one that it cannot start. -/
def cannotRun (name : String) (fault : StartFault) : Run Nat :=
  fail (startFaultCode fault) ("failed to run command " ++ curved name ++ ": " ++ startFaultText fault)

/-- Replaces a call whose options hold a text of words by one that holds the words. Quotes are not
covered. -/
def splitCall : List String → Option (List String)
  | [] => some []
  | word :: rest =>
    match word.toList with
    | '-' :: 'S' :: text => words (String.ofList text) rest
    | '-' :: 'v' :: 'S' :: _ => none
    | _ =>
      if word.startsWith "--split-string=" then words (String.ofList (word.toList.drop 15)) rest
      else if word.startsWith "-" && word != "--" then (splitCall rest).map (word :: ·)
      else some (word :: rest)
where
  words (text : String) (rest : List String) : Option (List String) :=
    let (text, rest) := if text.isEmpty then (rest.headD "", rest.drop 1) else (text, rest)
    if text.toList.any ['\x22', '\x27', '\\', '$', '#'].contains then none
    else some (((text.splitOn " ").flatMap (·.splitOn "\t")).filter (· != "") ++ rest)

/-- Runs a program with a changed environment, or shows the environment. -/
def env : Utility := fun E args => do
  let o : Options := {
    short := "iu:0vC:S:", inFront := true, code := 125
    long := [("ignore-environment", "i"), ("null", "0"), ("unset", "u"), ("chdir", "C"), ("split-string", "S"),
      ("debug", "v")] }
  match splitCall args with
  | none => throw (.unsupported "env -S")
  | some args =>
    withCall o args fun call => do
      if call.has "v" then throw (.unsupported "env -v")
      let (empties, operands) := match call.operands with
        | "-" :: rest => (true, rest)
        | operands => (call.has "i", operands)
      let removed := call.options.filterMap fun o => if o.1 == "u" then o.2 else none
      match removed.find? fun x => x.isEmpty || x.toList.contains '=' with
      | some x => fail 125 ("cannot unset " ++ curved x ++ ": Invalid argument")
      | none =>
        let s ← get
        let (given, words) := assignments operands
        let start := if empties then [] else (environment s).filter fun e => !removed.contains e.1
        let env := given.foldl (fun env (x, v) => withVariable env x v) start
        if words.isEmpty then
          if call.has "C" then misused 125 "must specify command with --chdir (-C)"
          else
            out (String.join (env.map fun (x, v) => showVariable x v ++ if call.has "0" then "\x00" else "\n"))
            return 0
        else if call.has "0" then misused 125 "cannot specify --null (-0) with command"
        else
          let moved : Except FileFault Session := match call.value? "C" with
            | none => .ok s
            | some d =>
              match s.place d, s.entryAt? d with
              | .ok place, some .directory => .ok { s with here := place }
              | .ok _, some (.file _ _) => .error .notDirectory
              | .ok _, none => .error .missing
              | .error fault, _ => .error fault
          match moved with
          | .error fault =>
            fail 125 ("cannot change directory to " ++ quotedName ((call.value? "C").getD "") ++ ": " ++ fault.message)
          | .ok moved =>
            set moved
            launch E env words fun name fault => do
              complain (curved name ++ ": " ++ startFaultText fault)
              if startFaultCode fault == 127 && name.toList.contains ' ' then
                complain "use -[v]S to pass options in shebang lines"
              return startFaultCode fault

/-- Shows variables of the environment. -/
def printEnvironment : Utility := fun _ args =>
  withCall { short := "0", long := [("null", "0")], inFront := true, code := 2 } args fun call => do
    let env := environment (← get)
    let stop := if call.has "0" then "\x00" else "\n"
    if call.operands.isEmpty then
      out (String.join (env.map fun (x, v) => showVariable x v ++ stop))
      return 0
    else
      each call.operands fun x => do
        match if x.toList.contains '=' then none else env.lookup x with
        | some v =>
          out (v ++ stop)
          return true
        | none => return false

/-- A span of time, as long as anything takes if it has no end. -/
def span? (s : String) : Option Nat :=
  if s == "inf" || s == "infinity" then some (1000000 * longestWait)
  else
    let cs := s.toList
    let (cs, unit) := match cs.getLast? with
      | some 's' => (cs.dropLast, 1)
      | some 'm' => (cs.dropLast, 60)
      | some 'h' => (cs.dropLast, 3600)
      | some 'd' => (cs.dropLast, 86400)
      | _ => (cs, 1)
    let whole := cs.takeWhile Char.isDigit
    let wholes := numberIn 10 whole * unit * second
    match cs.drop whole.length with
    | [] => if whole.isEmpty then none else some wholes
    | '.' :: rest =>
      if !rest.all Char.isDigit || (whole.isEmpty && rest.isEmpty) then none
      else some (wholes + numberIn 10 rest * unit * second / Nat.pow 10 rest.length)
    | _ => none

def sleep : Utility := fun _ args =>
  withCall { short := "" } args fun call => do
    if call.operands.isEmpty then misused 1 "missing operand"
    else
      let bad := call.operands.filter fun w => (span? w).isNone
      if bad.isEmpty then
        Run.pass ((call.operands.filterMap span?).foldl (· + ·) 0)
        return 0
      for x in bad do complain ("invalid time interval " ++ curved x)
      hint
      return 1

/-- Runs a program that is ended by a signal when its time is over; no span is one without end. -/
def limited : Utility := fun E args =>
  let o : Options := {
    short := "k:s:v", inFront := true, code := 125
    long := [("kill-after", "k"), ("signal", "s"), ("verbose", "v"), ("foreground", "foreground"),
      ("preserve-status", "preserve-status")] }
  withCall o args fun call => do
    match call.operands with
    | span :: name :: rest =>
      let signal? := match call.value? "s" with
        | some word => Signal.number? word
        | none => some 15
      match span? span, signal?, (call.value? "k").all fun k => (span? k).isSome with
      | none, _, _ => misused 125 ("invalid time interval " ++ curved span)
      | _, _, false => misused 125 ("invalid time interval " ++ curved ((call.value? "k").getD ""))
      | _, none, _ => misused 125 (curved ((call.value? "s").getD "") ++ ": invalid signal")
      | some span, some signal, true =>
        let s ← get
        let limit := s.clock + span
        if span == 0 || s.horizon.any (· ≤ limit) then launch E (environment s) (name :: rest) cannotRun
        else
          set { s with horizon := some limit }
          try launch E (environment s) (name :: rest) cannotRun
          catch
            | .cut none =>
              if call.has "v" then
                complain ("sending signal " ++ Signal.name signal ++ " to command " ++ curved name)
              return if call.has "preserve-status" || signal == 9 then 128 + signal else 124
            | stop => throw stop
    | _ =>
      hint
      return 125

/-- Runs a program as another kind of process, which changes nothing that it does. -/
def startOnly (o : Options) (needed : Option String) (empty : Run Nat)
    (refuse : String → StartFault → Run Nat) : Utility := fun E args =>
  withCall o args fun call => do
    if call.operands.isEmpty then empty
    else
      match needed with
      | some message => if call.options.isEmpty then misused 125 message else go E call.operands
      | none => go E call.operands
where
  go (E : Engine) (words : List String) : Run Nat := do
    launch E (environment (← get)) words refuse

/-- Words in front that are numbers behind a dash, as values of an option. -/
def withAdjustments : List String → List String
  | [] => []
  | word :: rest =>
    match word.toList with
    | '-' :: c :: cs =>
      let digits := if c == '-' || c == '+' then cs else c :: cs
      if !digits.isEmpty && digits.all Char.isDigit then "-n" :: String.ofList (c :: cs) :: withAdjustments rest
      else if word == "-n" then word :: rest.take 1 ++ withAdjustments (rest.drop 1)
      else word :: rest
    | _ => word :: rest
termination_by words => words.length

/-- Runs a program with less attention, which changes nothing that it does. -/
def nice : Utility := fun E args =>
  let o : Options := { short := "n:", long := [("adjustment", "n")], inFront := true, code := 125 }
  withCall o (withAdjustments args) fun call => do
    let isNumber := fun (v : String) =>
      let digits := if v.startsWith "-" || v.startsWith "+" then v.toList.drop 1 else v.toList
      !digits.isEmpty && digits.all Char.isDigit
    match (call.value? "n").filter fun v => !isNumber v with
    | some v => fail 125 ("invalid adjustment " ++ curved v)
    | none =>
      if !call.operands.isEmpty then
        launch E (environment (← get)) call.operands fun name fault =>
          fail (startFaultCode fault) (curved name ++ ": " ++ startFaultText fault)
      else if call.has "n" then misused 125 "a command must be given with an adjustment"
      else
        out "0\n"
        return 0

/-- Shows where programs are found. -/
def whereabouts : Utility := fun _ args => do
  let s ← get
  let flags := args.takeWhile fun a => a.startsWith "-" && a != "-" && a != "--"
  let rest := args.drop flags.length
  let names := if rest.head? == some "--" then rest.drop 1 else rest
  match (flags.flatMap fun f => f.toList.drop 1).find? fun c => c != 'a' && c != 's' with
  | some c =>
    Run.print 2 ("Illegal option -" ++ String.singleton c ++ "\n")
    out "Usage: /usr/bin/which [-as] args\n"
    return 2
  | none =>
    let all := flags.any fun f => f.toList.contains 'a'
    let silent := flags.any fun f => f.toList.contains 's'
    if names.isEmpty then return 1
    each names fun name => do
      let paths := if name.toList.contains '/' then [name] else s.searchPath.map fun d => d ++ "/" ++ name
      let found := paths.filter fun p => (s.programAt p).toOption.isSome
      if !silent then outLines (if all then found else found.take 1)
      return !found.isEmpty

def lasting : Utility :=
  startOnly { short := "", inFront := true, code := 125 } none (misused 125 "missing operand")
    fun name fault =>
      fail (startFaultCode fault) ("failed to run command " ++ quotedName name ++ ": " ++ startFaultText fault)

def buffered : Utility :=
  startOnly
    { short := "i:o:e:", long := [("input", "i"), ("output", "o"), ("error", "e")], inFront := true, code := 125 }
    (some "you must specify a buffering mode option") (misused 125 "missing operand") cannotRun

/-! Words of the input as arguments. -/

/-- The words of a text, of which quotes and backslashes keep characters; each with whether a line ends
behind it. None if a quote is not closed. -/
def inputWords : Option Char → Option (List Char) → List Char → Option (List (String × Bool))
  | none, word, [] => some (word.toList.map fun w => (String.ofList w.reverse, true))
  | some _, _, [] => none
  | none, word, '\\' :: c :: rest => inputWords none (some (c :: word.getD [])) rest
  | none, word, c :: rest =>
    if c == ' ' || c == '\t' || c == '\n' then do
      let more ← inputWords none none rest
      match word with
      | some w => return (String.ofList w.reverse, c == '\n') :: more
      | none => return more
    else if c == '\x27' || c == '\x22' then inputWords (some c) (some (word.getD [])) rest
    else inputWords none (some (c :: word.getD [])) rest
  | some q, word, c :: rest =>
    if c == q then inputWords none word rest
    else if c == '\n' then none
    else inputWords (some q) (some (c :: word.getD [])) rest

/-- Cuts a list into pieces of a size. -/
def piecesOfSize {α : Type} (n : Nat) (xs : List α) : List (List α) :=
  go (xs.length + 1) xs
where
  go : Nat → List α → List (List α)
    | 0, _ => []
    | _, [] => []
    | fuel + 1, xs => xs.take (max n 1) :: go fuel (xs.drop (max n 1))

/-- Cuts words into the words of so many lines. -/
def piecesOfLines (n : Nat) : Nat → List String → List (String × Bool) → List (List String)
  | _, piece, [] => if piece.isEmpty then [] else [piece.reverse]
  | k, piece, (word, ends) :: rest =>
    let piece := word :: piece
    if ends && n ≤ k + 1 then piece.reverse :: piecesOfLines n 0 [] rest
    else piecesOfLines n (if ends then k + 1 else k) piece rest

/-- Runs a program with the words of the input as its last arguments, or in place of a mark. -/
def eachInput : Utility := fun E args =>
  let o : Options := {
    short := "0a:E:e::i::I:l::L:n:prs:txP:d:", inFront := true
    long := [("null", "0"), ("no-run-if-empty", "r"), ("max-args", "n"), ("replace", "i"), ("delimiter", "d"),
      ("max-lines", "l"), ("verbose", "t"), ("max-procs", "P"), ("arg-file", "a")] }
  withCall o args fun call => do
    if ["E", "e", "p", "x", "s"].any call.has then throw (.unsupported "xargs")
    let source ← match call.value? "a" with
      | some path => do
        match ← textOf path with
        | .ok text => pure (some text)
        | .error fault => do
          complain ("Cannot open input file " ++ quotedName path ++ ": " ++ fault.message)
          pure none
      | none => do pure (some (← Run.takeInput))
    match source with
    | none => return 1
    | some text =>
      let mark := if call.has "I" then call.value? "I" else if call.has "i" then some ((call.value? "i").getD "\x7b\x7d") else none
      let stop : Option Char :=
        if call.has "0" then some '\x00'
        else (call.value? "d").bind fun d => if d == "\\n" then some '\n' else if d == "\\t" then some '\t' else d.toList.head?
      let items : Option (List (String × Bool)) := match stop, mark with
        | some c, _ => some ((piecesOf c text).map (·, true))
        | none, some _ =>
          some (((linesOf text).map fun l => (String.ofList (l.toList.dropWhile fun c => c == ' ' || c == '\t'), true)).filter
            (·.1 != ""))
        | none, none => inputWords none none text.toList
      match items with
      | none =>
        complain "unmatched single quote; by default quotes are special to xargs unless you use the -0 option"
        return 1
      | some items =>
        let words := if call.operands.isEmpty then ["echo"] else call.operands
        let calls : List (List String) := match mark with
          | some m => items.map fun (item, _) => words.map fun w => if m.isEmpty then w else item.intercalate (w.splitOn m)
          | none =>
            let pieces := match (call.value? "n").bind String.toNat?, (call.value? "L").bind String.toNat? with
              | some n, _ => piecesOfSize n (items.map (·.1))
              | none, some n => piecesOfLines n 0 [] items
              | none, none => if items.isEmpty then [] else [items.map (·.1)]
            let pieces := if pieces.isEmpty && !call.has "r" then [[]] else pieces
            pieces.map (words ++ ·)
        let env := environment (← get)
        modify fun s => s.redirect 0 .null
        let mut code := 0
        for words in calls do
          if code != 124 && code != 126 && code != 127 then
            if call.has "t" then Run.print 2 (" ".intercalate words ++ "\n")
            let status ← launch E env words fun name fault => do
              complain (name ++ ": " ++ startFaultText fault)
              return startFaultCode fault + 1000
            if 1000 < status then code := status - 1000
            else if status == 255 then
              complain (words.headD "" ++ ": exited with status 255; aborting")
              code := 124
            else if status != 0 then code := 123
        return code

end Toolwrap.Shell.Utility
