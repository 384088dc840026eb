import Toolwrap.Shell.Builtin.Basic
/-!
Commands that declare variables, mark them, list them and remove them.
-/
namespace Toolwrap.Shell.Builtin

/-- What the options of a declaration ask for: marks that are set, marks that are taken away. -/
structure Marks where
  on : List Char := []
  off : List Char := []
deriving DecidableEq, Repr

namespace Marks

/-- The options in front of the words of a declaration. -/
def read (allowed : List Char) : Marks → List String → Except Char (Marks × List String)
  | marks, [] => .ok (marks, [])
  | marks, arg :: rest =>
    match arg.toList with
    | ['-', '-'] => .ok (marks, rest)
    | '-' :: c :: cs =>
      match (c :: cs).find? fun c => !allowed.contains c with
      | some c => .error c
      | none => read allowed { marks with on := marks.on ++ c :: cs } rest
    | '+' :: c :: cs =>
      match (c :: cs).find? fun c => !allowed.contains c with
      | some c => .error c
      | none => read allowed { marks with off := marks.off ++ c :: cs } rest
    | _ => .ok (marks, arg :: rest)

/-- A variable with its marks changed, but for the one that keeps its value. -/
def change (marks : Marks) (v : Variable) : Variable :=
  let flag := fun (c : Char) (old : Bool) =>
    if marks.on.contains c then true else if marks.off.contains c then false else old
  let content :=
    match marks.on.contains 'A', marks.on.contains 'a', v.content with
    | true, _, .table xs => .table xs
    | true, _, .text s => .table [("0", s)]
    | true, _, _ => .table []
    | _, true, .text s => .items [(0, s)]
    | _, true, .declared => .items []
    | _, _, c => c
  { v with
    content
    exported := flag 'x' v.exported
    integer := flag 'i' v.integer
    reference := flag 'n' v.reference
    casing :=
      if marks.on.contains 'u' then some true
      else if marks.on.contains 'l' then some false
      else if marks.off.contains 'u' || marks.off.contains 'l' then none
      else v.casing }

end Marks

/-- A variable of the innermost scope; one that is new there is exported if the one that it hides was. -/
def localVariable (s : Session) (x : String) : Variable :=
  match (s.scopes.headD []).lookup x with
  | some v => v
  | none =>
    { content := .declared, exported := ((s.find? x).map (·.exported)).getD false }

/-- Declares a variable, in the running function unless it is to be global, and gives it a value; whether
that worked. -/
def declareOne (name : String) (marks : Marks) (inFunction : Bool) (b : Binding) : Run Bool := do
  let s ← get
  let (x, index?) :=
    match element? b.name with
    | some (x, index) => (x, some index)
    | none => (b.name, none)
  if !isName x then
    notIdentifier name (b.name ++ (match b.value with | some v => (if b.append then "+=" else "=") ++ v | none => ""))
    return false
  let target := if marks.on.contains 'n' || marks.off.contains 'n' then x else s.resolved x
  let old := if inFunction then localVariable s x else s.variableD target
  let hidden := ((s.find? target).map (·.fixed)).getD false
  if (old.fixed || (inFunction && hidden)) && (b.value.isSome || inFunction) then
    Run.complain (name ++ ": " ++ x ++ ": readonly variable")
    return false
  let v := marks.change old
  let v := if index?.isSome && !v.content.isArray then { v with content := .items v.content.list } else v
  if inFunction then modify fun s => s.putLocal x v else modify fun s => s.put target v
  let x := if inFunction then x else target
  match b.value, index? with
  | some value, none =>
    if v.reference then modify fun s => s.put x { v with content := .text value }
    else Assign.store (.whole x) b.append value
  | some value, some index =>
    let spot ← Arithmetic.Target.spot (Arithmetic.calculate "") ⟨x, some index⟩
    Assign.store spot b.append value
  | none, _ => pure ()
  if marks.on.contains 'r' then modify fun s => s.put x { s.variableD x with fixed := true }
  return true

/-- Declares variables one after the other; one that cannot be declared fails the whole. -/
def declareAll (name : String) (marks : Marks) (inFunction : Bool) (words : List String) : Run Unit := do
  let mut code := 0
  for word in words do
    if !(← declareOne name marks inFunction (binding word)) then code := 1
  Run.setStatus code

/-- Names of facts that are listed among the variables. -/
def listedFacts : List String :=
  ["BASH", "BASHOPTS", "BASH_LINENO", "BASH_SOURCE", "BASH_VERSINFO", "BASH_VERSION", "EUID",
   "FUNCNAME", "HOSTTYPE", "MACHTYPE", "OSTYPE", "PIPESTATUS", "SHELLOPTS", "UID"]

/-- Shows the declarations of variables by name, or of all that bear the marks. -/
def showVariables (name : String) (marks : List Char) (names : List String) : Run Unit := do
  let s ← get
  let bears := fun (v : Variable) => marks.all fun c => v.letters.toList.contains c
  if names.isEmpty then
    let facts := listedFacts.filter fun x => (s.shownVariable? x).any fun v => v.content != .declared
    let shown := (Text.sorted (s.names ++ facts).eraseDups).filterMap fun x =>
      match s.shownVariable? x with
      | some v => if bears v then some (Variable.declaration x v ++ "\n") else none
      | none => none
    Run.print 1 (String.join shown)
    Run.setStatus 0
  else
    let mut code := 0
    for x in names do
      match (← get).shownVariable? x with
      | some v => Run.print 1 (Variable.declaration x v ++ "\n")
      | none =>
        Run.complain (name ++ ": " ++ x ++ ": not found")
        code := 1
    Run.setStatus code

/-- All variables with their values, and the full language lists functions behind them. -/
def listAll : Run Unit := do
  let s ← get
  -- these are worked out only when they are asked for
  let idle := ["BASH_ALIASES", "BASH_ARGC", "BASH_ARGV", "BASH_CMDS", "DIRSTACK", "GROUPS"]
  let facts := if s.isPlain then [] else listedFacts ++ "_" :: idle
  let valued := (Text.sorted (s.names ++ facts).eraseDups).filterMap fun x =>
    match if idle.contains x then none else s.shownVariable? x with
    | some { content := .declared, .. } => none
    | some v => some (x ++ v.valueText (if s.isPlain then Requoted.alternating else Requoted.plain) ++ "\n")
    | none => if x == "_" then some ("_=" ++ Requoted.plain s.lastWord ++ "\n") else some (x ++ "=()\n")
  Run.print 1 (String.join valued)
  if !s.isPlain then
    Run.print 1 (String.join ((Text.sorted (s.functions.map (·.1))).filterMap fun x =>
      (s.functions.lookup x).map fun f => spelledFunction x f.body))
  Run.setStatus 0

/-- The variables of the running function with their values. -/
def listLocal : Run Unit := do
  let scope := (← get).scopes.headD []
  Run.print 1 (String.join ((Text.sorted (scope.map (·.1))).filterMap fun x =>
    (scope.lookup x).bind fun v =>
      if v.content == .declared then none else some (Variable.declaration x v ++ "\n")))
  Run.setStatus 0

/-- Shows functions by name, or the names of all. -/
def showFunctions (onlyNames : Bool) (names : List String) : Run Unit := do
  let s ← get
  let mark := fun (name : String) (f : Function) => "declare -f" ++ (if f.exported then "x " else " ") ++ name ++ "\n"
  let full := fun (name : String) (f : Function) =>
    spelledFunction name f.body ++ if f.exported then mark name f else ""
  let chosen := if names.isEmpty then Text.sorted (s.functions.map (·.1)) else names
  let known := chosen.filterMap fun x => (s.functions.lookup x).map (x, ·)
  Run.print 1 (String.join (known.map fun (x, f) =>
    if !onlyNames then full x f else if names.isEmpty then mark x f else x ++ "\n"))
  Run.setStatus (if known.length == chosen.length then 0 else 1)

def declareLetters : List Char := "aAfFgiIlnprtux".toList

/-- The commands that declare; `isLocal` says that a function has to be running. -/
def declareAs (name : String) (isLocal : Bool) : Builtin := fun _ args => do
  let s ← get
  if s.isPlain then
    if !s.isInFunction then Run.abort (name ++ ": not in a function")
    declareAll name {} true args
  else
    match Marks.read declareLetters {} args with
    | .error c =>
      if isLocal && !s.isInFunction then return ← refuse 1 (name ++ ": can only be used in a function")
      misuse name ("-" ++ String.singleton c ++ ": invalid option")
    | .ok (marks, words) =>
      if isLocal && !s.isInFunction then refuse 1 (name ++ ": can only be used in a function")
      else if marks.on.contains 'p' then
        if marks.on.contains 'f' then showFunctions false words
        else showVariables name (marks.on.filter fun c => c != 'p' && c != 'g') words
      else if marks.on.contains 'F' then showFunctions true words
      else if marks.on.contains 'f' then showFunctions false words
      else if words.isEmpty then
        if isLocal then listLocal
        else if marks == {} then listAll
        else showVariables name (marks.on.filter fun c => c != 'p' && c != 'g') []
      else declareAll name marks (s.isInFunction && !marks.on.contains 'g') words

/-- Marks variables where they stand, and gives them values. -/
def markAll (name : String) (mark : Variable → Variable) (words : List String) : Run Unit := do
  let mut code := 0
  for word in words do
    let b := binding word
    if !isName b.name then
      notIdentifier name word
      code := 1
    else
      let x := (← get).resolved b.name
      let worked ← match b.value with
        | some value => do
          try
            Assign.store (.whole x) b.append value
            pure true
          catch
            | .discarded => pure false
            | stop => throw stop
        | none => pure true
      if worked then modify fun s => s.put x (mark (s.variableD x))
      else code := 1
  Run.setStatus code

/-- Lists the variables that bear a mark, as commands. -/
def listMarked (name : String) (letter : Char) : Run Unit := do
  let s ← get
  if s.isPlain then
    let shown := s.names.filterMap fun x => do
      let v ← s.find? x
      if v.letters.toList.contains letter then
        some (name ++ " " ++ x ++ v.valueText Requoted.alternating ++ "\n")
      else none
    Run.print 1 (String.join shown)
    Run.setStatus 0
  else showVariables name [letter] []

def exports : Builtin := fun _ args =>
  withOptions "export" "fnp" "" args fun options words => do
    if has options 'f' then
      let mut code := 0
      for x in words do
        match (← get).functions.lookup x with
        | some f =>
          modify fun s => { s with functions :=
            (x, { f with exported := !has options 'n' }) :: s.functions.filter fun g => g.1 != x }
        | none =>
          Run.complain ("export: " ++ x ++ ": not a function")
          code := 1
      Run.setStatus code
    else if words.isEmpty then listMarked "export" 'x'
    else markAll "export" (fun v => { v with exported := !has options 'n' }) words

def readonly : Builtin := fun _ args =>
  withOptions "readonly" "aAfp" "" args fun options words => do
    if has options 'f' then Run.setStatus 0
    else if words.isEmpty then listMarked "readonly" 'r'
    else
      let kind : Marks := { on := options.map (·.1) }
      markAll "readonly" (fun v => { kind.change v with fixed := true }) words

/-- Removes an item of an array, or all of them. -/
def unsetItem (x index : String) : Run Unit := do
  let s ← get
  let target := s.resolved x
  let v := s.variableD target
  match v.content with
  | .table xs =>
    let key := Arithmetic.unquotedKey index
    let kept := if key == "@" || key == "*" then [] else xs.filter fun e => e.1 != key
    modify fun s => s.put target { v with content := .table kept }
  | .items xs =>
    if index == "@" || index == "*" then modify fun s => s.put target { v with content := .items [] }
    else
      let n ← Arithmetic.calculate "" index
      match Session.indexIn? xs n with
      | some n => modify fun s => s.put target { v with content := .items (xs.filter fun e => e.1 != n) }
      | none => Run.complain (s!"unset: [{n}]: bad array subscript")
  | _ =>
    let n ← Arithmetic.calculate "" index
    if n == 0 then modify fun s => s.unset target
    else if s.find? target |>.isSome then refuse 1 ("unset: " ++ x ++ ": not an array variable")

def unset : Builtin := fun _ args =>
  withOptions "unset" "fvn" "" args fun options words => do
    Run.setStatus 0
    let mut code := 0
    for word in words do
      let s ← get
      let removeFunction := modify fun s => { s with functions := s.functions.filter fun f => f.1 != word }
      if has options 'f' then removeFunction
      else
        match element? word with
        | some (x, index) => unsetItem x index
        | none =>
          let target := if has options 'n' then word else s.resolved word
          match s.shownVariable? target with
          | some v =>
            if v.fixed then
              if s.isPlain then Run.abort ("unset: " ++ word ++ ": is read only")
              Run.complain ("unset: " ++ word ++ ": cannot unset: readonly variable")
              code := 1
            else modify fun s => s.unset target
          | none => if !has options 'v' then removeFunction
    if code != 0 then Run.setStatus code

end Toolwrap.Shell.Builtin
