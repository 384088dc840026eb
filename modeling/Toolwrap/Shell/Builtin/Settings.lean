import Toolwrap.Shell.Builtin.Declare
/-!
Commands that turn switches of the shell on and off, show them, and give it arguments.
-/
namespace Toolwrap.Shell.Builtin

/-- The state of a switch on a line of a table. -/
def switchLine (name : String) (on : Bool) : String :=
  name ++ String.ofList (List.replicate (15 - name.length) ' ') ++ "\t" ++ (if on then "on" else "off") ++ "\n"

/-- The switches of the plain shell, in order. -/
def plainOptions : List String :=
  ["errexit", "noglob", "ignoreeof", "interactive", "monitor", "noexec", "stdin", "xtrace", "verbose", "vi", "emacs",
   "noclobber", "allexport", "notify", "nounset", "privileged", "nolog", "debug"]

/-- Shows the switches of `set`, as a table or as commands. -/
def showOptions (asCommands : Bool) : Run Unit := do
  let s ← get
  if s.isPlain then
    if !asCommands then Run.print 1 "Current option settings\n"
    Run.print 1 (String.join (plainOptions.map fun name =>
      let on := s.has ⟨name⟩
      if asCommands then "set " ++ (if on then "-o " else "+o ") ++ name ++ "\n"
      else name ++ String.ofList (List.replicate (16 - name.length) ' ') ++ (if on then "on" else "off") ++ "\n"))
    return
  let text := Switch.options.map fun (name, _) =>
    if asCommands then "set " ++ (if s.has ⟨name⟩ then "-o " else "+o ") ++ name ++ "\n"
    else switchLine name (s.has ⟨name⟩)
  Run.print 1 (String.join text)

/-- A letter that is no switch, behind its sign, among the words in front. -/
def unknownLetter? : List String → Option String
  | [] => none
  | arg :: rest =>
    match arg.toList with
    | ['-'] => none
    | ['-', '-'] => none
    | ['+'] => unknownLetter? rest
    | sign :: flags =>
      if sign == '-' || sign == '+' then
        match flags.find? fun c => c != 'o' && (Switch.ofLetter? c).isNone && c != 'r' with
        | some c => some (String.ofList [sign, c])
        | none =>
          if flags.contains 'o' then unknownLetter? (rest.drop 1) else unknownLetter? rest
      else none
    | [] => none
termination_by words => words.length
decreasing_by all_goals simp; try omega

/-- What is left to be done for the letters of a word: the words behind it that are not used up, and whether
all went well. -/
def turnLetters (on : Bool) : List Char → List String → Run (List String × Bool)
  | [], words => return (words, true)
  | 'o' :: flags, words => do
    match words with
    | name :: rest =>
      if name.isEmpty || name.startsWith "-" || name.startsWith "+" then
        showOptions (!on)
        turnLetters on flags words
      else
        let isPlain := (← get).isPlain
        match (Switch.ofOption? name).filter fun _ => !isPlain || plainOptions.contains name with
        | some switch =>
          modify (·.turn switch on)
          turnLetters on flags rest
        | none =>
          if isPlain then
            Run.abort ("set: Illegal option " ++ (if on then "-o " else "+o ") ++ name)
          refuse 2 ("set: " ++ name ++ ": invalid option name")
          return ([], false)
    | [] =>
      showOptions (!on)
      turnLetters on flags []
  | c :: flags, words => do
    match Switch.ofLetter? c with
    | some switch => modify (·.turn switch on)
    | none => pure ()
    turnLetters on flags words

/-- Turns the switches on and off that the words in front ask for; new arguments, if there are any. The fuel
bounds the number of words. -/
def applyOptions : Nat → List String → Run (Option (List String) × Bool)
  | 0, _ => return (none, true)
  | _, [] => return (none, true)
  | fuel + 1, arg :: rest => do
    match arg.toList with
    | ['-', '-'] => return (some rest, true)
    | ['-'] =>
      modify fun s => (s.turn .xtrace false).turn ⟨"verbose"⟩ false
      return (if rest.isEmpty then none else some rest, true)
    | sign :: flags =>
      if sign == '-' || sign == '+' then
        let (words, worked) ← turnLetters (sign == '-') flags rest
        if worked then applyOptions fuel words else return (none, false)
      else return (some (arg :: rest), true)
    | [] => return (some (arg :: rest), true)

def set_ : Builtin := fun _ args => do
  if args.isEmpty then return ← listAll
  let s ← get
  match unknownLetter? args with
  | some letter =>
    if s.isPlain then Run.abort ("set: Illegal option " ++ letter)
    misuse "set" (letter ++ ": invalid option")
  | none =>
    Run.setStatus 0
    let (words, worked) ← applyOptions (args.length + 1) args
    match words with
    | some words => modify fun s => { s with args := words }
    | none => pure ()
    if worked then Run.setStatus 0

/-- The switches that options of a command name, applied where a shell is started. -/
def startWith (args : List String) : Run Unit := do
  discard (applyOptions (args.length + 1) args)

/-- Shows switches; whether all of them are on. -/
def showSwitches (quiet asCommands ofSet : Bool) (names : List String) : Run Unit := do
  let s ← get
  if !quiet then
    Run.print 1 (String.join (names.map fun name =>
      let on := s.has ⟨name⟩
      if asCommands then
        if ofSet then "set " ++ (if on then "-o " else "+o ") ++ name ++ "\n"
        else "shopt " ++ (if on then "-s " else "-u ") ++ name ++ "\n"
      else switchLine name on))

def switch : Builtin := fun _ args =>
  withOptions "shopt" "pqsuo" "" args fun options words => do
    let ofSet := has options 'o'
    let find := fun (name : String) => if ofSet then Switch.ofOption? name else Switch.ofExtra? name
    let turnsOn := has options 's'
    let turnsOff := has options 'u'
    let s ← get
    if turnsOn && turnsOff then
      refuse 1 "shopt: cannot set and unset shell options simultaneously"
    else if words.isEmpty then
      let all := if ofSet then Switch.options.map (·.1) else Switch.extras
      let shown :=
        if turnsOn then all.filter fun n => s.has ⟨n⟩
        else if turnsOff then all.filter fun n => !s.has ⟨n⟩
        else all
      showSwitches (has options 'q') (has options 'p') ofSet shown
      Run.setStatus 0
    else
      let mut code := 0
      for word in words do
        match find word with
        | none =>
          Run.complain ("shopt: " ++ word ++ (if ofSet then ": invalid option name" else ": invalid shell option name"))
          code := 1
        | some switch =>
          if turnsOn || turnsOff then modify (·.turn switch turnsOn)
          else
            showSwitches (has options 'q') (has options 'p') ofSet [word]
            if !(← get).has switch then code := 1
      Run.setStatus code

end Toolwrap.Shell.Builtin
