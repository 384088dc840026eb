import Toolwrap.Shell.Builtin.Basic
/-!
Commands about what surrounds a program: other names for commands, and the permissions of new files.
-/
namespace Toolwrap.Shell.Builtin

/-- Whether a text may be another name for a command. -/
def isAliasName (x : String) : Bool :=
  !x.isEmpty && x.toList.all fun c => c ∉ ['/', '$', '\x60', '=', ' ', '\t', '\n', '|', '&', ';', '(', ')', '<', '>', '\x27', '\x22', '\\']

def aliasLine (plain : Bool) (x value : String) : String :=
  x ++ "=" ++ (if plain then Requoted.alternating value else Requoted.single value) ++ "\n"

def alias_ : Builtin := fun _ args =>
  withOptions "alias" "p" "" args fun options words => do
    let s ← get
    let lead := if s.isPlain then "" else "alias "
    if words.isEmpty || has options 'p' then
      let known := s.aliases.mergeSort fun a b => decide (a.1 ≤ b.1)
      Run.print 1 (String.join (known.map fun (x, value) => lead ++ aliasLine s.isPlain x value))
    let mut code := 0
    for word in words do
      let x := String.ofList (word.toList.takeWhile (· != '='))
      match word.toList.drop x.length with
      | _ :: value =>
        if isAliasName x then
          modify fun s => { s with aliases := (x, String.ofList value) :: s.aliases.filter fun a => a.1 != x }
        else
          Run.complain ("alias: \x60" ++ x ++ "': invalid alias name")
          code := 1
      | [] =>
        match (← get).aliases.lookup word with
        | some value => Run.print 1 (lead ++ aliasLine s.isPlain word value)
        | none =>
          if s.isPlain then Run.print 2 ("alias: " ++ word ++ " not found\n")
          else Run.complain ("alias: " ++ word ++ ": not found")
          code := 1
    Run.setStatus code

def unalias : Builtin := fun _ args =>
  withOptions "unalias" "a" "" args fun options words => do
    let s ← get
    if has options 'a' then
      set { s with aliases := [] }
      Run.setStatus 0
    else if words.isEmpty then
      if s.isPlain then Run.setStatus 0 else showUsage "unalias"
    else
      let mut code := 0
      for word in words do
        if ((← get).aliases.lookup word).isSome then
          modify fun s => { s with aliases := s.aliases.filter fun a => a.1 != word }
        else
          if s.isPlain then Run.print 2 ("unalias: " ++ word ++ " not found\n")
          else Run.complain ("unalias: " ++ word ++ ": not found")
          code := 1
      Run.setStatus code

/-- A number in octal digits, with zeros in front up to a width. -/
def octal (width n : Nat) : String :=
  let digits := Nat.toDigits 8 n
  String.ofList (List.replicate (width - digits.length) '0' ++ digits)

/-- Permissions as letters: what reading, writing and executing are allowed. -/
def permissionLetters (bits : Nat) : String :=
  String.ofList ((if bits / 4 % 2 == 1 then ['r'] else []) ++ (if bits / 2 % 2 == 1 then ['w'] else []) ++
    (if bits % 2 == 1 then ['x'] else []))

/-- What is allowed, for the owner, the group and others. -/
def allowedText (mask : Nat) : String :=
  let allowed := 0o777 - mask % 0o1000
  "u=" ++ permissionLetters (allowed / 64) ++ ",g=" ++ permissionLetters (allowed / 8 % 8) ++ ",o=" ++
    permissionLetters (allowed % 8)

/-- The permissions of one clause such as `g+w` or `u=rx`, on top of those that are allowed. -/
def applyClause (allowed : Nat) (clause : List Char) : Except String Nat := do
  let who := clause.takeWhile (· ∈ ['u', 'g', 'o', 'a'])
  let users := (if who.isEmpty || who.contains 'a' then 0o111 else
    (if who.contains 'u' then 0o100 else 0) + (if who.contains 'g' then 0o10 else 0) +
      (if who.contains 'o' then 1 else 0))
  match clause.drop who.length with
  | op :: perms =>
    if op ∉ ['+', '-', '='] then throw ("\x60" ++ String.singleton op ++ "': invalid symbolic mode operator")
    match perms.find? (· ∉ ['r', 'w', 'x', 'X']) with
    | some c => throw ("\x60" ++ String.singleton c ++ "': invalid symbolic mode character")
    | none =>
      let bits := (if perms.contains 'r' then 4 else 0) + (if perms.contains 'w' then 2 else 0) +
        (if perms.contains 'x' || perms.contains 'X' then 1 else 0)
      let these := users * bits
      if op == '+' then return allowed ||| these
      if op == '-' then return allowed &&& (0o777 ^^^ these)
      return (allowed &&& (0o777 ^^^ (users * 7))) ||| these
  | [] => throw "\x60\x00': invalid symbolic mode operator"

/-- The mask that a word asks for: what is not to be allowed in octal digits, or what is in letters. -/
def maskOf (old : Nat) (word : String) : Except String Nat :=
  let cs := word.toList
  if cs.head?.any Char.isDigit then
    if cs.all isOctal && numberIn 8 cs ≤ 0o7777 then .ok (numberIn 8 cs % 0o1000)
    else .error (word ++ ": octal number out of range")
  else do
    let allowed ← (Text.splitAt ',' word).foldlM (fun a c => applyClause a c.toList) (0o777 - old)
    return 0o777 - allowed

def umask : Builtin := fun _ args =>
  withOptions "umask" "pS" "" args fun options words => do
    let s ← get
    match words with
    | [] =>
      let text := if has options 'S' then allowedText s.mask else octal 4 s.mask
      let lead := if has options 'p' then (if has options 'S' then "umask -S " else "umask ") else ""
      Run.print 1 (lead ++ text ++ "\n")
      Run.setStatus 0
    | word :: _ =>
      match maskOf s.mask word with
      | .ok mask =>
        set { s with mask }
        if has options 'S' then Run.print 1 (allowedText mask ++ "\n")
        Run.setStatus 0
      | .error reason =>
        if s.isPlain then Run.abort ("umask: Illegal mode: " ++ word)
        refuse 1 ("umask: " ++ reason)

/-- The limits of a host, by their letters. -/
def hostLimits : List (Char × String) :=
  [('c', "0"), ('d', "unlimited"), ('e', "0"), ('f', "unlimited"), ('l', "8192"), ('m', "unlimited"),
   ('n', "1048576"), ('p', "8"), ('q', "819200"), ('r', "0"), ('s', "8192"), ('t', "unlimited"),
   ('v', "unlimited"), ('x', "unlimited")]

/-- The limits of the system are shown but not changed. -/
def limits : Builtin := fun _ args =>
  withOptions "ulimit" "SHabcdefiklmnpqrstuvxPRT" "" args fun options words => do
    let kinds := (options.map (·.1)).filter fun c => c != 'S' && c != 'H'
    match words with
    | [] =>
      match (kinds.headD 'f', kinds.drop 1) with
      | (c, []) =>
        match hostLimits.lookup c with
        | some limit => Run.print 1 (limit ++ "\n")
        | none => throw (.unsupported "ulimit")
      | _ => throw (.unsupported "ulimit")
      Run.setStatus 0
    | word :: _ =>
      if word.toList.all Char.isDigit || ["unlimited", "hard", "soft"].contains word then Run.setStatus 0
      else refuse 1 ("ulimit: " ++ word ++ ": invalid number")

/-- The time that was used, for the shell and for what it ran. -/
def times : Builtin := fun _ args =>
  withOptions "times" "" "" args fun _ _ => do
    let zero := if (← get).isPlain then "0m0.000000s 0m0.000000s\n" else "0m0.000s 0m0.000s\n"
    Run.print 1 (zero ++ zero)
    Run.setStatus 0

/-- Lines that were typed are not kept. -/
def lineHistory : Builtin := fun _ args =>
  withOptions "history" "acnprsw" "d" args fun options words => do
    Run.setStatus 0
    if options.isEmpty then
      match words with
      | [] => Run.setStatus 0
      | [word] =>
        if (Condition.wordInteger? word).isNone then refuse 1 ("history: " ++ word ++ ": numeric argument required")
      | _ => refuse 1 "history: too many arguments"

/-- So there are none to be run again. -/
def pastCommands : Builtin := fun _ args =>
  let words := args.takeWhile fun a => (Condition.wordInteger? a).isNone
  withOptions "fc" "lnrs" "e" words fun _ _ => Run.setStatus 0

/-- A shell of its own is not stopped. -/
def suspend : Builtin := fun _ args =>
  withOptions "suspend" "f" "" args fun _ words => do
    if !words.isEmpty then Run.discard "suspend: too many arguments"
    refuse 1 "suspend: cannot suspend: no job control"

/-- Keys have no meaning where lines are not typed. -/
def bindKeys : Builtin := fun _ args => do
  Run.complain "bind: warning: line editing not enabled"
  withOptions "bind" "lvpVPsSX" "fqurmx" args fun options words => do
    if !options.isEmpty then throw (.unsupported "bind")
    for word in words do
      if word.toList.any (· == ':') then throw (.unsupported "bind")
      if !word.isEmpty then Run.print 2 ("readline: " ++ word ++ ": no key sequence terminator\n")
    Run.setStatus 0

/-- Refuses what a plain run has no use for. -/
def refused (message : String) : Builtin := fun _ _ => refuse 1 message

/-- A text about a command, of which there is none. -/
def help : Builtin := fun _ args => do
  match args with
  | first :: _ =>
    if first.startsWith "-" then
      withOptions "help" "dms" "" args fun _ _ => throw (.unsupported "help")
      return
    if args.any fun word => (usages.lookup word).isSome then throw (.unsupported "help")
    let word := args.getLastD ""
    refuse 1 ("help: no help topics match \x60" ++ word ++ "'.  Try \x60help help' or \x60man -k " ++ word ++
      "' or \x60info " ++ word ++ "'.")
  | [] => throw (.unsupported "help")

/-- Completions are noted for those who type. -/
def noteCompletion : Builtin := fun _ args =>
  withOptions "complete" "abcdefgjkprsuvDEI" "oAGWFCXPS" args fun _ _ => Run.setStatus 0

def changeCompletion : Builtin := fun _ args =>
  withOptions "compopt" "DEI" "o" args fun _ words => do
    match words with
    | [] => refuse 1 "compopt: not currently executing completion function"
    | words => for word in words do refuse 1 ("compopt: " ++ word ++ ": no completion specification")

/-- Words that begin with a text: those of a list, or names that the shell knows. -/
def complete : Builtin := fun _ args =>
  withOptions "compgen" "abcdefgjksuv" "oAGWFCXPS" args fun options words => do
    let s ← get
    let start := words.headD ""
    let known ← match options with
      | [] => pure []
      | [('W', some list)] => pure (Text.words list)
      | [('A', some "function")] => pure (Text.sorted (s.functions.map (·.1)))
      | [('A', some "variable")] => pure s.names
      | [('v', _)] => pure s.names
      | _ => throw (.unsupported "compgen")
    let found := known.filter (·.startsWith start)
    Run.print 1 (String.join (found.map (· ++ "\n")))
    Run.setStatus (if found.isEmpty && !options.isEmpty then 1 else 0)

end Toolwrap.Shell.Builtin
