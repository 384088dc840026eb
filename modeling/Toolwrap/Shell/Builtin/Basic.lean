import Toolwrap.Shell.Condition
import Toolwrap.Shell.Redirection
/-!
What the commands of the shell have in common: options in front of their words, and the ways in which
they refuse a call. Each command sets the exit status.
-/
namespace Toolwrap.Shell

abbrev Builtin := Engine → List String → Run Unit

namespace Builtin

/-- How commands are called, behind their names. -/
def usages : List (String × String) :=
  [(".", "filename [arguments]"), ("alias", "[-p] [name[=value] ... ]"),
   ("bind",
    "[-lpsvPSVX] [-m keymap] [-f filename] [-q name] [-u name] [-r keyseq] [-x keyseq:shell-command] [keyseq:readline-function or readline-command]"),
   ("builtin", "[shell-builtin [arg ...]]"), ("caller", "[expr]"), ("cd", "[-L|[-P [-e]] [-@]] [dir]"),
   ("command", "[-pVv] command [arg ...]"),
   ("compgen",
    "[-abcdefgjksuv] [-o option] [-A action] [-G globpat] [-W wordlist] [-F function] [-C command] [-X filterpat] [-P prefix] [-S suffix] [word]"),
   ("complete",
    "[-abcdefgjksuv] [-pr] [-DEI] [-o option] [-A action] [-G globpat] [-W wordlist] [-F function] [-C command] [-X filterpat] [-P prefix] [-S suffix] [name ...]"),
   ("compopt", "[-o|+o option] [-DEI] [name ...]"),
   ("declare",
    "[-aAfFgiIlnrtux] [name[=value] ...] or declare -p [-aAfFilnrtux] [name ...]"),
   ("dirs", "[-clpv] [+N] [-N]"), ("disown", "[-h] [-ar] [jobspec ... | pid ...]"),
   ("enable", "[-a] [-dnps] [-f filename] [name ...]"), ("eval", "[arg ...]"),
   ("exec", "[-cl] [-a name] [command [argument ...]] [redirection ...]"),
   ("export", "[-fn] [name[=value] ...] or export -p"),
   ("fc", "[-e ename] [-lnr] [first] [last] or fc -s [pat=rep] [command]"), ("getopts", "optstring name [arg ...]"),
   ("hash", "[-lr] [-p pathname] [-dt] [name ...]"), ("help", "[-dms] [pattern ...]"),
   ("history", "[-c] [-d offset] [n] or history -anrw [filename] or history -ps arg [arg...]"),
   ("jobs", "[-lnprs] [jobspec ...] or jobs -x command [args]"),
   ("kill", "[-s sigspec | -n signum | -sigspec] pid | jobspec ... or kill -l [sigspec]"),
   ("local", "[option] name[=value] ..."),
   ("mapfile",
    "[-d delim] [-n count] [-O origin] [-s count] [-t] [-u fd] [-C callback] [-c quantum] [array]"),
   ("popd", "[-n] [+N | -N]"), ("printf", "[-v var] format [arguments]"),
   ("pushd", "[-n] [+N | -N | dir]"), ("pwd", "[-LP]"),
   ("read",
    "[-ers] [-a array] [-d delim] [-i text] [-n nchars] [-N nchars] [-p prompt] [-t timeout] [-u fd] [name ...]"),
   ("readarray",
    "[-d delim] [-n count] [-O origin] [-s count] [-t] [-u fd] [-C callback] [-c quantum] [array]"),
   ("readonly", "[-aAf] [name[=value] ...] or readonly -p"),
   ("set", "[-abefhkmnptuvxBCEHPT] [-o option-name] [--] [-] [arg ...]"),
   ("shopt", "[-pqsu] [-o] [optname ...]"), ("source", "filename [arguments]"), ("suspend", "[-f]"), ("times", ""),
   ("trap", "[-lp] [[arg] signal_spec ...]"), ("type", "[-afptP] name [name ...]"),
   ("typeset", "[-aAfFgiIlnrtux] name[=value] ... or typeset -p [-aAfFilnrtux] [name ...]"),
   ("ulimit", "[-SHabcdefiklmnpqrstuvxPRT] [limit]"), ("umask", "[-p] [-S] [mode]"), ("unalias", "[-a] name [name ...]"), ("unset", "[-f] [-v] [-n] [name ...]"),
   ("wait", "[-fn] [-p var] [id ...]")]

/-- Complains and fails. -/
def refuse (code : Nat) (message : String) : Run Unit := do
  Run.complain message
  Run.setStatus code

def showUsage (name : String) : Run Unit := do
  if !(← get).isPlain then
    let words := (usages.lookup name).getD ""
    Run.print 2 (name ++ ": usage: " ++ name ++ (if words.isEmpty then "" else " " ++ words) ++ "\n")
  Run.setStatus 2

/-- Refuses a call that makes no sense, and shows how the command is called. -/
def misuse (name message : String) : Run Unit := do
  Run.complain (name ++ ": " ++ message)
  showUsage name

def nothing (code : Nat) : Builtin := fun _ _ => Run.setStatus code

/-- An option, with its value if it takes one. -/
abbrev Option_ := Char × Option String

/-- What is wrong with options. -/
inductive OptionFault where
  | unknown (c : Char)
  | noValue (c : Char)
deriving DecidableEq, Repr

/-- The letters of one word of options, and whether the last one takes its value from the next word. -/
def lettersOf (plain valued : List Char) : List Char → Except OptionFault (List Option_ × Option Char)
  | [] => .ok ([], none)
  | c :: rest => do
    if valued.contains c then
      if rest.isEmpty then return ([], some c) else return ([(c, some (String.ofList rest))], none)
    if !plain.contains c then throw (.unknown c)
    let (more, open_) ← lettersOf plain valued rest
    return ((c, none) :: more, open_)

/-- The options in front of words: letters without a value and letters with one. -/
def optionsOf (plain valued : List Char) : List String → Except OptionFault (List Option_ × List String)
  | [] => .ok ([], [])
  | arg :: rest => do
    match arg.toList with
    | ['-', '-'] => return ([], rest)
    | '-' :: c :: cs =>
      let (these, open_) ← lettersOf plain valued (c :: cs)
      match open_, rest with
      | some d, value :: rest =>
        let (more, words) ← optionsOf plain valued rest
        return (these ++ (d, some value) :: more, words)
      | some d, [] => throw (.noValue d)
      | none, rest =>
        let (more, words) ← optionsOf plain valued rest
        return (these ++ more, words)
    | _ => return ([], arg :: rest)

/-- Runs a command whose options make sense. -/
def withOptions (name plain valued : String) (args : List String)
    (work : List Option_ → List String → Run Unit) : Run Unit := do
  if args.head? == some "--help" && !(← get).isPlain then throw (.unsupported (name ++ " --help"))
  match optionsOf plain.toList valued.toList args with
  | .ok (options, words) => work options words
  | .error (.unknown c) =>
    if (← get).isPlain then Run.abort (name ++ ": Illegal option -" ++ String.singleton c)
    misuse name ("-" ++ String.singleton c ++ ": invalid option")
  | .error (.noValue c) => misuse name ("-" ++ String.singleton c ++ ": option requires an argument")

def has (options : List Option_) (c : Char) : Bool := options.any fun o => o.1 == c

/-- The value of the last option of a letter. -/
def value? (options : List Option_) (c : Char) : Option String :=
  ((options.reverse.find? fun o => o.1 == c).bind (·.2))

/-- A name with a subscript. -/
def element? (s : String) : Option (String × String) :=
  let name := s.toList.takeWhile (· != '[')
  match s.toList.drop name.length with
  | '[' :: rest =>
    if rest.getLast? == some ']' && isName (String.ofList name) then
      some (String.ofList name, String.ofList rest.dropLast)
    else none
  | _ => none

/-- Whether a word names a variable or an item of one. -/
def isTarget (s : String) : Bool := isName s || (element? s).isSome

/-- The spot that a word names. -/
def spotOf (s : String) : Run Arithmetic.Spot := do
  match element? s with
  | some (name, index) => Arithmetic.Target.spot (Arithmetic.calculate "") ⟨name, some index⟩
  | none => return .whole s

/-- Gives a value to what a word names; whether that worked. -/
def assign (target value : String) : Run Bool := do
  try
    let spot ← spotOf target
    Assign.store spot false value
    return true
  catch
    | .discarded => return false
    | stop => throw stop

/-- A name and the value that is given to it, perhaps behind its old one. -/
structure Binding where
  name : String
  append : Bool := false
  value : Option String := none

def binding (arg : String) : Binding :=
  let name := arg.toList.takeWhile (· != '=')
  match arg.toList.drop name.length with
  | '=' :: value =>
    match name.reverse with
    | '+' :: rest => ⟨String.ofList rest.reverse, true, some (String.ofList value)⟩
    | _ => ⟨String.ofList name, false, some (String.ofList value)⟩
  | _ => ⟨arg, false, none⟩

/-- The message about a word that names nothing. -/
def notIdentifier (name word : String) : Run Unit := do
  if (← get).isPlain then Run.abort (name ++ ": " ++ word ++ ": bad variable name")
  Run.complain (name ++ ": \x60" ++ word ++ "': not a valid identifier")

/-- A number of a status that is given as the only word: none if there is no word. -/
def codeOf? (name : String) (args : List String) : Run (Option Nat) := do
  match if args.head? == some "--" then args.drop 1 else args with
  | [] => return none
  | word :: rest =>
    match Condition.wordInteger? word with
    | some n =>
      if !rest.isEmpty && !(← get).isPlain then Run.discard (name ++ ": too many arguments")
      return some (n.emod 256).toNat
    | none =>
      if (← get).isPlain then Run.abort (name ++ ": Illegal number: " ++ word)
      Run.complain (name ++ ": " ++ word ++ ": numeric argument required")
      return some 2

end Builtin

end Toolwrap.Shell
