import Toolwrap.Shell.Builtin.Basic
import Toolwrap.Shell.Condition
import Toolwrap.Shell.Format
/-!
Commands that print, and commands that answer conditions.
-/
namespace Toolwrap.Shell.Builtin

/-- The options of `echo` in front of its words: whether a line feed ends the line, and whether
escapes are read. -/
def echoOptions (lineFeed escapes : Bool) : List String → Bool × Bool × List String
  | [] => (lineFeed, escapes, [])
  | arg :: rest =>
    match arg.toList with
    | '-' :: c :: cs =>
      let flags := c :: cs
      if flags.all (· ∈ ['n', 'e', 'E']) then
        let escapes := flags.foldl (fun e c => if c == 'e' then true else if c == 'E' then false else e) escapes
        echoOptions (lineFeed && 'n' ∉ flags) escapes rest
      else (lineFeed, escapes, arg :: rest)
    | _ => (lineFeed, escapes, arg :: rest)

/-- Prints to the output, or complains if there is none. -/
def printOut (name text : String) (code : Nat) : Run Unit := do
  match (← get).channel 1 with
  | .closed => if text.isEmpty then Run.setStatus code else refuse 1 (name ++ ": write error: Bad file descriptor")
  | c =>
    modify fun s => s.write c text
    Run.setStatus code

def echo : Builtin := fun _ args => do
  let s ← get
  let (lineFeed, escapes, words) :=
    if s.isPlain then
      match args with
      | "-n" :: rest => (false, true, rest)
      | _ => (true, true, args)
    else echoOptions true (s.has .xpgEcho) args
  let line := " ".intercalate words
  let (line, ended) := if escapes then Escape.inEcho.text line else (line, false)
  printOut "echo" (if lineFeed && !ended then line ++ "\n" else line) 0

def printFormat : Builtin := fun _ args => do
  match args with
  | "-v" :: [] => misuse "printf" "-v: option requires an argument"
  | _ =>
    let (target, rest, fault) := target none args
    match fault, rest with
    | some c, _ => misuse "printf" ("-" ++ String.singleton c ++ ": invalid option")
    | none, [] => showUsage "printf"
    | none, format :: args =>
      match target with
      | some x => if !isTarget x then
          notIdentifier "printf" x
          Run.setStatus 2
          return
      | none => pure ()
      let printed := Format.printed (← get).isPlain format args
      printed.complaints.forM fun c => Run.complain ("printf: " ++ c)
      let code := if printed.failed then 1 else 0
      match target with
      | some x =>
        let worked ← assign x printed.text
        Run.setStatus (if worked then code else 1)
      | none => printOut "printf" printed.text code
where
  /-- The variable that is to hold the text, what follows, and an option that makes no sense. -/
  target (x : Option String) : List String → Option String × List String × Option Char
    | "--" :: rest => (x, rest, none)
    | "-v" :: y :: rest => target (some y) rest
    | arg :: rest =>
      match arg.toList with
      | '-' :: 'v' :: y => target (some (String.ofList y)) rest
      | '-' :: c :: _ => (x, arg :: rest, some c)
      | _ => (x, arg :: rest, none)
    | [] => (x, [], none)

/-- The answer to a condition as a status; the name of the command stands in its complaints. -/
def answer (name : String) (words : List String) : Run Unit := do
  let s ← get
  match if s.isPlain then Condition.Plain.ofWords s words else Condition.ofWords s words with
  | .ok b => Run.setStatus (if b then 0 else 1)
  | .error message => refuse 2 (name ++ ": " ++ message)

def test : Builtin := fun _ args => answer "test" args

def bracket : Builtin := fun _ args =>
  if args.getLast? == some "]" then answer "[" args.dropLast
  else do refuse 2 (if (← get).isPlain then "[: missing ]" else "[: missing \x60]'")

end Toolwrap.Shell.Builtin
