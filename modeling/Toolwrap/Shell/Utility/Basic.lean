import Toolwrap.Shell.Executable
import Toolwrap.Shell.Redirection
/-!
What the programs of the host have in common: options among operands, the texts of the files that
operands name, lines, and the ways in which they complain. The name under which a program was called
is the name of its session.
-/
namespace Toolwrap.Shell

abbrev Utility := Engine → List String → Run Nat

namespace Utility

def out (s : String) : Run Unit := Run.print 1 s

/-- A message behind the name of the program. -/
def complain (message : String) : Run Unit := do
  Run.print 2 ((← get).arg0 ++ ": " ++ message ++ "\n")

/-- Complains and gives the code of a failure. -/
def fail (code : Nat) (message : String) : Run Nat := do
  complain message
  return code

/-- A text between curved quotes. -/
def curved (s : String) : String := "‘" ++ s ++ "’"

/-- Characters that mean something to a shell wherever they stand. -/
def shellMarks : List Char :=
  ['!', '\x22', '$', '&', '(', ')', '*', ';', '<', '=', '>', '?', '[', '\\', '^', '\x60', '|']

/-- Whether a name has to be quoted for a shell. -/
def needsQuotes (s : String) : Bool :=
  match s.toList with
  | [] => true
  | [c] => c == '\x7b' || c == '\x7d' || c == '#' || c == '~' || isMarked c
  | c :: cs => c == '#' || c == '~' || (c :: cs).any isMarked
where
  isMarked (c : Char) : Bool :=
    c == ' ' || c == '\x27' || shellMarks.contains c || !Requoted.isShown c

/-- A name between quotes that a shell understands. -/
def quotedName (s : String) : String :=
  let cs := s.toList
  if cs.contains '\x27' && cs.all (fun c => !shellMarks.contains c && Requoted.isShown c) then
    "\x22" ++ s ++ "\x22"
  else "'" ++ String.ofList (pieces cs) ++ "'"
where
  pieces : List Char → List Char
    | [] => []
    | '\x27' :: rest => ['\x27', '\\', '\x27', '\x27'] ++ pieces rest
    | c :: rest =>
      if Requoted.isShown c then c :: pieces rest
      else ['\x27', '$', '\x27'] ++ Requoted.escapedChar c ++ ['\x27', '\x27'] ++ pieces rest

/-- A name, between quotes only where a shell needs them. -/
def shownFile (s : String) : String := if needsQuotes s then quotedName s else s

/-- Which options a program has. -/
structure Options where
  /-- the letters, each with a colon behind it if it needs a value, or two if it may have one -/
  short : String
  /-- the long names, each with the letter or the name that it stands for -/
  long : List (String × String) := []
  /-- long names without a letter that need a value -/
  valued : List String := []
  /-- long names without a letter that may have one -/
  optionally : List String := []
  /-- options stand only in front of the operands -/
  inFront : Bool := false
  /-- the code of a call that makes no sense -/
  code : Nat := 1

/-- Whether an option has a value. -/
inductive HasValue where
  | never | always | perhaps
deriving DecidableEq, Repr

/-- What is wrong with options. -/
inductive Misuse where
  | unknown (text : String)
  | unknownLetter (letter : Char)
  | noValue (text : String)
  | noLetterValue (letter : Char)
  | withValue (name : String)
  | ambiguous (text : String) (names : List String)
deriving DecidableEq, Repr

def Misuse.message : Misuse → String
  | unknown text => "unrecognized option '" ++ text ++ "'"
  | unknownLetter letter => "invalid option -- '" ++ String.singleton letter ++ "'"
  | noValue name => "option '--" ++ name ++ "' requires an argument"
  | noLetterValue letter => "option requires an argument -- '" ++ String.singleton letter ++ "'"
  | withValue name => "option '--" ++ name ++ "' doesn't allow an argument"
  | ambiguous text names =>
    "option '" ++ text ++ "' is ambiguous; possibilities:" ++
      String.join (names.map fun n => " '--" ++ n ++ "'")

/-- A call that was read: options with their values, in order, and operands. -/
structure Call where
  options : List (String × Option String) := []
  operands : List String := []

namespace Options

/-- Whether a letter has a value; none if it is unknown. -/
def letter? (o : Options) (c : Char) : Option HasValue :=
  if c == ':' then none
  else
    match o.short.toList.dropWhile (· != c) with
    | [] => none
    | _ :: ':' :: ':' :: _ => some .perhaps
    | _ :: ':' :: _ => some .always
    | _ => some .never

/-- Whether a key has a value. -/
def keyValue (o : Options) (key : String) : HasValue :=
  match key.toList with
  | [c] => (o.letter? c).getD .never
  | _ =>
    if o.valued.contains key then .always
    else if o.optionally.contains key then .perhaps
    else .never

/-- Names that every program has. -/
def standing : List (String × String) := [("help", "help"), ("version", "version")]

/-- The long option that a text without its dashes begins: its full name and its key. -/
def long? (o : Options) (text stem : String) : Except Misuse (String × String) :=
  let all := o.long ++ standing
  match all.find? fun n => n.1 == stem with
  | some found => .ok found
  | none =>
    match all.filter fun n => n.1.startsWith stem with
    | [] => .error (.unknown text)
    | found :: more =>
      if more.all fun n => n.2 == found.2 then .ok found
      else .error (.ambiguous text ((found :: more).map (·.1)))

/-- The options of a word of letters, and a letter that takes its value from the next word. -/
def letters (o : Options) : List Char → Except Misuse (List (String × Option String) × Option Char)
  | [] => .ok ([], none)
  | c :: rest =>
    match o.letter? c with
    | none => .error (.unknownLetter c)
    | some .never => do
      let (more, open_) ← letters o rest
      return ((String.singleton c, none) :: more, open_)
    | some .always =>
      if rest.isEmpty then .ok ([], some c) else .ok ([(String.singleton c, some (String.ofList rest))], none)
    | some .perhaps =>
      .ok ([(String.singleton c, if rest.isEmpty then none else some (String.ofList rest))], none)

/-- What a word of a call is. -/
inductive WordKind where
  | operand
  /-- the mark behind which all words are operands -/
  | divider
  | options (these : List (String × Option String))
  /-- options of which the last one needs the next word; what is wrong if there is none -/
  | wanting (these : List (String × Option String)) (key : String) (otherwise : Misuse)

def classify (o : Options) (word : String) : Except Misuse WordKind :=
  match word.toList with
  | ['-', '-'] => .ok .divider
  | '-' :: '-' :: body => do
    let stem := String.ofList (body.takeWhile (· != '='))
    let (name, key) ← o.long? word stem
    let given := if body.contains '=' then some (String.ofList ((body.drop stem.length).drop 1)) else none
    match o.keyValue key, given with
    | .never, some _ => throw (.withValue name)
    | .always, none => return .wanting [] key (.noValue name)
    | _, given => return .options [(key, given)]
  | '-' :: c :: cs => do
    let (these, open_) ← o.letters (c :: cs)
    match open_ with
    | some d => return .wanting these (String.singleton d) (.noLetterValue d)
    | none => return .options these
  | _ => .ok .operand

/-- Reads the words of a call. -/
def read (o : Options) : List String → Except Misuse Call
  | [] => .ok {}
  | word :: rest =>
    match o.classify word with
    | .error misuse => .error misuse
    | .ok .divider => .ok { operands := rest }
    | .ok .operand =>
      if o.inFront then .ok { operands := word :: rest }
      else (read o rest).map fun call => { call with operands := word :: call.operands }
    | .ok (.options these) =>
      (read o rest).map fun call => { call with options := these ++ call.options }
    | .ok (.wanting these key otherwise) =>
      match rest with
      | [] => .error otherwise
      | value :: after =>
        (read o after).map fun call => { call with options := these ++ (key, some value) :: call.options }

end Options

namespace Call

def has (call : Call) (key : String) : Bool := call.options.any fun o => o.1 == key

/-- The value of the last option of a key. -/
def value? (call : Call) (key : String) : Option String :=
  (call.options.reverse.find? fun o => o.1 == key).bind (·.2)

/-- Which of some options comes last. -/
def last? (call : Call) (keys : List String) : Option String :=
  (call.options.reverse.find? fun o => keys.contains o.1).map (·.1)

end Call

def hint : Run Unit := do
  let name := (← get).arg0
  Run.print 2 ("Try '" ++ name ++ " --help' for more information.\n")

/-- Refuses a call, with a hint at the help. -/
def misused (code : Nat) (message : String) : Run Nat := do
  complain message
  hint
  return code

/-- Runs a program whose options make sense. Its help and its version are not covered. -/
def withCall (o : Options) (args : List String) (work : Call → Run Nat) : Run Nat := do
  match o.read args with
  | .error misuse => misused o.code misuse.message
  | .ok call =>
    if call.has "help" || call.has "version" then throw (.unsupported ((← get).arg0 ++ " --help"))
    work call

/-- Does the same for each operand; one failure fails the whole. -/
def each (operands : List String) (work : String → Run Bool) : Run Nat := do
  let mut code := 0
  for x in operands do
    if !(← work x) then code := 1
  return code

/-- The text of a file, or of the input for a dash, or of the input of a descriptor. -/
def textOf (path : String) : Run (Except FileFault String) := do
  if path == "-" then return .ok (← Run.takeInput)
  let s ← get
  match deviceOf? s path with
  | some c =>
    set (s.leave c "")
    return .ok (s.input c)
  | none =>
    match s.entryAt? path with
    | some (.file text _) => return .ok text
    | some .directory => return .error .isDirectory
    | none => return .error (fileFault s path)

/-- The texts of operands, or of the input if there are none; what cannot be read is told to `refuse`. -/
def texts (operands : List String) (refuse : String → FileFault → Run Unit) :
    Run (List (String × String) × Bool) := do
  let mut found := []
  let mut worked := true
  for path in (if operands.isEmpty then ["-"] else operands) do
    match ← textOf path with
    | .ok text => found := (path, text) :: found
    | .error fault =>
      refuse path fault
      worked := false
  return (found.reverse, worked)

/-- The usual complaint about a file. -/
def plainRefusal (path : String) (fault : FileFault) : Run Unit :=
  complain (shownFile path ++ ": " ++ fault.message)

/-- Lines of a text, each with whether it is closed by its end. -/
def closedLines (stop : Char) (s : List Char) : List (List Char × Bool) :=
  match s with
  | [] => []
  | c :: rest =>
    if c == stop then ([], true) :: closedLines stop rest
    else
      match closedLines stop rest with
      | [] => [([c], false)]
      | (line, closed) :: more => (c :: line, closed) :: more

/-- The lines of a text, whose last one need not be closed. -/
def linesOf (s : String) : List String :=
  let lines := Text.splitAt '\n' s
  if lines.getLast? == some "" then lines.dropLast else lines

/-- The pieces of a text that a character ends. -/
def piecesOf (stop : Char) (s : String) : List String :=
  let pieces := Text.splitAt stop s
  if pieces.getLast? == some "" then pieces.dropLast else pieces

def outLines (lines : List String) : Run Unit := out (String.join (lines.map (· ++ "\n")))

/-- Writes a file, or tells why it cannot be written. -/
def save (path text : String) : Run (Option FileFault) := do
  let s ← get
  match deviceOf? s path with
  | some c =>
    set (s.write c text)
    return none
  | none =>
    match s.tree.write s.here (Path.parse path) text with
    | .ok tree =>
      set { s with tree }
      return none
    | .error fault => return some fault

/-- Runs a program with arguments in an environment; if it cannot be started, the reason is told to
`refuse`. -/
def launch (E : Engine) (env : List (String × String)) (words : List String)
    (refuse : String → StartFault → Run Nat) : Run Nat := do
  match words with
  | [] => return 0
  | name :: args =>
    let outer ← get
    let searching := match env.lookup "PATH" with
      | some path => outer.setText "PATH" path
      | none => outer.unset "PATH"
    match searching.startOf name args with
    | .error (_, fault) => refuse name fault
    | .ok _ =>
      set searching
      Run.finally_ (E.start env name args) (modify fun s => { s with scopes := outer.scopes })
      return (← get).status

/-- The message of a fault of a program that was to be started. -/
def startFaultText : StartFault → String
  | .unknown => "No such file or directory"
  | .file fault => fault.message
  | .isDirectory => "Permission denied"
  | .notAllowed => "Permission denied"
  | .noInterpreter => "No such file or directory"
  | .badInterpreter _ => "Permission denied"
  | .binary => "Exec format error"

/-- The code of a fault of a program that was to be started. -/
def startFaultCode : StartFault → Nat
  | .unknown => 127
  | .file .missing => 127
  | .noInterpreter => 127
  | _ => 126

end Utility

end Toolwrap.Shell
