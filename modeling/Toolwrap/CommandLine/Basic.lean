import Toolwrap.Path
import Toolwrap.Text.Unicode
/-!
Tokens of a command line. A token is an option if it begins with a dash and is not a negative number or
a phrase; long options may be shortened as long as only one begins that way, and a value may be
attached. Behind two dashes nothing is an option.
-/
namespace Toolwrap.CommandLine

/-- What the options of the command line are for. -/
inductive Flag where
  | help | version | platform | output | setup | logs
deriving DecidableEq, Repr

def Flag.takesValue : Flag → Bool
  | platform => true
  | output => true
  | logs => true
  | _ => false

/-- The spellings of the options that a command knows. -/
abbrev Options := List (String × Flag)

/-- Why the command line is not carried out. -/
inductive Refusal where
  /-- the use of the command line is asked for -/
  | help
  /-- the release is asked for -/
  | version
  /-- the command line cannot be understood -/
  | usage
deriving DecidableEq, Repr

/-- A value that stands in the token of its option: behind an equals sign, or behind the letter. -/
structure Attached where
  value : String
  marked : Bool
deriving DecidableEq, Repr

/-- What a token is. -/
inductive Role where
  | word
  /-- the two dashes that end the options -/
  | dashes
  /-- an option with its spelling and an attached value; one that is not known has no flag -/
  | option (known : Option (String × Flag)) (attached : Option Attached)
deriving DecidableEq, Repr

structure Token where
  text : String
  role : Role
deriving DecidableEq, Repr

namespace Token

/-- A text before and after its first equals sign, if it has one. -/
def cutAtEquals (s : String) : Option (String × String) :=
  let before := s.toList.takeWhile (· != '=')
  match s.toList.drop before.length with
  | _ :: after => some (String.ofList before, String.ofList after)
  | [] => none

/-- The options that a token may mean, with the attached value: of a long one, all that begin like it;
of a short one, its first letter, the rest being the value. -/
def candidates (options : Options) (s : String) : List ((String × Flag) × Option Attached) :=
  if s.startsWith "--" then
    let (stem, attached) : String × Option Attached :=
      match cutAtEquals s with
      | some (stem, value) => (stem, some (Attached.mk value true))
      | none => (s, none)
    (options.filter fun o => o.1.startsWith stem).map fun o => (o, attached)
  else
    let letter := String.ofList (s.toList.take 2)
    let value := String.ofList (s.toList.drop 2)
    (options.filter fun o => o.1 == letter).map fun o => (o, some ⟨value, false⟩)

/-- Digits, perhaps with a point before the last of them. -/
def isUnsigned (s : List Char) : Bool :=
  match s.dropWhile Text.isDigit with
  | [] => !s.isEmpty
  | '.' :: fraction => !fraction.isEmpty && fraction.all Text.isDigit
  | _ => false

/-- A number behind a dash; one line feed may follow. -/
def isNegativeNumber (s : String) : Bool :=
  match s.toList with
  | '-' :: rest => isUnsigned (if rest.getLast? == some '\n' then rest.dropLast else rest)
  | _ => false

/-- What a text is that stands before two dashes. It must not be short for several options. -/
def roleOf (options : Options) (s : String) : Except Refusal Role :=
  let exact := fun (spelling : String) => options.find? fun o => o.1 == spelling
  let attached := (cutAtEquals s).bind fun (stem, value) => (exact stem).map fun o => (o, Attached.mk value true)
  if !s.startsWith "-" || s == "-" then .ok .word
  else
    match exact s, attached with
    | some o, _ => .ok (.option (some o) none)
    | none, some (o, value) => .ok (.option (some o) (some value))
    | none, none =>
      match candidates options s with
      | [(o, value)] => .ok (.option (some o) value)
      | _ :: _ :: _ => .error .usage
      | [] =>
        if isNegativeNumber s || s.toList.contains ' ' then .ok .word else .ok (.option none none)

/-- The tokens of a command line. -/
def ofLine (options : Options) : List String → Except Refusal (List Token)
  | [] => .ok []
  | s :: rest =>
    if s == "--" then .ok (⟨s, .dashes⟩ :: rest.map (⟨·, .word⟩))
    else do
      let role ← roleOf options s
      return ⟨s, role⟩ :: (← ofLine options rest)

def isOption (t : Token) : Bool :=
  match t.role with
  | .option _ _ => true
  | _ => false

end Token

/-!
Requests, and how they are read from a command line. The options of a command may stand before and
behind its words, except that a run takes all that follows the description for the component. Asking
for help or the release counts as soon as it is read, mistakes before it first.
-/

/-- What the program is asked to do. -/
inductive Request where
  | build (config : Path) (platform : Option String) (output : Option Path) (setup : Bool)
  | run (config : Path) (platform : Option String) (logs : Path) (args : List String)
  | dockerfile (config : Path) (platform : Option String)
deriving DecidableEq, Repr

/-- What a command takes besides options. -/
inductive Slot where
  | one
  /-- all that follows, options included -/
  | remaining
deriving DecidableEq, Repr

def helpOptions : Options := [("-h", .help), ("--help", .help)]

def mainOptions : Options := helpOptions ++ [("--version", .version)]

def platformOptions : Options := [("-p", .platform), ("--platform", .platform)]

/-- The commands with their options and slots. -/
def commands : List (String × Options × List Slot) :=
  [("build",
      helpOptions ++ platformOptions ++
        [("-o", .output), ("--output", .output), ("--setup", .setup)],
      [.one]),
   ("run", helpOptions ++ platformOptions ++ [("--logdir", .logs)], [.one, .remaining]),
   ("dockerfile", helpOptions ++ platformOptions, [.one])]

/-- What letters behind a dash stand for: letters of options without a value, and at last perhaps one
that takes what is left as its value. From a letter on that is none of them the rest is surplus. -/
def spread (options : Options) (flag : Flag) : List Char → Option (List (Flag × Option String) × Bool)
  | [] => some ([(flag, none)], false)
  | c :: cs =>
    if flag.takesValue then some ([(flag, some (String.ofList (c :: cs)))], false)
    else if c == '-' then none
    else
      match options.lookup (String.ofList ['-', c]), cs with
      | some next, '=' :: value =>
        if next.takesValue then some ([(flag, none), (next, some (String.ofList value))], false)
        else none
      | some next, cs => (spread options next cs).map fun (given, surplus) =>
          ((flag, none) :: given, surplus)
      | none, _ => some ([(flag, none)], true)

/-- The options that one token stands for, before a missing value is looked for, and whether a part
of it is surplus. -/
def optionsOf (options : Options) (spelling : String) (flag : Flag) (attached : Option Attached) :
    Option (List (Flag × Option String) × Bool) :=
  match attached with
  | none => some ([(flag, none)], false)
  | some a =>
    if flag.takesValue then some ([(flag, some a.value)], false)
    else if spelling.startsWith "--" || a.marked || a.value.isEmpty then none
    else spread options flag a.value.toList

/-- What has been read of a command. -/
structure Reading where
  /-- the options with their values, last one first -/
  settings : List (Flag × String) := []
  /-- what filled the slots, in order -/
  words : List (List String) := []
  /-- whether there was something that has no place -/
  surplus : Bool := false
deriving Repr

/-- Takes options into account in order. -/
def Reading.apply (r : Reading) (given : List (Flag × String)) : Except Refusal Reading :=
  given.foldlM (fun r (flag, value) =>
    match flag with
    | .help => .error .help
    | .version => .error .version
    | _ => .ok { r with settings := (flag, value) :: r.settings }) r

/-- Reads an option; if its value is not attached, the next word is its value. -/
def Reading.takeOption (options : Options) (r : Reading) (known : Option (String × Flag))
    (attached : Option Attached) (rest : List Token) : Except Refusal (Reading × List Token) :=
  match known with
  | none => .ok ({ r with surplus := true }, rest)
  | some (spelling, flag) =>
    match optionsOf options spelling flag attached with
    | none => .error .usage
    | some (given, surplus) =>
      let r := { r with surplus := r.surplus || surplus }
      let plain := given.dropLast.map fun (flag, value) => (flag, value.getD "")
      match given.getLast? with
      | some (last, none) =>
        if last.takesValue then
          match rest with
          | ⟨value, .word⟩ :: rest => do return (← r.apply (plain ++ [(last, value)]), rest)
          | _ => .error .usage
        else do return (← r.apply (plain ++ [(last, "")]), rest)
      | some (last, some value) => do return (← r.apply (plain ++ [(last, value)]), rest)
      | none => .ok (r, rest)

def skipDashes : List Token → List Token
  | ⟨_, .dashes⟩ :: rest => rest
  | tokens => tokens

/-- What fills a slot, and what is left. -/
def Slot.fill : Slot → List Token → Option (List String × List Token)
  | one, tokens =>
    match skipDashes tokens with
    | ⟨w, .word⟩ :: rest => some ([w], skipDashes rest)
    | _ => none
  | remaining, tokens => some (tokens.map Token.text, [])

/-- Fills slots as long as that works. -/
def fillSlots : List Slot → List Token → List (List String) × List Slot × List Token
  | [], tokens => ([], [], tokens)
  | slot :: slots, tokens =>
    match slot.fill tokens with
    | some (words, rest) =>
      let (more, slots, rest) := fillSlots slots rest
      (words :: more, slots, rest)
    | none => ([], slot :: slots, tokens)

/-- Reads the tokens of a command. The fuel is one more than their number. -/
def readTokens (options : Options) : Nat → List Slot → List Token → Reading → Except Refusal Reading
  | 0, _, _, r => .ok r
  | fuel + 1, slots, tokens, r =>
    match tokens with
    | ⟨_, .option known attached⟩ :: rest => do
      let (r, rest) ← r.takeOption options known attached rest
      readTokens options fuel slots rest r
    | _ =>
      let (words, slots, rest) := fillSlots slots tokens
      let r := { r with words := r.words ++ words }
      if rest.any Token.isOption then
        if rest.length < tokens.length then readTokens options fuel slots rest r
        else
          readTokens options fuel slots (rest.dropWhile fun t => !t.isOption) { r with surplus := true }
      else .ok { r with surplus := r.surplus || !rest.isEmpty }

/-- What the words and options of a command ask for. -/
def Reading.request? (command : String) (r : Reading) : Option Request :=
  let platform := r.settings.lookup .platform
  match command, r.words with
  | "build", [[config]] =>
    some (.build (Path.parse config) platform ((r.settings.lookup .output).map Path.parse)
      (r.settings.lookup .setup).isSome)
  | "run", [[config], args] =>
    some (.run (Path.parse config) platform (Path.parse ((r.settings.lookup .logs).getD "./bwlog")) args)
  | "dockerfile", [[config]] => some (.dockerfile (Path.parse config) platform)
  | _, _ => none

/-- Reads a command and what belongs to it; a surplus is refused at last. -/
def readCommand (surplus : Bool) (name : String) (args : List String) : Except Refusal Request := do
  match commands.lookup name with
  | none => .error .usage
  | some (options, slots) =>
    let tokens ← Token.ofLine options args
    let r ← readTokens options (tokens.length + 1) slots tokens {}
    match r.request? name with
    | some request => if surplus || r.surplus then .error .usage else .ok request
    | none => .error .usage

/-- Reads the options before the command, and then the command. The fuel is one more than the number
of tokens. -/
def readMain : Nat → List Token → Reading → Except Refusal Request
  | 0, _, _ => .error .usage
  | fuel + 1, tokens, r =>
    match tokens with
    | ⟨_, .option known attached⟩ :: rest => do
      let (r, rest) ← r.takeOption mainOptions known attached rest
      readMain fuel rest r
    | ⟨name, .word⟩ :: rest => readCommand r.surplus name (rest.map Token.text)
    | _ => .error .usage

/-- The request of a command line. -/
def Request.ofLine (line : List String) : Except Refusal Request := do
  let tokens ← Token.ofLine mainOptions line
  readMain (tokens.length + 1) tokens {}

end Toolwrap.CommandLine
