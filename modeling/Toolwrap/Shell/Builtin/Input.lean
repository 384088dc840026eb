import Toolwrap.Shell.Builtin.Basic
import Toolwrap.Shell.Format
/-!
Commands that read: lines of the input, fields of a line, and options among arguments.
-/
namespace Toolwrap.Shell.Builtin

/-- What is read of a text: characters, each with a mark whether it was escaped, whether the end was met
before what should end it, and what is left. -/
structure Taken where
  chars : List Marked
  ended : Bool
  rest : List Char

/-- Characters up to one that ends them. Without `raw`, a backslash escapes the next character, and takes a
line feed away. The last argument but one bounds the number of characters. -/
def takeUntil (raw : Bool) (stop : Option Char) : Option Nat → List Char → Taken
  | some 0, s => ⟨[], false, s⟩
  | _, [] => ⟨[], true, []⟩
  | most, '\\' :: rest =>
    if raw then step most '\\' rest
    else
      match rest with
      | '\n' :: rest => takeUntil raw stop most rest
      | c :: rest =>
        let t := takeUntil raw stop (most.map (· - 1)) rest
        { t with chars := (c, true) :: t.chars }
      | [] => ⟨[], true, []⟩
  | most, c :: rest => step most c rest
where
  step (most : Option Nat) (c : Char) (rest : List Char) : Taken :=
    if some c == stop then ⟨[], false, rest⟩
    else
      let t := takeUntil raw stop (most.map (· - 1)) rest
      if c == '\x00' then t else { t with chars := (c, false) :: t.chars }

def isBlankMark (ifs : Separators) (c : Marked) : Bool := !c.2 && ifs.isBlank c.1

def isSeparator (ifs : Separators) (c : Marked) : Bool := !c.2 && ifs.chars.contains c.1

/-- The next field of a line and what follows the separators behind it. -/
def nextField (ifs : Separators) (s : List Marked) : List Marked × List Marked :=
  let s := s.dropWhile (isBlankMark ifs)
  let field := s.takeWhile fun c => !isSeparator ifs c
  let rest := (s.drop field.length).dropWhile (isBlankMark ifs)
  match rest with
  | c :: after => if isSeparator ifs c then (field, after.dropWhile (isBlankMark ifs)) else (field, rest)
  | [] => (field, [])

/-- What the last name gets: the field, if it is the last one, or else all that is left, without blanks at the
end. -/
def lastField (ifs : Separators) (s : List Marked) : List Marked :=
  match nextField ifs s with
  | (field, []) => field
  | _ => (((s.dropWhile (isBlankMark ifs)).reverse).dropWhile (isBlankMark ifs)).reverse

/-- All fields of a line. The fuel is its length. -/
def allFields (ifs : Separators) : Nat → List Marked → List (List Marked)
  | 0, _ => []
  | fuel + 1, s =>
    if (s.dropWhile (isBlankMark ifs)).isEmpty then []
    else
      let (field, rest) := nextField ifs s
      field :: allFields ifs fuel rest

/-- Gives the fields of a line to names; whether all of them took their value. -/
def shareOut (ifs : Separators) : List String → List Marked → Run Bool
  | [], _ => return true
  | [x], s => assign x (plainText (lastField ifs s))
  | x :: rest, s => do
    let (field, after) := nextField ifs s
    if ← assign x (plainText field) then shareOut ifs rest after else return false

/-- The descriptor that an option names. -/
def descriptorOf (options : List Option_) : Option Nat :=
  match value? options 'u' with
  | none => some 0
  | some word => word.toNat?

def read : Builtin := fun _ args =>
  withOptions "read" "ers" "adintpuN" args fun options names => do
    let s ← get
    if s.isPlain && names.isEmpty then
      refuse 2 "read: arg count"
      return
    match names.find? (fun x => !isTarget x), value? options 't' with
    | some x, _ =>
      notIdentifier "read" x
      Run.setStatus 1
    | none, some time =>
      if (Format.realAt time.toList).2.isEmpty then go options names
      else refuse 1 ("read: " ++ time ++ ": invalid timeout specification")
    | none, none => go options names
where
  go (options : List Option_) (names : List String) : Run Unit := do
    let s ← get
    let fd := (descriptorOf options).getD 0
    let c := s.channel fd
    if c == .closed then
      refuse 1 (s!"read: {fd}: invalid file descriptor: Bad file descriptor")
      return
    let raw := has options 'r'
    let exact := (value? options 'N').bind String.toNat?
    let most := exact.or ((value? options 'n').bind String.toNat?)
    let delimiter := match value? options 'd' with
      | some d => d.toList.headD '\x00'
      | none => '\n'
    let taken := takeUntil raw (if exact.isSome then none else some delimiter) most (s.input c).toList
    set (s.leave c (String.ofList taken.rest))
    let ifs : Separators := if exact.isSome then ⟨[]⟩ else s.separators
    let worked ← match value? options 'a', names with
      | some x, _ => do
        Arithmetic.needFree x
        let fields := allFields ifs (taken.chars.length + 1) taken.chars
        modify fun s => s.setContent (s.resolved x) (numberedItems (fields.map plainText))
        pure true
      | none, [] => assign "REPLY" (plainText taken.chars)
      | none, names => shareOut ifs names taken.chars
    Run.setStatus (if worked && !taken.ended then 0 else 1)

/-- The lines of a text, each with its end, as far as it has one. -/
def linesWith (stop : Char) : List Char → List (List Char)
  | [] => []
  | c :: rest =>
    if c == stop then [c] :: linesWith stop rest
    else
      match linesWith stop rest with
      | [] => [[c]]
      | line :: more => (c :: line) :: more

def mapFile (name : String) : Builtin := fun _ args =>
  withOptions name "t" "dnOsuCc" args fun options words => do
    let x := words.headD "MAPFILE"
    if !isName x then
      notIdentifier name x
      Run.setStatus 1
      return
    let s ← get
    let fd := (descriptorOf options).getD 0
    let c := s.channel fd
    if c == .closed then
      refuse 1 (name ++ s!": {fd}: invalid file descriptor: Bad file descriptor")
      return
    let delimiter := match value? options 'd' with
      | some d => d.toList.headD '\x00'
      | none => '\n'
    let number := fun (c : Char) => ((value? options c).bind String.toNat?).getD 0
    let lines := (linesWith delimiter (s.input c).toList).drop (number 's')
    let count := number 'n'
    let taken := if count == 0 then lines else lines.take count
    let rest := if count == 0 then [] else lines.drop count
    let shown := taken.map fun line =>
      let line := if has options 't' && line.getLast? == some delimiter then line.dropLast else line
      String.ofList (line.filter (· != '\x00'))
    Arithmetic.needFree x
    modify fun s =>
      let s := s.leave c (String.ofList rest.flatten)
      let target := s.resolved x
      let start := number 'O'
      let old := if (value? options 'O').isSome then (s.contentOf target).list else []
      s.setContent target (.items (shown.zipIdx.foldl (fun xs (line, n) => Content.insert xs (start + n) line) old))
    Run.setStatus 0

/-- Where `getopts` stands: the number of the next argument, and the number of letters of it that are done. -/
structure OptionPlace where
  index : Nat
  letter : Nat

/-- What is wrong with an argument of options. -/
inductive OptionComplaint where
  | unknown (c : Char)
  | noValue (c : Char)
deriving DecidableEq, Repr

/-- The complaint as a line; the plain shell has words of its own for it. -/
def OptionComplaint.line (s : Session) : OptionComplaint → String
  | unknown c =>
    if s.isPlain then "Illegal option -" ++ String.singleton c ++ "\n"
    else s.arg0 ++ ": illegal option -- " ++ String.singleton c ++ "\n"
  | noValue c =>
    if s.isPlain then "No arg for -" ++ String.singleton c ++ " option\n"
    else s.arg0 ++ ": option requires an argument -- " ++ String.singleton c ++ "\n"

/-- What `getopts` found: the option, its value, and a complaint. -/
structure OptionFound where
  name : String
  value : Option String := none
  complaint : Option OptionComplaint := none
  place : OptionPlace
  found : Bool := true

/-- The next option among arguments. -/
def nextOption (letters : List Char) (args : List String) (place : OptionPlace) : OptionFound :=
  let silent := letters.head? == some ':'
  let atEnd := fun (index : Nat) => ({ name := "?", place := ⟨index, 1⟩, found := false } : OptionFound)
  match args[place.index - 1]? with
  | none => atEnd (max 1 place.index)
  | some arg =>
    let cs := arg.toList
    if place.letter ≤ 1 && (cs.head? != some '-' || cs == ['-']) then atEnd place.index
    else if place.letter ≤ 1 && cs == ['-', '-'] then atEnd (place.index + 1)
    else
      let letter := max 1 place.letter
      match cs[letter]? with
      | none => atEnd place.index
      | some c =>
        let isLast := cs.length ≤ letter + 1
        let next : OptionPlace := if isLast then ⟨place.index + 1, 1⟩ else ⟨place.index, letter + 1⟩
        match if c == ':' then none else letters.findIdx? (· == c) with
        | none =>
          { name := "?", place := next
            value := if silent then some (String.singleton c) else none
            complaint := if silent then none else some (.unknown c) }
        | some n =>
          if letters[n + 1]? != some ':' then { name := String.singleton c, place := next }
          else if !isLast then
            { name := String.singleton c, value := some (String.ofList (cs.drop (letter + 1)))
              place := ⟨place.index + 1, 1⟩ }
          else
            match args[place.index]? with
            | some value => { name := String.singleton c, value := some value, place := ⟨place.index + 2, 1⟩ }
            | none =>
              { name := if silent then ":" else "?", place := ⟨place.index + 1, 1⟩
                value := if silent then some (String.singleton c) else none
                complaint := if silent then none else some (.noValue c) }

def nextArgument : Builtin := fun _ args =>
  withOptions "getopts" "" "" args fun _ words => do
    match words with
    | letters :: name :: given =>
      let s ← get
      if !isName name then
        notIdentifier "getopts" name
        Run.setStatus 1
        return
      let index := ((s.valueD "OPTIND").toNat?).getD 1
      let letter := if s.optionPlace.1 == index then s.optionPlace.2 else 1
      let found := nextOption letters.toList (if given.isEmpty then s.args else given) ⟨index, letter⟩
      match found.complaint with
      | some complaint =>
        if s.isPlain || s.value? "OPTERR" != some "0" then Run.print 2 (complaint.line s)
      | none => pure ()
      modify fun s =>
        let s := s.setText "OPTIND" (toString found.place.index)
        let s := { s with optionPlace := (found.place.index, found.place.letter) }
        match found.value with
        | some v => s.setText "OPTARG" v
        | none => s.unset "OPTARG"
      if ← Assign.trySetText name found.name then Run.setStatus (if found.found then 0 else 1)
      else Run.setStatus 2
    | _ =>
      if (← get).isPlain then refuse 2 "getopts: Usage: getopts optstring var [arg...]" else showUsage "getopts"

end Toolwrap.Shell.Builtin
