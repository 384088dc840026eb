import Toolwrap.Shell.Assignment
import Toolwrap.Shell.Regex.Reader
/-!
Conditions: questions about texts, numbers and files, as the command `[` puts them with words and as
double brackets put them with expressions. Between double brackets the right side of an equality is a
pattern, and numbers are arithmetic expressions.
-/
namespace Toolwrap.Shell

namespace Condition

/-- The questions about one operand. No file is a link. -/
def unaryOps : List String :=
  ["-n", "-z", "-e", "-a", "-f", "-d", "-x", "-r", "-w", "-s", "-h", "-L", "-v", "-t", "-p", "-b",
   "-c", "-S", "-g", "-k", "-u", "-o", "-G", "-N", "-O", "-R"]

/-- Whether a parameter that is given as text has a value. -/
def hasValue (s : Session) (text : String) : Bool :=
  let name := text.toList.takeWhile (· != '[')
  match text.toList.drop name.length with
  | [] => (s.contentOf text).value?.isSome
  | rest =>
    let entries := (s.contentOf (String.ofList name)).entries
    let key := String.ofList ((rest.drop 1).dropLast)
    if key == "@" || key == "*" then !entries.isEmpty else entries.any (·.1 == key)

/-- The answer to a question about one operand. -/
def unary (s : Session) (op operand : String) : Bool :=
  let entry := s.entryAt? operand
  let isDevice := ["/dev/null", "/dev/stdin", "/dev/stdout", "/dev/stderr", "/dev/tty"].contains operand
  let there := entry.isSome || isDevice
  match op with
  | "-n" => !operand.isEmpty
  | "-z" => operand.isEmpty
  | "-e" => there
  | "-a" => there
  | "-r" => there
  | "-w" => there
  | "-O" => there
  | "-G" => there
  | "-c" => isDevice
  | "-d" => entry == some .directory
  | "-f" => match entry with | some (.file _ _) => true | _ => false
  | "-s" => match entry with | some (.file text _) => !text.isEmpty | some .directory => true | _ => false
  | "-x" => match entry with | some (.file _ x) => x | some .directory => true | none => false
  | "-v" => hasValue s operand
  | "-o" => (Switch.ofOption? operand).any s.has
  | "-R" => match s.find? operand with | some { reference := true, .. } => true | _ => false
  | _ => false

/-- The comparisons of numbers. -/
def numeric? (op : String) : Option (Int → Int → Bool) :=
  match op with
  | "-eq" => some fun a b => a == b
  | "-ne" => some fun a b => a != b
  | "-lt" => some fun a b => a < b
  | "-le" => some fun a b => a ≤ b
  | "-gt" => some fun a b => b < a
  | "-ge" => some fun a b => b ≤ a
  | _ => none

/-- The comparisons of texts. -/
def textual? (op : String) : Option (String → String → Bool) :=
  match op with
  | "=" => some fun a b => a == b
  | "==" => some fun a b => a == b
  | "!=" => some fun a b => a != b
  | "<" => some fun a b => a < b
  | ">" => some fun a b => b < a
  | _ => none

/-- The comparisons of files. A file is as old as any other, but newer than none. -/
def ofFiles? (op : String) : Option (Session → String → String → Bool) :=
  match op with
  | "-ef" => some fun s a b =>
    match s.place a, s.place b with
    | .ok p, .ok q => p == q && (s.entryAt? a).isSome
    | _, _ => false
  | "-nt" => some fun s a b => (s.entryAt? a).isSome && (s.entryAt? b).isNone
  | "-ot" => some fun s a b => (s.entryAt? a).isNone && (s.entryAt? b).isSome
  | _ => none

/-- Whether a word compares two operands. -/
def isBinaryOp (op : String) : Bool := (numeric? op).isSome || (ofFiles? op).isSome || (textual? op).isSome

/-- An integer with a sign and blanks around it. -/
def integer? (s : String) : Option Int :=
  let isSpace := fun (c : Char) => c == ' ' || (9 ≤ c.toNat && c.toNat ≤ 13)
  let body := ((s.toList.dropWhile isSpace).reverse.dropWhile isSpace).reverse
  let (negative, digits) :=
    match body with
    | '-' :: rest => (true, rest)
    | '+' :: rest => (false, rest)
    | rest => (false, rest)
  if digits.isEmpty || !digits.all Char.isDigit then none
  else
    let n : Int := digits.foldl (fun n c => 10 * n + (c.toNat - 48)) 0
    some (if negative then -n else n)

/-- An integer that 64 bits hold. -/
def wordInteger? (s : String) : Option Int :=
  (integer? s).filter fun n => -(Nat.pow 2 63 : Nat) ≤ n && n < (Nat.pow 2 63 : Nat)

abbrev Answer := Except String Bool

def integer (s : Session) (text : String) : Except String Int :=
  match wordInteger? text with
  | some n => .ok n
  | none => .error (if s.isPlain then "Illegal number: " ++ text else text ++ ": integer expression expected")

def binary (s : Session) (a op b : String) : Answer :=
  match numeric? op, textual? op, ofFiles? op with
  | some holds, _, _ => do return holds (← integer s a) (← integer s b)
  | none, some holds, _ => .ok (holds a b)
  | none, none, some holds => .ok (holds s a b)
  | none, none, none => .error (op ++ ": binary operator expected")

/-! Longer conditions of words: alternatives of conjunctions of terms. The fuel is the number of
words. -/

mutual

def anyOf (s : Session) : Nat → List String → Except String (Bool × List String)
  | 0, _ => .error "too many arguments"
  | fuel + 1, words => do
    let (first, rest) ← allOf s fuel words
    match rest with
    | "-o" :: rest =>
      let (second, rest) ← anyOf s fuel rest
      return (first || second, rest)
    | _ => return (first, rest)

def allOf (s : Session) : Nat → List String → Except String (Bool × List String)
  | 0, _ => .error "too many arguments"
  | fuel + 1, words => do
    let (first, rest) ← term s fuel words
    match rest with
    | "-a" :: rest =>
      let (second, rest) ← allOf s fuel rest
      return (first && second, rest)
    | _ => return (first, rest)

def term (s : Session) : Nat → List String → Except String (Bool × List String)
  | 0, _ => .error "too many arguments"
  | fuel + 1, words =>
    match words with
    | [] => .error "argument expected"
    | "!" :: rest => do
      let (b, rest) ← term s fuel rest
      return (!b, rest)
    | "(" :: rest => do
      match ← anyOf s fuel rest with
      | (b, ")" :: rest) => return (b, rest)
      | (_, []) => .error "\x60)' expected"
      | (_, found :: _) => .error ("\x60)' expected, found " ++ found)
    | a :: op :: b :: rest =>
      if isBinaryOp op then do return (← binary s a op b, rest)
      else if a ∈ unaryOps then .ok (unary s a op, b :: rest)
      else .ok (!a.isEmpty, op :: b :: rest)
    | [op, a] => if op ∈ unaryOps then .ok (unary s op a, []) else .ok (!op.isEmpty, [a])
    | [a] => .ok (!a.isEmpty, [])

end

def long (s : Session) (words : List String) : Answer := do
  match ← anyOf s (3 * words.length + 3) words with
  | (b, []) => return b
  | (_, next :: _) =>
    if next.startsWith "-" then .error ("syntax error: \x60" ++ next ++ "' unexpected")
    else .error "too many arguments"

def two (s : Session) (a b : String) : Answer :=
  if a == "!" then .ok b.isEmpty
  else if a ∈ unaryOps then .ok (unary s a b)
  else .error (a ++ ": unary operator expected")

def three (s : Session) (a op b : String) : Answer :=
  if isBinaryOp op then binary s a op b
  else if op == "-a" then .ok (!a.isEmpty && !b.isEmpty)
  else if op == "-o" then .ok (!a.isEmpty || !b.isEmpty)
  else if a == "!" then (!·) <$> two s op b
  else if a == "(" && b == ")" then .ok (!op.isEmpty)
  else .error (op ++ ": binary operator expected")

/-- The answer to a condition of words; how many there are tells what they mean. -/
def ofWords (s : Session) (words : List String) : Answer :=
  match words with
  | [] => .ok false
  | [a] => .ok (!a.isEmpty)
  | [a, b] => two s a b
  | [a, op, b] => three s a op b
  | ["!", a, op, b] => (!·) <$> three s a op b
  | ["(", a, b, ")"] => two s a b
  | words => long s words

end Condition

/-- The answer to a condition that cannot be put. -/
inductive Verdict where
  | yes | no | senseless
deriving DecidableEq, Repr

def Verdict.ofBool (b : Bool) : Verdict := if b then .yes else .no

def Verdict.status : Verdict → Nat
  | yes => 0 | no => 1 | senseless => 2

/-- Whether a text matches a regular expression. The matched text and those of the groups are kept;
without a match there are none. -/
def matchRegex (subject : String) (pattern : List Marked) : Run Verdict := do
  match Regex.ofMarked? pattern with
  | none => return .senseless
  | some e =>
    let folds := (← get).has .nocasematch
    let found := e.matched? folds subject.toList
    modify fun s =>
      s.setContent "BASH_REMATCH" (numberedItems ((found.getD []).map String.ofList))
    return .ofBool found.isSome

/-- A pattern as it is shown: quoted characters are behind backslashes. -/
def backslashedMarks (pattern : List Marked) : String :=
  String.ofList (pattern.flatMap fun (c, quoted) => if quoted then ['\\', c] else [c])

/-- The answer to a condition between double brackets. -/
def Test.holds (E : Engine) : Test → Run Verdict
  | .unary op word => do
    let operand ← Word.text E word
    traceFull E fun _ => "[[ " ++ op ++ " " ++ Requoted.shown operand ++ " ]]"
    return .ofBool (Condition.unary (← get) op operand)
  | .binary left op right => do
    let a ← Word.text E left
    let show_ := fun (b : String) => traceFull E fun _ => "[[ " ++ (if a.isEmpty then "''" else a) ++ " " ++ op ++ " " ++ b ++ " ]]"
    let pattern := do
      let marked ← Word.marked E right
      show_ (if marked.isEmpty then "''" else backslashedMarks marked)
      return marked
    let fits := do
      let folds := (← get).has .nocasematch
      return (Pattern.ofMarked true (← pattern)).fits folds a.toList
    match op with
    | "=~" => matchRegex a (← pattern)
    | "!=" => return .ofBool !(← fits)
    | "=" => return .ofBool (← fits)
    | "==" => return .ofBool (← fits)
    | _ =>
      let b ← Word.text E right
      show_ (if b.isEmpty then "''" else b)
      match Condition.numeric? op with
      | some compare =>
        match ← Arithmetic.attempt "[[: " a with
        | none => return .no
        | some m =>
          match ← Arithmetic.attempt "[[: " b with
          | none => return .no
          | some n => return .ofBool (compare m n)
      | none =>
        match Condition.textual? op, Condition.ofFiles? op with
        | some compare, _ => return .ofBool (compare a b)
        | none, some compare => return .ofBool (compare (← get) a b)
        | none, none => throw (.unsupported op)
  | .not t => do
    match ← t.holds E with
    | .yes => return .no
    | .no => return .yes
    | .senseless => return .yes
  | .and a b => do
    match ← a.holds E with
    | .yes => b.holds E
    | other => return other
  | .or a b => do
    match ← a.holds E with
    | .yes => return .yes
    | _ => b.holds E

end Toolwrap.Shell

/-!
Conditions of the plain shell, whose words are read from the left: a word is an operator unless it stands
where an operand has to.
-/
namespace Toolwrap.Shell.Condition.Plain

/-- What a word is where it stands. -/
inductive Token where
  | finish
  | operand
  | unary
  | binary
  | and_
  | or_
  | not_
  | opening
  | closing
deriving DecidableEq, Repr

def unaryOps : List String :=
  ["-r", "-w", "-x", "-e", "-f", "-d", "-c", "-b", "-p", "-u", "-g", "-k", "-s", "-t", "-z", "-n", "-h", "-L", "-S",
   "-O", "-G"]

def binaryOps : List String :=
  ["=", "!=", "<", ">", "-eq", "-ne", "-ge", "-gt", "-le", "-lt", "-nt", "-ot", "-ef"]

/-- What the first word is. -/
def tokenAt : List String → Token
  | [] => .finish
  | word :: rest =>
    if unaryOps.contains word then
      match rest with
      | [] => .operand
      | [_] => .unary
      | next :: _ => if binaryOps.contains next then .operand else .unary
    else if binaryOps.contains word then .binary
    else
      match word with
      | "-a" => .and_
      | "-o" => .or_
      | "!" => .not_
      | "(" => if rest.isEmpty then .operand else .opening
      | ")" => .closing
      | _ => .operand

/-- An answer, and the words from the last one on that was looked at. -/
abbrev Reading := Except String (Bool × List String)

mutual

def anyOf (s : Session) : Nat → Token → List String → Reading
  | 0, _, ws => .ok (false, ws)
  | fuel + 1, t, ws => do
    let (first, ws) ← allOf s fuel t ws
    if tokenAt (ws.drop 1) == .or_ then
      let (second, ws) ← anyOf s fuel (tokenAt (ws.drop 2)) (ws.drop 2)
      return (first || second, ws)
    return (first, ws)

def allOf (s : Session) : Nat → Token → List String → Reading
  | 0, _, ws => .ok (false, ws)
  | fuel + 1, t, ws => do
    let (first, ws) ← turned s fuel t ws
    if tokenAt (ws.drop 1) == .and_ then
      let (second, ws) ← allOf s fuel (tokenAt (ws.drop 2)) (ws.drop 2)
      return (first && second, ws)
    return (first, ws)

def turned (s : Session) : Nat → Token → List String → Reading
  | 0, _, ws => .ok (false, ws)
  | fuel + 1, t, ws => do
    if t != .not_ then primary s fuel t ws
    else
      let next := tokenAt (ws.drop 1)
      let (b, ws) ← turned s fuel next (if next == .finish then ws else ws.drop 1)
      return (!b, ws)

def primary (s : Session) : Nat → Token → List String → Reading
  | 0, _, ws => .ok (false, ws)
  | fuel + 1, t, ws => do
    match t, ws with
    | .finish, ws => return (false, ws)
    | _, [] => return (false, [])
    | .opening, _ :: rest =>
      if tokenAt rest == .closing then return (false, rest)
      let (b, ws) ← anyOf s fuel (tokenAt rest) rest
      if tokenAt (ws.drop 1) != .closing then throw "closing paren expected"
      return (b, ws.drop 1)
    | .unary, [op] => throw (op ++ ": argument expected")
    | .unary, op :: a :: rest => return (Condition.unary s op a, a :: rest)
    | _, a :: rest =>
      match tokenAt rest, rest with
      | .binary, [op] => throw (op ++ ": argument expected")
      | .binary, op :: b :: rest => return (← Condition.binary s a op b, b :: rest)
      | _, _ => return (!a.isEmpty, a :: rest)

end

def long (s : Session) (t : Token) (words : List String) : Answer := do
  match ← anyOf s (4 * words.length + 4) t words with
  | (_, next :: _ :: _) => throw (next ++ ": unexpected operator")
  | (b, _) => return b

/-- The answer to a condition of words. -/
def ofWords (s : Session) : List String → Answer
  | [] => .ok false
  | ["!", a, b, c] => (!·) <$> three s a b c
  | [a, b, c] => three s a b c
  | ["(", a, b, ")"] => long s (tokenAt [a, b]) [a, b]
  | words => long s (tokenAt words) words
where
  three (s : Session) (a b c : String) : Answer :=
    if binaryOps.contains b then long s .operand [a, b, c]
    else if a == "(" && c == ")" then long s (tokenAt [b]) [b]
    else if a == "!" then (!·) <$> long s (tokenAt [b, c]) [b, c]
    else long s (tokenAt [a, b, c]) [a, b, c]

end Toolwrap.Shell.Condition.Plain
