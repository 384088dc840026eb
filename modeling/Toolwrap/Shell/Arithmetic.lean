import Toolwrap.Shell.Escape
/-!
Arithmetic of the shell on integers of 64 bits, which wrap around. An expression is read from text
after all expansions; a name in it is a variable whose value is an expression in turn, and an empty
value is zero. An expression that cannot be read to its end keeps what was read: its value is computed up
to the place of the fault.
-/
namespace Toolwrap.Shell.Arithmetic

inductive Binary where
  | power | mul | div | mod | add | sub | shiftLeft | shiftRight
  | less | atMost | greater | atLeast | equal | differ
  | bitAnd | bitXor | bitOr | both | any | comma
deriving DecidableEq, Repr

inductive Unary where
  | minus | plus | not | complement
deriving DecidableEq, Repr

/-- What is wrong with an expression, and the token at which that shows with what follows it. -/
structure Fault where
  reason : String
  token : String
  /-- how many characters behind the token are not shown -/
  hidden : Nat := 0
deriving DecidableEq, Repr

/-- A variable, perhaps with the text between brackets behind it. -/
structure Target where
  name : String
  index : Option String := none
deriving DecidableEq, Repr

inductive Expr where
  | number (n : Int)
  | name (x : Target)
  | unary (op : Unary) (e : Expr)
  /-- an operation; if it has no value, `behind` is the token that is to blame -/
  | binary (op : Binary) (a b : Expr) (behind : String)
  | choice (c a b : Expr)
  /-- an assignment, perhaps with an operation on the old value -/
  | assign (x : Target) (op : Option Binary) (e : Expr) (behind : String)
  /-- a step of a variable, whose old value counts if the step comes afterwards -/
  | step (x : Target) (by_ : Int) (afterwards : Bool)
  | fault (f : Fault)
deriving Repr, Inhabited

inductive Token where
  | finish
  | number (n : Int)
  | name (x : Target)
  | mark (s : String)
  /-- an equals sign, perhaps behind an operation -/
  | assigning (op : Option Binary)
  /-- two signs in front of a name or behind one -/
  | step (by_ : Int) (afterwards : Bool)
deriving DecidableEq, Repr

def isNameStart (c : Char) : Bool := c.isAlpha || c == '_'

def isNameChar (c : Char) : Bool := c.isAlphanum || c == '_'

def isBlank (c : Char) : Bool := c == ' ' || c == '\t' || c == '\n'

/-- The value of a digit in a base; above 36, upper case letters are digits of their own. -/
def digitIn? (base : Nat) (c : Char) : Option Nat :=
  if c == '@' then some 62
  else if c == '_' then some 63
  else if 36 < base && 'A' ≤ c && c ≤ 'Z' then some (c.toNat - 65 + 36)
  else digitOf? c

/-- The number nearest to an integer that 64 bits hold, modulo their range. -/
def wrap (n : Int) : Int := n.bmod (Nat.pow 2 64)

def digitsIn (base : Nat) (ds : List Char) : Except String Int :=
  let add : Nat → Char → Except String Nat := fun n c =>
    match digitIn? base c with
    | some d => if d < base then .ok (base * n + d) else .error "value too great for base"
    | none => .error "invalid number"
  (ds.foldlM add 0).map fun n => wrap n

/-- A number: decimal, with a leading zero octal, with `0x` hexadecimal, or with its base in front. -/
def numberOf (s : List Char) : Except String Int :=
  match s with
  | ['0'] => .ok 0
  | ['0', 'x'] => .ok 0
  | ['0', 'X'] => .ok 0
  | '0' :: 'x' :: ds => if ds.contains '#' then .error "invalid number" else digitsIn 16 ds
  | '0' :: 'X' :: ds => if ds.contains '#' then .error "invalid number" else digitsIn 16 ds
  | '0' :: ds => if ds.contains '#' then .error "invalid number" else digitsIn 8 ds
  | _ =>
    let base := s.takeWhile (· != '#')
    match s.drop base.length with
    | '#' :: ds => do
      let b ← digitsIn 10 base
      if b < 2 || 64 < b then .error "invalid arithmetic base"
      else if ds.isEmpty || ds.head? == some '#' then .error "invalid integer constant"
      else if ds.contains '#' then .error "invalid number"
      else digitsIn b.toNat ds
    | _ => digitsIn 10 s

def numberOf? (s : List Char) : Option Int := (numberOf s).toOption

/-- Where an expression is read: what follows the current token, that token and the one before it, and
the text from the current token on. -/
structure Cursor where
  /-- whether the expression is one of the plain language, which has no steps, powers, commas and bases -/
  plain : Bool := false
  rest : List Char
  token : Token := .finish
  before : Token := .finish
  shown : List Char := []
  fault : Option Fault := none

abbrev Reader := StateM Cursor

/-- Stops reading; the first fault counts. -/
def stop (reason : String) (token : List Char) : Reader Expr := do
  let fault : Fault := (← get).fault.getD ⟨reason, String.ofList token, 0⟩
  modify fun c => { c with fault, rest := [], token := .finish }
  return .fault fault

/-- Stops at the current token. -/
def stopHere (reason : String) : Reader Expr := do stop reason (← get).shown

/-- The text between brackets, from behind the first one, and what follows it. -/
def bracketed? (depth : Nat) : List Char → Option (List Char × List Char)
  | [] => none
  | c :: rest =>
    if c == ']' && depth == 0 then some ([], rest)
    else
      let depth := if c == '[' then depth + 1 else if c == ']' then depth - 1 else depth
      (bracketed? depth rest).map fun (inner, after) => (c :: inner, after)

/-- Operators of two or three characters, longer ones first. -/
def longMarks : List (String × Token) :=
  [("<<=", .assigning (some .shiftLeft)), (">>=", .assigning (some .shiftRight)),
   ("==", .mark "=="), ("!=", .mark "!="), (">=", .mark ">="), ("<=", .mark "<="), ("<<", .mark "<<"),
   (">>", .mark ">>"), ("&&", .mark "&&"), ("||", .mark "||"), ("**", .mark "**")]

/-- Operations that an equals sign may follow. -/
def assignables : List (Char × Binary) :=
  [('*', .mul), ('/', .div), ('%', .mod), ('+', .add), ('-', .sub), ('&', .bitAnd), ('^', .bitXor),
   ('|', .bitOr)]

def shortMarks : List Char :=
  ['=', '>', '<', '+', '-', '*', '/', '%', '!', '(', ')', '&', '|', '^', '~', '?', ':', ',']

/-- A number at the front as the plain language reads it: what does not fit its base is left. -/
def plainNumber (s : List Char) : Int × List Char :=
  let taken := fun (base : Nat) (s : List Char) =>
    let digits := s.takeWhile fun c => (digitOf? c).any (· < base)
    ((numberIn base digits : Int), s.drop digits.length)
  match s with
  | '0' :: x :: d :: rest => if (x == 'x' || x == 'X') && isHex d then taken 16 (d :: rest) else taken 8 s
  | '0' :: _ => taken 8 s
  | _ => taken 10 s

/-- The same as `nextToken` in the plain language; what it does not know is a mark without a meaning. -/
def nextPlainToken : List Char → Token × List Char
  | [] => (.finish, [])
  | c :: rest =>
    if c.isDigit then
      let (n, after) := plainNumber (c :: rest)
      (.number (min n (Nat.pow 2 63 - 1)), after)
    else if isNameStart c then
      let text := (c :: rest).takeWhile isNameChar
      (.name ⟨String.ofList text, none⟩, (c :: rest).drop text.length)
    else
      match longMarks.find? fun m => m.1 != "**" && m.1.toList.isPrefixOf (c :: rest) with
      | some (text, mark) => (mark, (c :: rest).drop text.length)
      | none =>
        match rest.head? == some '=', assignables.lookup c with
        | true, some op => (.assigning (some op), rest.drop 1)
        | _, _ =>
          if c == '=' then (.assigning none, rest)
          else (.mark (if c == ',' then "unknown" else String.singleton c), rest)

/-- What the token at the front is, and what follows it; what a pair of signs means depends on the token
before it. -/
def nextToken (token before : Token) (s : List Char) : Except Fault (Token × List Char) :=
  match s with
  | [] => .ok (.finish, [])
  | c :: rest =>
    if c.isDigit then
      let text := s.takeWhile fun c => c.isAlphanum || c ∈ ['#', '@', '_']
      match numberOf text with
      | .ok n => .ok (.number n, s.drop text.length)
      | .error reason => .error ⟨reason, String.ofList text, s.length - text.length⟩
    else if isNameStart c then
      let text := s.takeWhile isNameChar
      let after := s.drop text.length
      match after with
      | '[' :: inner =>
        match bracketed? 0 inner with
        | some (index, after) => .ok (.name ⟨String.ofList text, some (String.ofList index)⟩, after)
        | none => .error ⟨"bad array subscript", String.ofList s, 0⟩
      | _ => .ok (.name ⟨String.ofList text, none⟩, after)
    else
      match longMarks.find? fun m => m.1.toList.isPrefixOf s with
      | some (text, mark) => .ok (mark, s.drop text.length)
      | none =>
        let by_ : Int := if c == '-' then -1 else 1
        if (c == '+' || c == '-') && rest.head? == some c then
          match token, before with
          | .name _, _ => .ok (.step by_ true, rest.drop 1)
          | .number _, .step _ false =>
            .error ⟨String.ofList [c, c] ++ ": assignment requires lvalue", String.ofList s, 0⟩
          | _, _ =>
            if ((rest.drop 1).dropWhile isBlank).head?.any isNameStart then .ok (.step by_ false, rest.drop 1)
            else .ok (.mark (String.singleton c), rest)
        else
          match rest.head? == some '=', assignables.lookup c with
          | true, some op => .ok (.assigning (some op), rest.drop 1)
          | _, _ =>
            if c == '=' then .ok (.assigning none, rest)
            else if shortMarks.contains c then .ok (.mark (String.singleton c), rest)
            else
              let isOperand := match token with
                | .number _ => true
                | .name _ => true
                | _ => false
              .error ⟨if isOperand then "syntax error: invalid arithmetic operator"
                else "syntax error: operand expected", String.ofList s, 0⟩

/-- Goes on to the next token. -/
def advance : Reader Unit := do
  let c ← get
  if c.fault.isSome then return
  let s := c.rest.dropWhile isBlank
  match if c.plain then .ok (nextPlainToken s) else nextToken c.token c.before s with
  | .ok (.finish, _) => set { c with rest := [], before := c.token, token := .finish }
  | .ok (token, rest) => set { c with rest, before := c.token, token, shown := s }
  | .error fault => set { c with fault := some fault, rest := [], token := .finish }

/-- The binary operators by how tightly they bind, the loosest first. -/
def levels : List (List (String × Binary)) :=
  [[("||", .any)], [("&&", .both)], [("|", .bitOr)], [("^", .bitXor)], [("&", .bitAnd)],
   [("==", .equal), ("!=", .differ)],
   [("<=", .atMost), (">=", .atLeast), ("<", .less), (">", .greater)],
   [("<<", .shiftLeft), (">>", .shiftRight)], [("+", .add), ("-", .sub)],
   [("*", .mul), ("/", .div), ("%", .mod)]]

/-- Marks that what was read last is no name by itself. -/
def settle : Reader Unit := modify fun c => { c with before := .number 0 }

mutual

/-- Expressions set apart by commas. -/
def listed : Nat → Reader Expr
  | 0 => stopHere "expression recursion level exceeded"
  | fuel + 1 => do
    let first ← assigned fuel
    commas fuel first

def commas : Nat → Expr → Reader Expr
  | 0, _ => stopHere "expression recursion level exceeded"
  | fuel + 1, left => do
    if (← get).token == .mark "," then
      advance
      let right ← assigned fuel
      commas fuel (.binary .comma left right "")
    else return left

def assigned : Nat → Reader Expr
  | 0 => stopHere "expression recursion level exceeded"
  | fuel + 1 => do
    let e ← chosen fuel
    let c ← get
    match c.token, e, c.before with
    | .assigning op, .name x, .name _ =>
      advance
      let value ← assigned fuel
      return .assign x op value (String.ofList (← get).shown)
    | .assigning _, _, _ =>
      stopHere (if c.plain then "syntax error in expression" else "attempted assignment to non-variable")
    | _, _, _ => return e

def chosen : Nat → Reader Expr
  | 0 => stopHere "expression recursion level exceeded"
  | fuel + 1 => do
    let c ← level fuel levels
    if (← get).token != .mark "?" then return c
    advance
    let token := (← get).token
    if token == .finish || token == .mark ":" then return .choice c (← stopHere "expression expected") c
    let a ← listed fuel
    if (← get).token != .mark ":" then
      let f ← stopHere "\x60:' expected for conditional expression"
      return .choice c (.binary .comma a f "") f
    advance
    if (← get).token == .finish then return .choice c a (← stopHere "expression expected")
    let b ← chosen fuel
    settle
    return .choice c a b

/-- Operands joined by the operators of a level, grouped from the left. -/
def level : Nat → List (List (String × Binary)) → Reader Expr
  | 0, _ => stopHere "expression recursion level exceeded"
  | fuel + 1, [] => raised fuel
  | fuel + 1, ops :: tighter => do
    let first ← level fuel tighter
    joined fuel ops tighter first

def joined : Nat → List (String × Binary) → List (List (String × Binary)) → Expr → Reader Expr
  | 0, _, _, _ => stopHere "expression recursion level exceeded"
  | fuel + 1, ops, tighter, left => do
    match (← get).token with
    | .mark m =>
      match ops.lookup m with
      | some op =>
        let behind := String.ofList ((← get).rest.dropWhile isBlank)
        advance
        let right ← level fuel tighter
        settle
        joined fuel ops tighter (.binary op left right behind)
      | none => return left
    | _ => return left

/-- Powers, grouped from the right. -/
def raised : Nat → Reader Expr
  | 0 => stopHere "expression recursion level exceeded"
  | fuel + 1 => do
    let base ← signed fuel
    if (← get).token != .mark "**" then return base
    advance
    let e ← raised fuel
    settle
    return .binary .power base e (String.ofList (← get).shown)

def signed : Nat → Reader Expr
  | 0 => stopHere "expression recursion level exceeded"
  | fuel + 1 => do
    let op? : Option Unary :=
      match (← get).token with
      | .mark "!" => some .not
      | .mark "~" => some .complement
      | .mark "-" => some .minus
      | .mark "+" => some .plus
      | _ => none
    match op? with
    | some op =>
      advance
      let e ← signed fuel
      settle
      return .unary op e
    | none => operand fuel

def operand : Nat → Reader Expr
  | 0 => stopHere "expression recursion level exceeded"
  | fuel + 1 => do
    match (← get).token with
    | .number n =>
      advance
      return .number n
    | .step by_ false =>
      advance
      match (← get).token with
      | .name x =>
        -- what follows sees a number here, so that no other step and no assignment can follow
        modify fun c => { c with token := .number 0 }
        advance
        return .step x by_ false
      | _ => stopHere "identifier expected after pre-increment or pre-decrement"
    | .name x =>
      advance
      match (← get).token with
      | .step by_ true =>
        modify fun c => { c with token := .number 0 }
        advance
        return .step x by_ true
      | _ => return .name x
    | .mark "(" =>
      advance
      let e ← listed fuel
      if (← get).token != .mark ")" then return .binary .comma e (← stopHere "missing \x60)'") ""
      advance
      return e
    | _ => stopHere "syntax error: operand expected"

end

/-- An expression that was read, and what is wrong with it. -/
structure Reading where
  expr : Expr
  fault : Option Fault

/-- Reads an expression; an empty one is zero, if not in the plain language. -/
def read (plain : Bool) (s : String) : Reading :=
  let chars := s.toList
  if !plain && chars.all isBlank then ⟨.number 0, none⟩
  else
    let whole : Reader Expr := do
      advance
      let e ← listed (30 * chars.length + 60)
      if (← get).token != .finish && (← get).fault.isNone then
        return .binary .comma e (← stopHere "syntax error in expression") ""
      return e
    let (e, c) := whole.run { plain, rest := chars, shown := chars }
    ⟨e, c.fault⟩

def truth (b : Bool) : Int := if b then 1 else 0

/-- A power that wraps around, by squaring; the first argument bounds the bits of the exponent. -/
def power : Nat → Int → Nat → Int
  | 0, _, _ => 1
  | bits + 1, a, n =>
    let half := power bits (wrap (a * a)) (n / 2)
    if n % 2 == 0 then half else wrap (a * half)

/-- The value of an operation, or why it has none. -/
def Binary.value (op : Binary) (a b : Int) : Except String Int :=
  match op with
  | power => if b < 0 then .error "exponent less than 0" else .ok (Arithmetic.power 64 a b.toNat)
  | mul => .ok (wrap (a * b))
  | div => if b == 0 then .error "division by 0" else .ok (wrap (a.tdiv b))
  | mod => if b == 0 then .error "division by 0" else .ok (wrap (a.tmod b))
  | add => .ok (wrap (a + b))
  | sub => .ok (wrap (a - b))
  | shiftLeft => .ok (wrap (a * (Nat.pow 2 (b.emod 64).toNat : Nat)))
  | shiftRight => .ok (a.fdiv (Nat.pow 2 (b.emod 64).toNat : Nat))
  | less => .ok (truth (a < b))
  | atMost => .ok (truth (a ≤ b))
  | greater => .ok (truth (b < a))
  | atLeast => .ok (truth (b ≤ a))
  | equal => .ok (truth (a == b))
  | differ => .ok (truth (a != b))
  | bitAnd => .ok (Int64.ofInt a &&& Int64.ofInt b).toInt
  | bitXor => .ok (Int64.ofInt a ^^^ Int64.ofInt b).toInt
  | bitOr => .ok (Int64.ofInt a ||| Int64.ofInt b).toInt
  | both => .ok (truth (a != 0 && b != 0))
  | any => .ok (truth (a != 0 || b != 0))
  | comma => .ok b

def Unary.value (op : Unary) (a : Int) : Int :=
  match op with
  | minus => wrap (-a)
  | plus => a
  | not => truth (a == 0)
  | complement => -a - 1

end Toolwrap.Shell.Arithmetic
