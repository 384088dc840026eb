import Toolwrap.Shell.Arithmetic
import Toolwrap.Shell.Parameter
/-!
Values of arithmetic expressions in a running shell. The value of a variable is an expression again,
so variables may lead to variables; how deep is bounded. The second operand of a logical operation
and the branch of a choice that is not taken change nothing. Where there is no value, the current line is
given up with a message.
-/
namespace Toolwrap.Shell.Arithmetic

/-- What the plain shell says about a fault. -/
def plainReason (fault : Fault) (text : String) : String :=
  let reason :=
    match fault.reason with
    | "division by 0" => "division by zero"
    | "syntax error in expression" => "expecting EOF"
    | "missing \x60)'" => "expecting ')'"
    | "\x60:' expected for conditional expression" => "expecting ':'"
    | _ => "expecting primary"
  "arithmetic expression: " ++ reason ++ ": \"" ++ text ++ "\""

/-- Gives up because of a fault in a text; `lead` is the command that asked for the value. -/
def failWith {α : Type} (lead text : String) (fault : Fault) : Run α := do
  if (← get).isPlain then Run.discard (plainReason fault text)
  else
    let shown := (text.toList.take (text.length - fault.hidden)).dropWhile fun c => c == ' ' || c == '\t'
    Run.discard (lead ++ String.ofList shown ++ ": " ++ fault.reason ++ " (error token is \"" ++ fault.token ++ "\")")

/-- Where a value stands: in a variable, or in an item of an array. -/
inductive Spot where
  | whole (name : String)
  | item (name : String) (n : Nat)
  | entry (name : String) (key : String)
deriving DecidableEq, Repr

namespace Spot

def name : Spot → String
  | whole x => x
  | item x _ => x
  | entry x _ => x

def value? (s : Session) : Spot → Option String
  | whole x => s.special? x
  | item x n => (s.contentOf x).list.lookup n
  | entry x key =>
    match s.contentOf x with
    | .table xs => xs.lookup key
    | _ => none

def store (s : Session) (value : String) : Spot → Session
  | whole x => s.setText (s.resolved x) value
  | item x n => s.setItem (s.resolved x) n value
  | entry x key => s.setEntry (s.resolved x) key value

/-- The spot as it is written. -/
def text : Spot → String
  | whole x => x
  | item x n => x ++ "[" ++ toString n ++ "]"
  | entry x key => x ++ "[" ++ key ++ "]"

end Spot

/-- The key that is written between brackets, without quotes around it. -/
def unquotedKey (key : String) : String :=
  match key.toList with
  | q :: rest =>
    if (q == '\x22' || q == '\x27') && rest.getLast? == some q then String.ofList rest.dropLast else key
  | [] => key

/-- The spot of a variable, where `read` gives the value of an index. -/
def Target.spot (read : String → Run Int) (x : Target) : Run Spot := do
  match x.index with
  | none => return .whole x.name
  | some index =>
    let s ← get
    match s.contentOf x.name with
    | .table _ => return .entry x.name (unquotedKey index)
    | content =>
      let n ← read index
      match Session.indexIn? content.list n with
      | some n => return .item x.name n
      | none => Run.discard (x.name ++ "[" ++ index ++ "]: bad array subscript")

/-- Refuses to change what is to keep its value. -/
def needFree (x : String) : Run Unit := do
  let s ← get
  let x := s.resolved x
  if ((s.find? x).map (·.fixed)).getD (Session.fixedFacts.contains x && !s.isPlain) then
    if s.isPlain then Run.abort (x ++ ": is read only")
    Run.discard (x ++ ": readonly variable")

def store (spot : Spot) (n : Int) : Run Unit := do
  needFree spot.name
  modify fun s => spot.store s (toString n)

/-- The value of an expression, where `read` gives the value of what a variable holds, and `fail` gives up
because of a fault. -/
def Expr.value (read : String → Run Int) (fail : Fault → Run Int) : Expr → Run Int
  | .number n => pure n
  | .name x => do held (← x.spot read)
  | .unary op e => return op.value (← e.value read fail)
  | .binary .both a b _ => do
    if (← a.value read fail) == 0 then return 0
    return truth ((← b.value read fail) != 0)
  | .binary .any a b _ => do
    if (← a.value read fail) != 0 then return 1
    return truth ((← b.value read fail) != 0)
  | .binary op a b behind => do
    let left ← a.value read fail
    let right ← b.value read fail
    computed op left right behind
  | .choice c a b => do
    if (← c.value read fail) != 0 then a.value read fail else b.value read fail
  | .assign x none e _ => do
    let n ← e.value read fail
    store (← x.spot read) n
    return n
  | .assign x (some op) e behind => do
    let spot ← x.spot read
    let old ← held spot
    let n ← computed op old (← e.value read fail) behind
    store spot n
    return n
  | .step x by_ afterwards => do
    let spot ← x.spot read
    let old ← held spot
    let new := wrap (old + by_)
    store spot new
    return if afterwards then old else new
  | .fault f => fail f
where
  held (spot : Spot) : Run Int := do
    match spot.value? (← get) with
    | some text => read text
    | none =>
      if (← get).has .nounset then Run.abort (spot.text ++ ": unbound variable")
      return 0
  computed (op : Binary) (a b : Int) (behind : String) : Run Int :=
    match op.value a b with
    | .ok n => pure n
    | .error reason => fail ⟨reason, behind, 0⟩

/-- How deep variables may lead to variables. -/
def maxDepth : Nat := 1024

/-- The number that a variable holds, in the plain language. -/
def heldNumber (text : String) : Run Int := do
  let (negative, digits) := match text.toList.dropWhile isBlank with
    | '-' :: rest => (true, rest)
    | '+' :: rest => (false, rest)
    | rest => (false, rest)
  let (n, after) := plainNumber digits
  if (digits.head?.any Char.isDigit && after.all isBlank) || text.isEmpty then return if negative then -n else n
  Run.abort ("Illegal number: " ++ text)

def valueOfText (lead : String) : Nat → String → Run Int
  | 0, text => failWith lead text ⟨"expression recursion level exceeded", text, 0⟩
  | depth + 1, text => do
    let isPlain := (← get).isPlain
    let reading := read isPlain text
    let n ← reading.expr.value (if isPlain then heldNumber else valueOfText lead depth) (failWith lead text)
    match reading.fault with
    | some fault => failWith lead text fault
    | none => return n

/-- The value of an expression that is given as text. -/
def calculate (lead text : String) : Run Int := valueOfText lead maxDepth text

/-- The same where a fault is only a failure: none if there is no value. -/
def attempt (lead text : String) : Run (Option Int) := do
  try some <$> calculate lead text
  catch
    | .discarded => return none
    | stop => throw stop

end Toolwrap.Shell.Arithmetic
