import Toolwrap.Shell.Regex.Reader
import Toolwrap.Shell.Utility.Basic
/-!
Expressions of which each word is an operand, an operator or a bracket. Operators that bind more tightly
come later in `reckoners`, and equal ones are taken from left to right. An operand that no result can
hang on is read, but not worked out.
-/
namespace Toolwrap.Shell.Utility

/-- A value of such an expression. -/
inductive Reckoned where
  | number (n : Int)
  | text (s : String)
deriving DecidableEq, Repr

/-- Why an expression has no value. -/
inductive ReckoningFault where
  | notInteger
  | divisionByZero
  | nothingAfter (word : String)
  | noClosingAfter (word : String)
  | noClosingBefore (word : String)
  | strayClosing
  | stray (word : String)
  | pattern (fault : Regex.Fault)

def ReckoningFault.message : ReckoningFault → String
  | notInteger => "non-integer argument"
  | divisionByZero => "division by zero"
  | nothingAfter word => "syntax error: missing argument after " ++ curved word
  | noClosingAfter word => "syntax error: expecting ')' after " ++ curved word
  | noClosingBefore word => "syntax error: expecting ')' instead of " ++ curved word
  | strayClosing => "syntax error: unexpected ')'"
  | stray word => "syntax error: unexpected argument " ++ curved word
  | pattern fault => fault.message

namespace Reckoned

def shown : Reckoned → String
  | number n => toString n
  | text s => s

/-- The integer that a text is. -/
def integer? (s : String) : Option Int :=
  let digits := if s.toList.head? == some '-' then s.toList.drop 1 else s.toList
  if digits.isEmpty || !digits.all Char.isDigit then none
  else
    let n : Int := numberIn 10 digits
    some (if s.toList.head? == some '-' then -n else n)

def toInteger : Reckoned → Except ReckoningFault Int
  | number n => .ok n
  | text s =>
    match integer? s with
    | some n => .ok n
    | none => .error .notInteger

/-- Whether a value counts as nothing: zero, or no text. -/
def isNull : Reckoned → Bool
  | number n => n == 0
  | text s =>
    let digits := if s.toList.head? == some '-' then s.toList.drop 1 else s.toList
    s.isEmpty || (!digits.isEmpty && digits.all (· == '0'))

/-- How two values stand to each other: as integers if both are, else as texts. -/
def order (a b : Reckoned) : Ordering :=
  match integer? a.shown, integer? b.shown with
  | some x, some y => Ord.compare x y
  | _, _ => if a.shown == b.shown then .eq else if a.shown < b.shown then .lt else .gt

/-- What a pattern matches at the front of a text: its first group, or else how many characters. -/
def matching (subject pattern : String) : Except ReckoningFault Reckoned := do
  let e ← (Regex.read { extended := false, strict := false } pattern.toList).mapError .pattern
  let ways := e.regex.ways false ⟨0, none, subject.toList, []⟩
  match Regex.longest ways with
  | some w =>
    if e.groups == 0 then return number w.index
    else return text (((w.groups.find? fun g => g.1 == 1).map fun g => String.ofList g.2.2).getD "")
  | none => return if e.groups == 0 then number 0 else text ""

/-- The characters from a place on, up to a number of them. -/
def part (subject : String) (start length : Reckoned) : Reckoned :=
  match start.toInteger, length.toInteger with
  | .ok i, .ok n =>
    if i ≤ 0 || n ≤ 0 then text "" else text (String.ofList ((subject.toList.drop (i.toNat - 1)).take n.toNat))
  | _, _ => text ""

/-- The place of the first character that is one of some. -/
def place (subject chars : String) : Reckoned :=
  let before := subject.toList.takeWhile fun c => !chars.toList.contains c
  number (if before.length == subject.length then 0 else before.length + 1)

/-- The value of an operator between two values. -/
def apply (operator : String) (a b : Reckoned) : Except ReckoningFault Reckoned :=
  let truth := fun (p : Bool) => Except.ok (number (if p then 1 else 0))
  let arithmetic := fun (f : Int → Int → Except ReckoningFault Int) => do
    let x ← a.toInteger
    let y ← b.toInteger
    return number (← f x y)
  match operator with
  | "|" => .ok (if !a.isNull then a else if b.isNull then number 0 else b)
  | "&" => .ok (if a.isNull || b.isNull then number 0 else a)
  | "<" => truth (order a b == .lt)
  | "<=" => truth (order a b != .gt)
  | "=" | "==" => truth (order a b == .eq)
  | "!=" => truth (order a b != .eq)
  | ">=" => truth (order a b != .lt)
  | ">" => truth (order a b == .gt)
  | "+" => arithmetic fun x y => .ok (x + y)
  | "-" => arithmetic fun x y => .ok (x - y)
  | "*" => arithmetic fun x y => .ok (x * y)
  | "/" => arithmetic fun x y => if y == 0 then .error .divisionByZero else .ok (x.tdiv y)
  | "%" => arithmetic fun x y => if y == 0 then .error .divisionByZero else .ok (x.tmod y)
  | _ => matching a.shown b.shown

end Reckoned

/-- Operators by how tightly they bind. -/
def reckoners : List (List String) :=
  [["|"], ["&"], ["<", "<=", "=", "==", "!=", ">=", ">"], ["+", "-"], ["*", "/", "%"], [":"]]

/-- Words that are left, and the last one that was read. -/
structure Unread where
  words : List String
  last : String := ""

abbrev Reckoning := StateT Unread (Except ReckoningFault)

namespace Reckoning

/-- The next word; there has to be one. -/
def next : Reckoning String := do
  let u ← get
  match u.words with
  | [] => throw (.nothingAfter u.last)
  | w :: rest =>
    set ({ words := rest, last := w } : Unread)
    return w

def peek? : Reckoning (Option String) := return (← get).words.head?

/-- The value of operands between operators of the given and all tighter levels; `counts` says whether the
value is needed. The fuel bounds the depth and the number of words. -/
def value : Nat → Bool → List (List String) → Reckoning Reckoned
  | 0, _, _ => return .number 0
  | fuel + 1, counts, operators :: tighter => do
    let first ← value fuel counts tighter
    more fuel counts operators tighter first
  | fuel + 1, counts, [] => do
    match ← peek? with
    | some "+" =>
      let _ ← next
      return .text (← next)
    | some "length" =>
      let _ ← next
      return .number (← value fuel counts []).shown.length
    | some "match" =>
      let _ ← next
      let subject ← value fuel counts []
      let pattern ← value fuel counts []
      if counts then Reckoned.matching subject.shown pattern.shown else return .number 0
    | some "index" =>
      let _ ← next
      let subject ← value fuel counts []
      return .place subject.shown (← value fuel counts []).shown
    | some "substr" =>
      let _ ← next
      let subject ← value fuel counts []
      let start ← value fuel counts []
      return .part subject.shown start (← value fuel counts [])
    | some "(" =>
      let _ ← next
      let inside ← value fuel counts reckoners
      match ← peek? with
      | none => throw (.noClosingAfter (← get).last)
      | some ")" =>
        let _ ← next
        return inside
      | some w => throw (.noClosingBefore w)
    | some ")" => throw .strayClosing
    | _ => return .text (← next)
where
  more : Nat → Bool → List String → List (List String) → Reckoned → Reckoning Reckoned
    | 0, _, _, _, a => return a
    | fuel + 1, counts, operators, tighter, a => do
      match ← peek? with
      | some w =>
        if !operators.contains w then return a
        let _ ← next
        let needed := counts && (w != "|" || a.isNull) && (w != "&" || !a.isNull)
        let b ← value fuel needed tighter
        let c ← if counts then Reckoned.apply w a b else pure a
        more fuel counts operators tighter c
      | none => return a

end Reckoning

/-- The value of the expression that words make up. -/
def reckon (words : List String) : Except ReckoningFault Reckoned := do
  let (found, left) ← (Reckoning.value (10 * words.length + 10) true reckoners).run { words }
  match left.words with
  | [] => return found
  | w :: _ => throw (.stray w)

example : (reckon ["1", "+", "2", "*", "3"]).toOption = some (.number 7) := by decide +kernel

/-- Prints the value of an expression; the code tells whether it counts as nothing. -/
def reckoning : Utility := fun _ args => do
  let words := if args.head? == some "--" then args.drop 1 else args
  match words with
  | [] => misused 2 "missing operand"
  | ["--help"] | ["--version"] => throw (.unsupported "expr")
  | words =>
    match reckon words with
    | .ok found =>
      outLines [found.shown]
      return if found.isNull then 1 else 0
    | .error fault => fail 2 fault.message

end Toolwrap.Shell.Utility
