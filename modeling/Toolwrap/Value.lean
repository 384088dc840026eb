import Toolwrap.Moment
import Toolwrap.Text.Quoted
/-!
Configuration values. A description is read as a tree of scalars and collections, and every place of
it decides for itself what it accepts. A mapping keeps its fields in the order in which they were
written. Two forms of text belong to a value: `display`, which shows a text as it is, and `quoted`,
which shows it between quotes; collections show their members quoted in both.
-/
namespace Toolwrap

inductive Scalar where
  | null
  | bool (b : Bool)
  | int (n : Int)
  | double (x : Double)
  | date (year month day : Nat)
  | moment (m : Moment)
  | bytes (content : List Nat)
  | text (s : String)
deriving DecidableEq, Repr, Inhabited

inductive Value where
  | scalar (s : Scalar)
  | list (items : List Value)
  | map (fields : List (Scalar × Value))
  | set (members : List Scalar)
  | pair (first second : Value)
  /-- a collection that this place is a part of: a mapping, or else a list -/
  | loop (mapping : Bool)
deriving Repr, Inhabited

namespace Value

@[match_pattern] abbrev null : Value := .scalar .null
@[match_pattern] abbrev bool (b : Bool) : Value := .scalar (.bool b)
@[match_pattern] abbrev int (n : Int) : Value := .scalar (.int n)
@[match_pattern] abbrev double (x : Double) : Value := .scalar (.double x)
@[match_pattern] abbrev text (s : String) : Value := .scalar (.text s)

end Value

namespace Scalar

/-- Doubles are written with the fewest digits that identify them, positionally from `10 ^ -4` up
to `10 ^ 16`, otherwise with a signed exponent of at least two digits. -/
def doubleLayout : Decimal.Layout where
  plainFrom := -4
  plainBelow := 16
  exponentWidth := 2
  infinity := "inf"
  notANumber := "nan"

def showDouble (x : Double) : String := doubleLayout.render x

def display : Scalar → String
  | null => "None"
  | bool true => "True"
  | bool false => "False"
  | int n => toString n
  | double x => showDouble x
  | date y m d => Moment.showDay y m d
  | moment m => m.display
  | bytes content => Text.quotedBytes content
  | text s => s

def quoted : Scalar → String
  | text s => Text.quoted s
  | date y m d => s!"datetime.date({y}, {m}, {d})"
  | moment m => m.quoted
  | s => s.display

/-- Whether the scalar counts as given: neither null, nor false, nor zero, nor empty. -/
def isGiven : Scalar → Bool
  | null => false
  | bool b => b
  | int n => n != 0
  | double x => !x.isZero
  | date _ _ _ => true
  | moment _ => true
  | bytes content => !content.isEmpty
  | text s => !s.isEmpty

/-- The number a scalar stands for when it is compared, truth values being one and zero. -/
def asInt? : Scalar → Option Int
  | bool b => some (if b then 1 else 0)
  | int n => some n
  | _ => none

/-- An integer as a value of unlimited size, to compare with doubles. -/
def exactInt (n : Int) : Double := .finite (n < 0) n.natAbs 0

def same (a b : Scalar) : Bool :=
  match a.asInt?, b.asInt?, a, b with
  | some m, some n, _, _ => m == n
  | some m, none, _, double y => (exactInt m).same y
  | none, some n, double x, _ => x.same (exactInt n)
  | _, _, double x, double y => x.same y
  | _, _, moment m, moment n => m.same n
  | _, _, a, b => a == b

end Scalar

namespace Value

mutual

def quoted : Value → String
  | .scalar s => s.quoted
  | .list items => "[" ++ ", ".intercalate (quotedItems items) ++ "]"
  | .map fields => "\x7b" ++ ", ".intercalate (quotedFields fields) ++ "\x7d"
  | .set [] => "set()"
  | .set members => "\x7b" ++ ", ".intercalate (members.map Scalar.quoted) ++ "\x7d"
  | .pair first second => "(" ++ first.quoted ++ ", " ++ second.quoted ++ ")"
  | .loop mapping => if mapping then "\x7b...\x7d" else "[...]"

def quotedItems : List Value → List String
  | [] => []
  | v :: rest => v.quoted :: quotedItems rest

def quotedFields : List (Scalar × Value) → List String
  | [] => []
  | (k, v) :: rest => (k.quoted ++ ": " ++ v.quoted) :: quotedFields rest

end

def display : Value → String
  | .scalar s => s.display
  | v => v.quoted

/-- Whether the value counts as given: neither null, nor false, nor zero, nor empty. -/
def isGiven : Value → Bool
  | .scalar s => s.isGiven
  | .list items => !items.isEmpty
  | .map fields => !fields.isEmpty
  | .set members => !members.isEmpty
  | .pair _ _ => true
  | .loop _ => true

mutual

/-- Equality of values: numbers by size, mappings and sets without regard to order. -/
def same : Value → Value → Bool
  | .scalar a, .scalar b => a.same b
  | .list as, .list bs => sameItems as bs
  | .map as, .map bs => as.length == bs.length && sameFields as bs
  | .set as, .set bs => as.length == bs.length && as.all fun a => bs.any a.same
  | .pair a₁ a₂, .pair b₁ b₂ => same a₁ b₁ && same a₂ b₂
  | _, _ => false

def sameItems : List Value → List Value → Bool
  | [], [] => true
  | a :: as, b :: bs => same a b && sameItems as bs
  | _, _ => false

def sameFields : List (Scalar × Value) → List (Scalar × Value) → Bool
  | [], _ => true
  | (k, v) :: rest, bs =>
    (match bs.find? fun f => k.same f.1 with
      | some f => same v f.2
      | none => false) && sameFields rest bs

end

/-- A value seen as a list: nothing, the members of a list, or the value alone. -/
def asList : Value → List Value
  | .null => []
  | .list items => items
  | v => [v]

end Value

/-- The fields of a mapping, in order. -/
abbrev Fields := List (Scalar × Value)

namespace Fields

def get? (fields : Fields) (key : String) : Option Value :=
  (fields.find? fun f => f.1 == .text key).map (·.2)

/-- The field, or null when it is absent. -/
def getD (fields : Fields) (key : String) : Value := (fields.get? key).getD .null

def erase (fields : Fields) (key : String) : Fields := fields.filter fun f => f.1 != .text key

def contains (fields : Fields) (key : String) : Bool := fields.any fun f => f.1 == .text key

/-- The keys outside a set of known ones. -/
def unknown (fields : Fields) (known : List String) : List Scalar :=
  (fields.map (·.1)).filter fun k =>
    match k with
    | .text s => s ∉ known
    | _ => true

end Fields

end Toolwrap
