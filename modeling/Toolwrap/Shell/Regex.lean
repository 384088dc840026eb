import Toolwrap.Shell.Pattern
/-!
Regular expressions and their matches. Of all ways to match, the leftmost ones count, of these the
longest, and of these the first in the order of the expression. How expressions are written is the
matter of `Toolwrap.Shell.Regex.Reader`.
-/
namespace Toolwrap.Shell

inductive Regex where
  | char (c : Char)
  | any
  | set (negated : Bool) (members : List Member)
  | start
  | finish
  | empty
  /-- a place where a word begins, or where one ends -/
  | edge (begins ends : Bool)
  /-- a place within a word, or outside of words -/
  | noEdge
  | seq (a b : Regex)
  | either (a b : Regex)
  /-- between `least` and `most` times, without a bound if `most` is missing -/
  | times (a : Regex) (least : Nat) (most : Option Nat)
  | group (n : Nat) (a : Regex)
  /-- the text of a group again -/
  | back (n : Nat)
deriving DecidableEq, Repr, Inhabited

/-- An expression that was read, and the number of its groups. -/
structure Expression where
  regex : Regex
  groups : Nat
deriving DecidableEq, Repr, Inhabited

namespace Regex

/-- What is left to match, the character before it, and where each group began and what it matched, counted
from the start. -/
structure Way where
  index : Nat
  before : Option Char
  rest : List Char
  groups : List (Nat × Nat × List Char) := []

namespace Way

/-- A way behind the next character. -/
def next (w : Way) (c : Char) (rest : List Char) : Way :=
  { w with index := w.index + 1, before := some c, rest }

/-- The ways that end at places of their own; of those that end at one place, the first. -/
def distinct (seen : List Nat) : List Way → List Way
  | [] => []
  | w :: rest => if seen.contains w.index then distinct seen rest else w :: distinct (w.index :: seen) rest

end Way

def isWordChar (c : Char) : Bool := inClass "word" c

/-- Whether a character fits in one of its cases, if cases do not count. -/
def fitsFolded (folds : Bool) (fits : Char → Bool) (c : Char) : Bool :=
  if folds then (casesOf c).any fits else fits c

/-- Passes one character. -/
def one (fits : Char → Bool) (w : Way) : List Way :=
  match w.rest with
  | c :: rest => if fits c then [w.next c rest] else []
  | [] => []

/-- Exactly so many repetitions. -/
def exactly (once : Way → List Way) : Nat → List Way → List Way
  | 0, ws => ws
  | n + 1, ws => exactly once n (Way.distinct [] (ws.flatMap once))

/-- Up to so many more repetitions, more of them first; a place that was reached is not reached again. -/
def upTo (once : Way → List Way) : Nat → List Nat → List Way → List Way
  | 0, _, ws => ws
  | n + 1, seen, ws =>
    let more := Way.distinct seen (ws.flatMap once)
    if more.isEmpty then ws else upTo once n (seen ++ more.map (·.index)) more ++ ws

/-- Passes a text again. -/
def again (folds : Bool) : List Char → Way → List Way
  | [], w => [w]
  | c :: cs, w =>
    match w.rest with
    | d :: rest =>
      if fitsFolded folds (fun e => e == c || (folds && (casesOf c).contains e)) d then again folds cs (w.next d rest)
      else []
    | [] => []

/-- All ways to match from one, in order; `folds` says whether a letter stands for both its cases. -/
def ways (folds : Bool) : Regex → Way → List Way
  | char c, w => one (fitsFolded folds (· == c)) w
  | any, w => one (fun _ => true) w
  | set negated members, w => one (fun d => fitsFolded folds (fun d => members.any (·.holds d)) d != negated) w
  | start, w => if w.index == 0 then [w] else []
  | finish, w => if w.rest.isEmpty then [w] else []
  | empty, w => [w]
  | edge begins ends, w =>
    let left := w.before.any isWordChar
    let right := w.rest.head?.any isWordChar
    if (begins && !left && right) || (ends && left && !right) then [w] else []
  | noEdge, w => if w.before.any isWordChar == w.rest.head?.any isWordChar then [w] else []
  | seq a b, w => Way.distinct [] ((ways folds a w).flatMap (ways folds b))
  | either a b, w => Way.distinct [] (ways folds a w ++ ways folds b w)
  | times a least most, w =>
    let first := exactly (ways folds a) least [w]
    let more := match most with
      | some m => m - least
      | none => w.rest.length + 1
    upTo (ways folds a) more (first.map (·.index)) first
  | group n a, w =>
    (ways folds a w).map fun v =>
      { v with groups := (n, w.index, w.rest.take (v.index - w.index)) :: v.groups.filter fun g => g.1 != n }
  | back n, w =>
    match w.groups.find? fun g => g.1 == n with
    | some (_, _, text) => again folds text w
    | none => []

/-- The first of the longest ways. -/
def longest : List Way → Option Way
  | [] => none
  | w :: rest =>
    match longest rest with
    | some v => if w.index < v.index then some v else some w
    | none => some w

/-- A match: where it begins, its text, what is left behind it, and its groups. -/
structure Match where
  start : Nat
  text : List Char
  before : Option Char
  rest : List Char
  groups : List (Nat × Nat × List Char)

/-- The first match in a text that begins at an index, behind a character. -/
def searchFrom (folds : Bool) (r : Regex) (index : Nat) (before : Option Char) : List Char → Option Match
  | [] => found [] (r.ways folds ⟨index, before, [], []⟩)
  | c :: s =>
    match found (c :: s) (r.ways folds ⟨index, before, c :: s, []⟩) with
    | some m => some m
    | none => searchFrom folds r (index + 1) (some c) s
where
  found (s : List Char) (ws : List Way) : Option Match :=
    (longest ws).map fun w => ⟨index, s.take (w.index - index), w.before, w.rest, w.groups⟩

def search (folds : Bool) (r : Regex) (s : List Char) : Option Match := searchFrom folds r 0 none s

/-- Whether there is a match that ends where the text ends and begins where it begins. -/
def fitsAll (folds : Bool) (r : Regex) (s : List Char) : Bool :=
  (r.ways folds ⟨0, none, s, []⟩).any fun w => w.rest.isEmpty

end Regex

namespace Regex.Match

/-- The text of a group, if it took part. -/
def group? (m : Match) (n : Nat) : Option (List Char) :=
  if n == 0 then some m.text else (m.groups.find? fun g => g.1 == n).map (·.2.2)

end Regex.Match

namespace Expression

/-- The matched text and those of the groups, empty for a group that took no part. -/
def matched? (folds : Bool) (e : Expression) (s : List Char) : Option (List (List Char)) :=
  (e.regex.search folds s).map fun m =>
    m.text :: (List.range e.groups).map fun n => (m.group? (n + 1)).getD []

end Expression

end Toolwrap.Shell
