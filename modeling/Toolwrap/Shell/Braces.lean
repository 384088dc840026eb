import Toolwrap.Shell.Command
/-!
Braces in a word, which stands for one word per item between commas, or per member of a range. Only
braces without quotes count, and braces without a comma or range stand for themselves.
-/
namespace Toolwrap.Shell

/-- A word as single characters without quotes and whole other parts. -/
inductive Atom where
  | char (c : Char)
  | part (p : Part)

namespace Atom

def ofWord (w : Word) : List Atom :=
  w.flatMap fun
    | .text s => s.toList.map .char
    | p => [.part p]

/-- The word again, characters in a row as one part. -/
def toWord (atoms : List Atom) : Word :=
  atoms.foldr (fun a w =>
    match a, w with
    | .char c, .text s :: rest => .text (String.ofList (c :: s.toList)) :: rest
    | .char c, w => .text (String.singleton c) :: w
    | .part p, w => p :: w) []

def isChar (c : Char) : Atom → Bool
  | .char d => c == d
  | .part _ => false

/-- The items up to the brace that closes, and what follows it. `depth` counts the braces that are
open inside, `item` holds the current item, last atom first. -/
def items (depth : Nat) (item : List Atom) : List Atom → Option (List (List Atom) × List Atom)
  | [] => none
  | a :: rest =>
    if a.isChar '\x7d' then
      match depth with
      | 0 => some ([item.reverse], rest)
      | depth + 1 => items depth (a :: item) rest
    else if a.isChar '\x7b' then items (depth + 1) (a :: item) rest
    else if a.isChar ',' && depth == 0 then
      (items 0 [] rest).map fun (more, after) => (item.reverse :: more, after)
    else items depth (a :: item) rest

/-- The characters of atoms that are nothing else. -/
def chars? (atoms : List Atom) : Option (List Char) :=
  atoms.mapM fun
    | .char c => some c
    | .part _ => none

/-- An integer, with a sign in front. -/
def integer? (s : List Char) : Option Int :=
  let (negative, ds) :=
    match s with
    | '-' :: ds => (true, ds)
    | '+' :: ds => (false, ds)
    | ds => (false, ds)
  if ds.isEmpty || !ds.all Char.isDigit then none
  else
    let n : Int := ds.foldl (fun n c => 10 * n + (c.toNat - 48)) 0
    some (if negative then -n else n)

/-- The numbers from one to another, in steps whose sign does not count. -/
def steps (x y step : Int) : List Int :=
  let by_ := if step == 0 then 1 else step.natAbs
  (List.range ((y - x).natAbs / by_ + 1)).map fun (n : Nat) => if x ≤ y then x + n * by_ else x - n * by_

/-- Whether a number has zeros in front, so that all of its range is as wide. -/
def isPadded (s : List Char) : Bool :=
  match s with
  | '0' :: _ :: _ => true
  | '-' :: '0' :: _ :: _ => true
  | _ => false

/-- A number with at least as many characters. -/
def padded (width : Nat) (n : Int) : List Char :=
  let sign := if n < 0 then ['-'] else []
  let digits := (toString n.natAbs).toList
  sign ++ List.replicate (width - sign.length - digits.length) '0' ++ digits

/-- The members of a range, up or down, of numbers or of letters. -/
def range? (item : List Atom) : Option (List (List Atom)) := do
  let s ← chars? item
  let (a, b, step) ← match (String.ofList s).splitOn ".." with
    | [a, b] => some (a.toList, b.toList, 1)
    | [a, b, c] => (integer? c.toList).map (a.toList, b.toList, ·)
    | _ => none
  match integer? a, integer? b with
  | some x, some y =>
    let width := if isPadded a || isPadded b then max a.length b.length else 0
    some ((steps x y step).map fun n => (padded width n).map .char)
  | _, _ =>
    match a, b with
    | [x], [y] =>
      if x.isAlpha && y.isAlpha then
        some ((steps x.toNat y.toNat step).map fun n => [.char (Char.ofNat n.toNat)])
      else none
    | _, _ => none

/-- What the braces at the front stand for, from behind the one that opens. -/
def choices? (atoms : List Atom) : Option (List (List Atom) × List Atom) := do
  match ← items 0 [] atoms with
  | ([item], rest) => return (← range? item, rest)
  | (items, rest) => return (items, rest)

/-- All words that the atoms stand for. The fuel bounds how many braces are opened. -/
def unfolded : Nat → List Atom → List (List Atom)
  | 0, atoms => [atoms]
  | _ + 1, [] => [[]]
  | fuel + 1, a :: rest =>
    match if a.isChar '\x7b' then choices? rest else none with
    | some (choices, after) => choices.flatMap fun choice => unfolded fuel (choice ++ after)
    | none => (unfolded fuel rest).map (a :: ·)

end Atom

/-- The words that a word with braces stands for. -/
def Word.unfolded (w : Word) : List Word :=
  let atoms := Atom.ofWord w
  if atoms.any (Atom.isChar '\x7b') then (Atom.unfolded (2 * atoms.length) atoms).map Atom.toWord
  else [w]

end Toolwrap.Shell
