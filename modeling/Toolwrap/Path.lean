import Toolwrap.Text.Blank
/-!
File paths as texts. Repeated slashes, single dots and a final slash mean nothing; two dots are
kept, since only the file tree can say where they lead. Exactly two leading slashes are an anchor of
their own.
-/
namespace Toolwrap

inductive Anchor where
  | here | root | doubleRoot
deriving DecidableEq, Repr

def Anchor.text : Anchor → String
  | here => "" | root => "/" | doubleRoot => "//"

structure Path where
  anchor : Anchor
  parts : List String
deriving DecidableEq, Repr

namespace Path

def current : Path := ⟨.here, []⟩

def anchorOf : List Char → Anchor
  | '/' :: '/' :: '/' :: _ => .root
  | '/' :: '/' :: _ => .doubleRoot
  | '/' :: _ => .root
  | _ => .here

def parse (s : String) : Path where
  anchor := anchorOf s.toList
  parts := (Text.splitAt '/' s).filter fun p => p != "" && p != "."

instance : ToString Path where
  toString p :=
    let text := p.anchor.text ++ "/".intercalate p.parts
    if text.isEmpty then "." else text

def isAbsolute (p : Path) : Bool := p.anchor != .here

/-- The path `q` seen from `p`. -/
def join (p q : Path) : Path := if q.isAbsolute then q else ⟨p.anchor, p.parts ++ q.parts⟩

def child (p : Path) (name : String) : Path := p.join (parse name)

/-- The last part, empty for a path without parts. -/
def name (p : Path) : String := p.parts.getLastD ""

def parent (p : Path) : Path := ⟨p.anchor, p.parts.dropLast⟩

/-- The place a path leads to from a directory, when no directory on the way is a link. -/
def settle (start : List String) (p : Path) : List String :=
  p.parts.foldl (fun place part => if part == ".." then place.dropLast else place ++ [part])
    (if p.isAbsolute then [] else start)

end Path

end Toolwrap
