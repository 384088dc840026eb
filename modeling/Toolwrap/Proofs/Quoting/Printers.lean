import Toolwrap.Docker.Layers
import Toolwrap.Proofs.Quoting.Delimiters
import Toolwrap.Proofs.Quoting.Documents

-- Functions that print a text from a here-document, as they are read: the document is the whole
-- text, and the function is over behind its mark.

namespace Toolwrap.Quoting

open Shell

-- A function that prints a text, and the line of a program that defines it.
section Functions

variable {source after behind ended : Source} {text : List Char} {mark : String} {m n k fuel : Nat}
  {r : Reading}

end Functions

section Texts

variable {comment name text base : String}

end Texts

-- A here-document whose mark is quoted: the lines up to the first one that is the mark.
def documentAt (mark : List Char) (lines : List (List Char)) : List (List Char) × List (List Char) :=
  (lines.takeWhile (· ≠ mark), (lines.dropWhile (· ≠ mark)).tail)

-- A program that begins with a function that prints a text.
section Programs

variable {extended : Bool} {s name text base : String} {comment left : List Char}

end Programs

section Printing

open Running

variable {name text : String} {c : Command}

-- A session whose output goes into a text.
structure Printing (s : Session) (n : Nat) : Prop where
  quiet : Quiet s
  hosts : Hosts s "cat"
  led : s.channel 1 = .text n
  own : s.shared ≤ n
  inside : n < s.texts.length

-- A function is defined and called, and a text is what is printed.
def Prints (name text : String) (c : Command) : Prop :=
  ∀ s n, Printing s n → ∀ rounds depth, ∃ t,
    runScript (engine rounds (depth + 1)) [c, say [name]] s = .ok () t ∧
      t.textOf n = Session.joinTexts (s.textOf n) text

end Printing

-- A program that begins with a function around a here-document: the text that it holds, and the
-- lines behind its mark.
def Carries (program name text : String) (behind : List (List Char)) : Prop :=
  ∃ comment mark below,
    linesOf program.toList = ('#' :: comment) :: ("function " ++ name ++ " \x7b").toList ::
      ("  cat << '" ++ mark ++ "'").toList :: below ∧
    documentAt mark.toList below = (linesOf text.toList, behind)

section Carrying

variable {program name text base mark : String} {comment : List Char} {behind : List (List Char)}

end Carrying

section Verbatim

variable {s text : String}

end Verbatim

-- An image with a step in which the mark of its recipe stands on a line.
def stepped : Docker where
  id := .text "docker"
  image := "bash:5"
  requirements := [.docker [] [] ["cat << BWDOCKER\nBWDOCKER"] []]

end Toolwrap.Quoting
