import Toolwrap.Shell.Printer
/-!
Phrases that generated programs are made of.
-/
namespace Toolwrap.Shell

/-- A text as parts between double quotes, where it stands for itself. -/
def literalParts (s : List Char) : List Part :=
  go [] s
where
  -- `run` holds the plain characters read so far, last one first
  go (run : List Char) : List Char → List Part
    | [] => flush run []
    | c :: rest =>
      if Escaping.inQuotes.isSpecial c then flush run (.escaped c :: go [] rest)
      else go (c :: run) rest
  flush (run : List Char) (after : List Part) : List Part :=
    if run.isEmpty then after else .text (String.ofList run.reverse) :: after

def literal (s : String) : List Part := literalParts s.toList

/-- A double-quoted word that stands for the text. -/
def quotedWord (s : String) : Word := [.double (literal s)]

def bare (s : String) : Word := [.text s]

/-- `$x` -/
def ref (x : String) : Part := .param x [] .plain

/-- `"$x"` -/
def quotedRef (x : String) : Word := [.double [ref x]]

/-- `${x+x}`, which is empty exactly when the variable is not set -/
def presence (x : String) : Part := .param x [] (.default .alternative false [.text "x"])

/-- `"${a[@]}"` -/
def quotedItems (a : String) : Word := [.double [.param a [.text "@"] .braced]]

def run (words : List Word) : Command := .simple [] words []

/-- A command of words without quotes. -/
def say (words : List String) : Command := run (words.map bare)

def assign (x : String) (word : Word) : Command := .simple [.value x [] false word] [] []

def assignQuoted (x : String) (parts : List Part) : Command := assign x [.double parts]

def assignItems (a : String) (words : List Word) : Command :=
  .simple [.array a false (words.map .plain)] [] []

def addItems (a : String) (words : List Word) : Command :=
  .simple [.array a true (words.map .plain)] [] []

/-- `[ … ]` -/
def bracket (words : List Word) : Command := run (bare "[" :: words ++ [bare "]"])

/-- `[ -n "${x+x}" ]` -/
def isSet (x : String) : Command := bracket [bare "-n", [.double [presence x]]]

/-- `[ -z "${x+x}" ]` -/
def isUnset (x : String) : Command := bracket [bare "-z", [.double [presence x]]]

/-- `[ -n "$x" ]` -/
def isNonempty (x : String) : Command := bracket [bare "-n", quotedRef x]

/-- `[[ $# -gt 0 ]]` -/
def hasArguments : Command := .test (.binary [ref "#"] "-gt" (bare "0"))

def shift (n : Nat) : Command := say ["shift", toString n]

def leave (code : String) : Command := say ["exit", code]

def when (condition : Command) (body : Script) : Command := .ifThen [condition] body []

def branch (patterns : List String) (body : Script) : Clause :=
  .branch (patterns.map bare) body .leave

/-- The output of a command as part of a word. -/
def outputOf (words : List Word) : Part := .output [run words]

end Toolwrap.Shell
