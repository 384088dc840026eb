import Toolwrap.Shell.Pattern
import Toolwrap.Shell.Session
/-!
Cutting text into fields. Blanks among the separators only set fields apart; any other separator ends
a field, which may be empty. What was quoted is never cut, and makes a field even if it is empty.
-/
namespace Toolwrap.Shell

/-- A piece of an expanded word. -/
inductive Fragment where
  /-- quoted text -/
  | kept (s : List Char)
  /-- text of the program itself, without quotes -/
  | plain (s : List Char)
  /-- the result of an expansion without quotes, which is cut -/
  | loose (s : List Char)
  /-- the end of a field, and what stands for it in a text that is not cut -/
  | cut (joint : List Char)
deriving DecidableEq, Repr

/-- The separators. -/
structure Separators where
  chars : List Char
deriving DecidableEq, Repr

namespace Separators

def default : Separators := ⟨[' ', '\t', '\n']⟩

def isBlank (ifs : Separators) (c : Char) : Bool :=
  c ∈ ifs.chars && (c == ' ' || c == '\t' || c == '\n')

def isMark (ifs : Separators) (c : Char) : Bool :=
  c ∈ ifs.chars && !(c == ' ' || c == '\t' || c == '\n')

end Separators

/-- The state of cutting: the fields that are done, last one first, the one that is open, and whether
a blank has just ended one, so that a mark behind it ends no other. -/
structure Cutting where
  done : List (List Marked) := []
  current : Option (List Marked) := none
  afterBlank : Bool := false
deriving Repr

namespace Cutting

/-- Adds characters to the open field. -/
def add (t : Cutting) (s : List Marked) : Cutting :=
  { t with current := some (t.current.getD [] ++ s), afterBlank := false }

/-- Ends the open field, if there is one. -/
def close (t : Cutting) : Cutting :=
  match t.current with
  | some field => { t with done := field :: t.done, current := none, afterBlank := true }
  | none => t

/-- Ends the open field, which is empty if there is none. -/
def closeAny (t : Cutting) : Cutting :=
  { t with done := t.current.getD [] :: t.done, current := none, afterBlank := false }

def char (ifs : Separators) (t : Cutting) (c : Char) : Cutting :=
  if ifs.isBlank c then t.close
  else if ifs.isMark c then
    if t.afterBlank then { t with afterBlank := false } else t.closeAny
  else t.add [(c, false)]

def fragment (ifs : Separators) (t : Cutting) : Fragment → Cutting
  | .kept s => t.add (s.map (·, true))
  | .plain s => if s.isEmpty then t else t.add (s.map (·, false))
  | .loose s => s.foldl (char ifs) t
  | .cut _ => { t.close with afterBlank := false }

def fields (t : Cutting) : List (List Marked) := (t.done.reverse ++ t.current.toList)

end Cutting

/-- The fields of an expanded word. -/
def cutFields (ifs : Separators) (fragments : List Fragment) : List (List Marked) :=
  (fragments.foldl (Cutting.fragment ifs) {}).fields

/-- The fields of a line that is read, which holds no quotes. -/
def splitFields (ifs : Separators) (s : List Char) : List (List Char) :=
  (cutFields ifs [.loose s]).map fun field => field.map (·.1)

/-- The text of a word that is not cut. -/
def joinedText (fragments : List Fragment) : List Char :=
  fragments.flatMap fun
    | .kept s => s
    | .plain s => s
    | .loose s => s
    | .cut joint => joint

/-- The characters of a word that is a pattern. -/
def markedText (fragments : List Fragment) : List Marked :=
  fragments.flatMap fun
    | .kept s => s.map (·, true)
    | .plain s => s.map (·, false)
    | .loose s => s.map (·, false)
    | .cut joint => joint.map (·, true)

/-!
File name patterns. A field with a mark of a pattern that was not quoted stands for the paths that
fit, in order, and for itself if there are none.
-/

def isGlobMark (c : Marked) : Bool := !c.2 && (c.1 == '*' || c.1 == '?' || c.1 == '[')

/-- Whether a field is a pattern: it holds a mark, or, if groups count, a group. -/
def isGlob (groups : Bool) : List Marked → Bool
  | [] => false
  | c :: rest =>
    isGlobMark c ||
      (groups && !c.2 && (Pattern.groupKind? c.1).isSome && rest.head? == some ('(', false)) ||
      isGlob groups rest

def plainText (field : List Marked) : String := String.ofList (field.map (·.1))

/-- The pieces between slashes. -/
def pathPieces : List Marked → List (List Marked)
  | [] => [[]]
  | c :: rest =>
    match pathPieces rest with
    | [] => [[c]]
    | piece :: pieces => if c.1 == '/' then [] :: piece :: pieces else (c :: piece) :: pieces

namespace Session

/-- The patterns of paths that no pattern stands for. -/
def ignoredPaths (s : Session) : List String :=
  if s.isPlain then [] else (Text.splitAt ':' (s.valueD "GLOBIGNORE")).filter fun p => !p.isEmpty

/-- Whether names with a leading dot fit as others do. -/
def showsHidden (s : Session) : Bool := s.has .dotglob || !s.ignoredPaths.isEmpty

/-- Whether a path is one of those that no pattern stands for. Pieces between slashes fit one by one. -/
def isIgnored (s : Session) (path : String) : Bool :=
  let pieces := Text.splitAt '/' path
  s.ignoredPaths.any fun p =>
    let patterns := Text.splitAt '/' p
    patterns.length == pieces.length &&
      (patterns.zip pieces).all fun (pattern, piece) =>
        (Pattern.ofMarked true (pattern.toList.map fun c => (c, false))).fits false piece.toList

/-- The names in a directory that fit a piece; a leading dot has to be written, unless it is asked for. -/
def fittingNames (s : Session) (place : Place) (piece : List Marked) : List String :=
  let pattern := Pattern.ofMarked (s.has .extglob) piece
  let hidden := (piece.head?.map (·.1)) == some '.' || s.showsHidden
  (s.tree.children place).filter fun name =>
    pattern.fits (s.has .nocaseglob) name.toList && (hidden || !name.startsWith ".")

/-- Whether a piece stands for any number of directories. -/
def isDeep (s : Session) (piece : List Marked) : Bool :=
  s.has .globstar && piece == [('*', false), ('*', false)]

/-- A directory and all directories below it, each with the text that leads to it. -/
def directoriesBelow (s : Session) : Nat → String → Place → List (String × Place)
  | 0, before, place => [(before, place)]
  | fuel + 1, before, place =>
    (before, place) :: (s.tree.children place).flatMap fun name =>
      let next := place ++ [name]
      if (s.showsHidden || !name.startsWith ".") && s.tree.entryAt? next == some .directory then
        s.directoriesBelow fuel (before ++ name ++ "/") next
      else []

/-- How deep directories are looked through. -/
def maxDirectories : Nat := 100

/-- The paths that fit the pieces, each behind what leads to it. -/
def fittingPaths (s : Session) (before : String) (place : Place) : List (List Marked) → List String
  | [] => []
  | [piece] =>
    if s.isDeep piece then
      (s.directoriesBelow maxDirectories before place).flatMap fun (inner, place) =>
        -- only the directory that was written stands with its slash
        let itself := if inner == before then inner else String.ofList inner.toList.dropLast
        (if inner.isEmpty then [] else [itself]) ++
          ((s.fittingNames place piece).filter fun name =>
            s.tree.entryAt? (place ++ [name]) != some .directory).map (inner ++ ·)
    else if isGlob (s.has .extglob) piece then (s.fittingNames place piece).map (before ++ ·)
    else
      let name := plainText piece
      if name.isEmpty then [before]
      else if name == "." || name == ".." then [before ++ name]
      else if (s.tree.entryAt? (place ++ [name])).isSome then [before ++ name] else []
  | piece :: rest =>
    if s.isDeep piece then
      (s.directoriesBelow maxDirectories before place).flatMap fun (before, place) =>
        (s.fittingPaths before place rest).filter fun path => !path.isEmpty
    else
      let names := if isGlob (s.has .extglob) piece then s.fittingNames place piece else [plainText piece]
      names.flatMap fun name =>
        let next :=
          if name.isEmpty || name == "." then place
          else if name == ".." then place.dropLast
          else place ++ [name]
        if s.tree.entryAt? next == some .directory then s.fittingPaths (before ++ name ++ "/") next rest
        else []

/-- The paths that a field stands for, if it is a pattern. -/
def matches? (s : Session) (field : List Marked) : Option (List String) :=
  if s.has .noglob || !isGlob (s.has .extglob) field then none
  else
    let found :=
      match field with
      | ('/', _) :: rest => s.fittingPaths "/" [] (pathPieces rest)
      | _ => s.fittingPaths "" s.here (pathPieces field)
    some (Text.sorted (found.filter fun path => !s.isIgnored path))

end Session

end Toolwrap.Shell
