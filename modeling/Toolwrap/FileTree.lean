import Toolwrap.Fault
import Toolwrap.Path
/-!
A tree of directories and text files. A place is the list of names on the way from the root, so two
paths lead to one file exactly when they lead to one place. The tree holds no links.
-/
namespace Toolwrap

abbrev Place := List String

inductive Entry where
  | directory
  | file (text : String) (executable : Bool)
deriving DecidableEq, Repr

/-- What stands at each place, the root being always a directory. -/
structure FileTree where
  entries : List (Place × Entry) := []
deriving Repr

namespace FileTree

def entryAt? (t : FileTree) (place : Place) : Option Entry :=
  if place.isEmpty then some .directory else t.entries.lookup place

def set (t : FileTree) (place : Place) (e : Entry) : FileTree :=
  ⟨(place, e) :: t.entries.filter fun f => f.1 != place⟩

/-- Removes what stands at a place and below it. -/
def erase (t : FileTree) (place : Place) : FileTree :=
  ⟨t.entries.filter fun f => !place.isPrefixOf f.1⟩

/-- The names in a directory, sorted. -/
def children (t : FileTree) (place : Place) : List String :=
  Text.sorted (t.entries.filterMap fun f =>
    if f.1.dropLast = place then f.1.getLast? else none)

/-- A directory at a place and at every place on the way. -/
def ensure (t : FileTree) (place : Place) : FileTree :=
  (List.range place.length).foldl (fun t n =>
    let above := place.take (n + 1)
    if (t.entryAt? above).isSome then t else t.set above .directory) t

/-- A file with the directories on the way to it, whatever stood there. -/
def plant (t : FileTree) (place : Place) (text : String) (executable : Bool) : FileTree :=
  (t.ensure place.dropLast).set place (.file text executable)

/-- The greatest number of bytes in a name. -/
def maxNameBytes : Nat := 255

/-- One step of a way through the tree; the place that it leads to need not exist. -/
def step (t : FileTree) (place : Place) (name : String) : Except FileFault Place :=
  match t.entryAt? place with
  | none => .error .missing
  | some (.file _ _) => .error .notDirectory
  | some .directory =>
    if name == ".." then .ok place.dropLast
    else if maxNameBytes < name.utf8ByteSize then .error .nameTooLong
    else .ok (place ++ [name])

/-- Whether a name holds the character that ends names, or what is no character. -/
def isBadName (name : String) : Bool := name.toList.contains '\x00' || Text.hasSurrogate name

/-- The place that a path leads to from a directory. -/
def walk (t : FileTree) (here : Place) (p : Path) : Except FileFault Place :=
  if p.parts.any isBadName then .error .badName
  else p.parts.foldlM t.step (if p.isAbsolute then [] else here)

def find (t : FileTree) (here : Place) (p : Path) : Except FileFault Entry := do
  match t.entryAt? (← t.walk here p) with
  | some e => .ok e
  | none => .error .missing

/-- Whether there is anything at a path; a way that breaks off leads to nothing. -/
def has (t : FileTree) (here : Place) (p : Path) : Except FileFault Bool :=
  match t.find here p with
  | .ok _ => .ok true
  | .error .missing => .ok false
  | .error .notDirectory => .ok false
  | .error .badName => .ok false
  | .error fault => .error fault

def isDirectory (t : FileTree) (here : Place) (p : Path) : Bool :=
  match t.find here p with
  | .ok .directory => true
  | _ => false

def isFile (t : FileTree) (here : Place) (p : Path) : Bool :=
  match t.find here p with
  | .ok (.file _ _) => true
  | _ => false

def read (t : FileTree) (here : Place) (p : Path) : Except FileFault String := do
  match ← t.find here p with
  | .file text _ => .ok text
  | .directory => .error .isDirectory

/-- Writes a file in a directory that exists. A file that is there keeps its mode. -/
def write (t : FileTree) (here : Place) (p : Path) (text : String) : Except FileFault FileTree := do
  let place ← t.walk here p
  match t.entryAt? place with
  | some .directory => .error .isDirectory
  | some (.file _ executable) => .ok (t.set place (.file text executable))
  | none =>
    match t.entryAt? place.dropLast with
    | some .directory => .ok (t.set place (.file text false))
    | some (.file _ _) => .error .notDirectory
    | none => .error .missing

/-- Lets a file be executed; a directory is left as it is. -/
def allowExecution (t : FileTree) (here : Place) (p : Path) : Except FileFault FileTree := do
  let place ← t.walk here p
  match t.entryAt? place with
  | some (.file text _) => .ok (t.set place (.file text true))
  | some .directory => .ok t
  | none => .error .missing

/-- Makes one directory; its parent has to exist and itself not. -/
def makeDirectory (t : FileTree) (here : Place) (p : Path) : Except FileFault FileTree := do
  let place ← t.walk here p
  match t.entryAt? place with
  | some _ => .error .alreadyExists
  | none => .ok (t.set place .directory)

/-- Makes a directory unless it is there. -/
def needDirectory (t : FileTree) (here : Place) (p : Path) : Except FileFault FileTree :=
  match t.makeDirectory here p with
  | .ok t => .ok t
  | .error fault => if t.isDirectory here p then .ok t else .error fault

/-- Makes a directory and those above it, each unless it is there; the parts of the path are given
last one first. -/
def needDirectories (t : FileTree) (here : Place) (anchor : Anchor) :
    List String → Except FileFault FileTree
  | [] => .ok t
  | part :: before => do
    let p : Path := ⟨anchor, (part :: before).reverse⟩
    match t.makeDirectory here p with
    | .ok t => .ok t
    | .error .missing => (← t.needDirectories here anchor before).needDirectory here p
    | .error fault => if t.isDirectory here p then .ok t else .error fault

/-- Makes the directory that a file is going to stand in. -/
def needParent (t : FileTree) (here : Place) (p : Path) : Except FileFault FileTree :=
  t.needDirectories here p.anchor p.parent.parts.reverse

end FileTree

end Toolwrap

/-!
Copies of files and of whole directories. A file that is copied to a directory goes into it. In a
directory, a file that cannot be copied does not keep the others from being copied, and all failures
are reported together.
-/
namespace Toolwrap.FileTree

/-- The text of a path with a name behind it, as failures spell it. -/
def below (directory name : String) : String :=
  if directory.isEmpty || directory.endsWith "/" then directory ++ name else directory ++ "/" ++ name

/-- Copies a file with its mode. The texts show both in a failure. -/
def copyFileAs (t : FileTree) (here : Place) (source target : Path)
    (shownSource shownTarget : String) : Except FileFault FileTree := do
  let inside := t.isDirectory here target
  let shownTarget :=
    if inside then Text.quoted (below (toString target) source.name) else shownTarget
  let target := if inside then target.child source.name else target
  let sourcePlace ← t.walk here source
  match t.entryAt? sourcePlace with
  | none => .error .missing
  | some .directory => .error .isDirectory
  | some (.file text executable) =>
    let targetPlace ← t.walk here target
    if targetPlace = sourcePlace then .error (.sameFile shownSource shownTarget)
    let t ← t.write here target text
    return t.set targetPlace (.file text executable)

/-- How a failure shows a path, and how it shows a member of a directory that is being copied. -/
def shownPath (p : Path) : String := "PosixPath(" ++ Text.quoted (toString p) ++ ")"

def shownMember (name : String) : String := "<DirEntry " ++ Text.quoted name ++ ">"

def copyFile (t : FileTree) (here : Place) (source target : Path) : Except FileFault FileTree :=
  t.copyFileAs here source target (shownPath source) (shownPath target)

/-- A failed copy: from, to, and why. -/
abbrev FailedCopy := String × String × String

/-- A fault as it is listed, with the path that it befell. -/
def listed (path : String) : FileFault → String
  | .sameFile source target => (FileFault.sameFile source target).message
  | fault => fault.detailed path

/-- The tree after copying, and what went wrong. A fault stands for a copy that did not begin. -/
abbrev Copied := FileTree × Except FileFault (List FailedCopy)

/-- Copies the members of a directory into another one, which is made unless it is there. The
members are listed before anything is copied. The texts are the names of both directories; the fuel
bounds how deep directories are nested. -/
def copyMembers (here : Place) : Nat → FileTree → Path → Path → String → String → Copied
  | 0, t, _, _, _, _ => (t, .ok [])
  | fuel + 1, t, source, target, sourceText, targetText =>
    match t.walk here source, t.needDirectory here target with
    | .error fault, _ => (t, .error fault)
    | _, .error fault => (t, .error fault)
    | .ok place, .ok ready =>
      let copyOne := fun (state : FileTree × List FailedCopy) (name : String) =>
        let (t, failed) := state
        let sourceText := below sourceText name
        let targetText := below targetText name
        let (t, outcome) :=
          if t.isDirectory here (source.child name) then
            copyMembers here fuel t (source.child name) (target.child name) sourceText targetText
          else
            match t.copyFileAs here (source.child name) (target.child name) (shownMember name)
                (Text.quoted targetText) with
            | .ok t => (t, .ok [])
            | .error fault => (t, .error fault)
        match outcome with
        | .ok more => (t, failed ++ more)
        | .error fault => (t, failed ++ [(sourceText, targetText, listed targetText fault)])
      let (t, failed) := (t.children place).foldl copyOne (ready, [])
      (t, .ok failed)

/-- Copies a directory, over one that is there; what could be copied stays. -/
def copyDirectory (t : FileTree) (here : Place) (source target : Path) :
    FileTree × Except FileFault Unit :=
  match copyMembers here (t.entries.length + 2) t source target (toString source)
      (toString target) with
  | (t, .ok []) => (t, .ok ())
  | (t, .ok failed) => (t, .error (.copies failed))
  | (t, .error fault) => (t, .error fault)

end Toolwrap.FileTree
