import Toolwrap.FileTree
import Toolwrap.Text.Blank
/-!
Settings of a repository: sections, each with keys and values. A setting is known by one name, made of
its section, a subsection if there is one, and its key, with points between them. Sections and keys are
in small letters, subsections are as they are written. A text with a line of any other form has no
settings at all.
-/
namespace Toolwrap.Origin

structure Setting where
  name : List Char
  /-- what stands behind the equals sign, if there is one -/
  value : Option (List Char)
deriving DecidableEq, Repr

namespace Setting

def isSpace (c : Char) : Bool := c == ' ' || c == '\t' || c == '\n' || c == '\r'

def isLetter (c : Char) : Bool := ('a' ≤ c && c ≤ 'z') || ('A' ≤ c && c ≤ 'Z')

def isKeyChar (c : Char) : Bool := isLetter c || ('0' ≤ c && c ≤ '9') || c == '-'

/-- What is behind the end of the line. -/
def nextLine (s : List Char) : List Char := (s.dropWhile (· != '\n')).drop 1

/-- The character that is meant by one behind a backslash. -/
def escaped? : Char → Option Char
  | 't' => some '\t'
  | 'b' => some (Char.ofNat 8)
  | 'n' => some '\n'
  | '\\' => some '\\'
  | '\x22' => some '\x22'
  | _ => none

/-- A value up to the end of its line, and what is behind it. Quotes are taken away, a comment ends the
value, and a backslash joins it with the next line. Blanks outside of quotes count as spaces, and not at
all at either end. -/
def valueFrom (quoted : Bool) (spaces : Nat) (acc : List Char) :
    List Char → Option (List Char × List Char)
  | [] => if quoted then none else some (acc, [])
  | '\n' :: rest => if quoted then none else some (acc, rest)
  | ['\\'] => if quoted then none else some (acc ++ List.replicate spaces ' ', [])
  | '\\' :: '\n' :: rest => valueFrom quoted 0 (acc ++ List.replicate spaces ' ') rest
  | '\\' :: c :: rest => do
    valueFrom quoted 0 (acc ++ List.replicate spaces ' ' ++ [← escaped? c]) rest
  | c :: rest =>
    if isSpace c && !quoted then valueFrom quoted (if acc.isEmpty then 0 else spaces + 1) acc rest
    else if !quoted && (c == ';' || c == '#') then some (acc, nextLine rest)
    else
      let acc := acc ++ List.replicate spaces ' '
      if c == '\x22' then valueFrom (!quoted) 0 acc rest else valueFrom quoted 0 (acc ++ [c]) rest

/-- A subsection between quotes, up to the bracket behind it. -/
def subsection : List Char → List Char → Option (List Char × List Char)
  | acc, '\x22' :: ']' :: rest => some (acc, rest)
  | acc, '\\' :: c :: rest => if c == '\n' then none else subsection (acc ++ [c]) rest
  | acc, c :: rest => if c == '\x22' || c == '\n' || rest.isEmpty then none else subsection (acc ++ [c]) rest
  | _, [] => none

/-- The section that a bracket opens, and what is behind it. -/
def sectionName (s : List Char) : Option (List Char × List Char) :=
  let base := (s.takeWhile fun c => isKeyChar c || c == '.').map Char.toLower
  match s.drop base.length with
  | ']' :: rest => some (base, rest)
  | c :: rest =>
    if isSpace c && c != '\n' then
      match rest.dropWhile fun c => isSpace c && c != '\n' with
      | '\x22' :: rest => (subsection [] rest).map fun (sub, rest) => (base ++ '.' :: sub, rest)
      | _ => none
    else none
  | [] => none

/-- A setting from its key on, in a section. -/
def ofKey (within : List Char) (s : List Char) : Option (Setting × List Char) :=
  let key := (s.takeWhile isKeyChar).map Char.toLower
  let name := if within.isEmpty then key else within ++ '.' :: key
  match (s.drop key.length).dropWhile fun c => c == ' ' || c == '\t' with
  | [] => some (⟨name, none⟩, [])
  | '\n' :: rest => some (⟨name, none⟩, rest)
  | '=' :: rest => (valueFrom false 0 [] rest).map fun (value, rest) => (⟨name, some value⟩, rest)
  | _ => none

/-- The settings of a text, in order. Every round consumes a character. -/
def allFrom : Nat → List Char → List Char → Option (List Setting)
  | 0, _, _ => none
  | _, _, [] => some []
  | fuel + 1, within, c :: rest =>
    if isSpace c then allFrom fuel within rest
    else if c == '#' || c == ';' then allFrom fuel within (nextLine rest)
    else if c == '[' then do
      let (name, rest) ← sectionName rest
      allFrom fuel name rest
    else if isLetter c then do
      let (setting, rest) ← ofKey within (c :: rest)
      return setting :: (← allFrom fuel within rest)
    else none

def all (text : String) : Option (List Setting) :=
  let s := Text.Chars.joinedLineEnds text.toList
  allFrom (s.length + 1) [] (if s.head?.map Char.toNat == some 0xFEFF then s.drop 1 else s)

/-- The subsection and the key of a setting in a section; the key is what follows the last point. -/
def within? (section_ : String) (s : Setting) : Option (Option (List Char) × String) :=
  let start := section_.toList ++ ['.']
  if !start.isPrefixOf s.name then none
  else
    let rest := s.name.drop start.length
    let key := (rest.reverse.takeWhile (· != '.')).reverse
    let sub := if key.length < rest.length then some (rest.take (rest.length - key.length - 1)) else none
    some (sub, String.ofList key)

example : (all "[Remote \"origin\"] URL = a \"b  c\" # d\n\tfetch\n").map (·.map fun s => (String.ofList s.name, s.value.map String.ofList)) =
    some [("remote.origin.url", some "a b  c"), ("remote.origin.fetch", none)] := by decide +kernel

example : all "[remote \"origin\"]\n\turl = \"a\n" = none := by decide +kernel

end Setting

/-!
Where a working tree comes from: the address of the remote `origin` of the nearest repository. A
repository is a directory with a head, objects and references, named `.git`, or named by a file `.git`,
or the place itself.
-/

/-- Whether a file names the head of a repository: a reference, or the digits of a commit. -/
def isHead (text : String) : Bool :=
  if text.startsWith "ref:" then
    ("refs/".toList).isPrefixOf ((text.toList.drop 4).dropWhile Setting.isSpace)
  else 40 ≤ text.length && (text.toList.take 40).all fun c =>
    ('0' ≤ c && c ≤ '9') || ('a' ≤ c && c ≤ 'f') || ('A' ≤ c && c ≤ 'F')

/-- Whether a directory is that of a repository. -/
def isRepository (t : FileTree) (place : Place) : Bool :=
  t.entryAt? (place ++ ["objects"]) == some .directory &&
    t.entryAt? (place ++ ["refs"]) == some .directory &&
    match t.entryAt? (place ++ ["HEAD"]) with
    | some (.file text _) => isHead text
    | _ => false

/-- The repository that a file names, from the directory of the file. -/
def namedRepository? (t : FileTree) (place : Place) (text : String) : Option Place :=
  let mark := "gitdir: "
  let target := ((text.toList.reverse.dropWhile fun c => c == '\n' || c == '\r').reverse).drop mark.length
  if text.startsWith mark && !target.isEmpty then
    let found := Path.settle place (Path.parse (String.ofList target))
    if isRepository t found then some found else none
  else none

/-- The nearest repository on the way up from a place. A file `.git` that names none ends the way. -/
def nearest? (t : FileTree) : List Place → Option Place
  | [] => none
  | place :: rest =>
    match t.entryAt? (place ++ [".git"]) with
    | some (.file text _) => namedRepository? t place text
    | _ =>
      if isRepository t (place ++ [".git"]) then some (place ++ [".git"])
      else if isRepository t place then some place
      else nearest? t rest

/-- The settings of a repository, if they can be read. -/
def settings? (t : FileTree) (repository : Place) : Option (List Setting) :=
  match t.entryAt? (repository ++ ["config"]) with
  | some (.file text _) => Setting.all text
  | _ => some []

/-- The whole number at the front of a text, without what follows it. -/
def version? (value : List Char) : Option Nat :=
  let digits := (value.dropWhile Setting.isSpace).takeWhile fun c => '0' ≤ c && c ≤ '9'
  if digits.isEmpty then none else some (digits.foldl (fun n c => 10 * n + (c.toNat - 48)) 0)

/-- Whether the repository has a form that is known; the last setting of it counts. -/
def isKnownForm (settings : List Setting) : Bool :=
  match settings.reverse.find? fun s => s.name == "core.repositoryformatversion".toList with
  | some s => (s.value.bind version?).any (· ≤ 1)
  | none => true

/-- The keys of remotes and of shorthands that need a value. -/
def needsValue (s : Setting) : Bool :=
  let keys := fun (section_ : String) (keys : List String) =>
    (s.within? section_).any fun w => w.1.isSome && w.2 ∈ keys
  keys "remote"
      ["url", "pushurl", "push", "fetch", "receivepack", "uploadpack", "tagopt", "proxy", "vcs"] ||
    keys "url" ["insteadof", "pushinsteadof"]

/-- The values of a key in a subsection of a section. -/
def valuesOf (settings : List Setting) (section_ : String) (sub : List Char) (key : String) :
    List (List Char) :=
  (settings.filter fun s => s.within? section_ == some (some sub, key)).filterMap (·.value)

/-- Shorthands: beginnings of addresses and what each of them stands for. -/
def shorthands (settings : List Setting) : List (List Char × List Char) :=
  settings.filterMap fun s =>
    match s.within? "url", s.value with
    | some (some base, "insteadof"), some start => some (start, base)
    | _, _ => none

/-- The address with its shorthand spelled out: the longest that it begins with, and of equally long
ones the first. -/
def expanded (rules : List (List Char × List Char)) (address : List Char) : List Char :=
  let fitting := rules.filter fun r => r.1.isPrefixOf address
  let best := fitting.foldl (fun (best : Option (List Char × List Char)) r =>
    match best with
    | some b => if b.1.length < r.1.length then some r else some b
    | none => some r) none
  match best with
  | some (start, base) => base ++ address.drop start.length
  | none => address

/-- The address of the remote, the first one if it has several. One without an address is its own. -/
def remote? (t : FileTree) (place : Place) : Option String := do
  let ways := (List.range (place.length + 1)).map fun n => place.take (place.length - n)
  let settings ← settings? t (← nearest? t ways)
  if !isKnownForm settings || settings.any fun s => needsValue s && s.value.isNone then none
  if !settings.any fun s => (s.within? "remote").any fun w => w.1 == some "origin".toList then none
  let addresses := valuesOf settings "remote" "origin".toList "url"
  let address := expanded (shorthands settings) (addresses.head?.getD "origin".toList)
  let address := Text.strip (String.ofList address)
  if address.isEmpty then none else some address

end Toolwrap.Origin
