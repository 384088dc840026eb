import Toolwrap.Argument.Basic
import Toolwrap.Quoting
import Toolwrap.Text.Blank
import Toolwrap.Workspace
/-!
Putting lines of code into a script. The comment lines with the two marks and all between them make
room for the code; a script without them gets it at the top, behind the line that names its
interpreter.
-/
namespace Toolwrap.Injection

def startMark : String := "BASHWRAP START"

def endMark : String := "BASHWRAP END"

def isComment (line : String) : Bool := (Text.Chars.stripLeft line.toList).head? == some '#'

def hasMark (mark line : String) : Bool := isComment line && Text.occursIn mark line

/-- Goes over lines that are numbered from `number` on. Once a block has started it goes on to the line that ends
it, whatever other starts there are on the way. -/
def blockFrom (start : Option Nat) (number : Nat) : List String → Option (Nat × Nat)
  | [] => none
  | line :: rest =>
    if hasMark startMark line && start.isNone then blockFrom (some number) (number + 1) rest
    else if hasMark endMark line && start.isSome then start.map fun first => (first, number)
    else blockFrom start (number + 1) rest

/-- The numbers of the lines with the marks, if there is a block. -/
def markedBlock? (lines : List String) : Option (Nat × Nat) := blockFrom none 0 lines

/-- Whether a line names the interpreter of a script. -/
def namesInterpreter (line : String) : Bool := "#!".toList.isPrefixOf line.toList

def inject (block lines : List String) : List String :=
  match markedBlock? lines with
  | some (first, last) => lines.take first ++ block ++ lines.drop (last + 1)
  | none =>
    match lines with
    | [] => block
    | line :: rest => if namesInterpreter line then line :: block ++ rest else block ++ lines

end Toolwrap.Injection

/-!
Code that reads the values of the arguments and the metadata out of the environment, for each
language of a script.
-/
namespace Toolwrap

/-- The languages in which a script can be given its values. -/
inductive Language where
  | bash | python | r
deriving DecidableEq, Repr

namespace Language

def name : Language → String
  | bash => "bash_script" | python => "python_script" | r => "r_script"

/-- The program that runs a script. -/
def executor : Language → String
  | bash => "bash" | python => "python" | r => "Rscript"

/-- The name under which a script sees a metadata variable. -/
def metaKey (envVar : String) : String :=
  String.ofList ((envVar.toList.drop "BW_META_".length).map Char.toLower)

def bashLine (a : Argument) : String :=
  "if [ -n \"$\x7b" ++ a.envName ++ "+x\x7d\" ]; then par_" ++ a.plainName ++ "=\"$" ++ a.envName ++
    "\"; fi"

def bashMetaLine (envVar : String) : String := "meta_" ++ metaKey envVar ++ "=\"$" ++ envVar ++ "\""

def pythonLine (a : Argument) : String :=
  let source := "os.environ['" ++ a.envName ++ "']"
  let value :=
    if a.multiple then
      "[" ++ a.body.pythonReader "v" ++ " for v in " ++ source ++ ".split(" ++
        Text.quoted a.separatorText ++ ")]"
    else a.body.pythonReader source
  "  '" ++ a.plainName ++ "': " ++ value ++ " if '" ++ a.envName ++ "' in os.environ else None,"

def pythonMetaLine (envVar : String) : String :=
  "  '" ++ metaKey envVar ++ "': os.environ.get('" ++ envVar ++ "'),"

def rEntry (a : Argument) : String :=
  let source := "Sys.getenv(\"" ++ a.envName ++ "\")"
  let value :=
    if a.multiple then
      a.body.rReader ("strsplit(" ++ source ++ ", split = " ++ Text.quoted a.separatorText ++
        ", fixed = TRUE)[[1]]")
    else a.body.rReader source
  "  \"" ++ a.plainName ++ "\" = if (is.na(Sys.getenv(\"" ++ a.envName ++
    "\", unset = NA))) NULL else " ++ value

def rMetaEntry (envVar : String) : String :=
  "  \"" ++ metaKey envVar ++ "\" = Sys.getenv(\"" ++ envVar ++ "\")"

/-- The entries of an R list, on a line each. -/
def rEntries (entries : List String) : List String :=
  if entries.isEmpty then [] else [",\n".intercalate entries]

/-- The lines that define the values and the metadata. -/
def parameterCode (language : Language) (arguments : List Argument) : List String :=
  match language with
  | bash => arguments.map bashLine ++ metaVariables.map bashMetaLine
  | python =>
    ["import os", "", "par = \x7b"] ++ arguments.map pythonLine ++ ["\x7d", "meta = \x7b"] ++
      metaVariables.map pythonMetaLine ++ ["\x7d"]
  | r =>
    ["par <- list("] ++ rEntries (arguments.map rEntry) ++ [")", "meta <- list("] ++
      rEntries (metaVariables.map rMetaEntry) ++ [")"]

/-- The code that is put into a script, with a line that says where it comes from. -/
def parameterBlock (language : Language) (arguments : List Argument) : List String :=
  "# The following code has been auto-generated by bashwrap." :: language.parameterCode arguments

end Language

/-!
Resources: the files that are shipped with a wrapper. A resource has its content inline or in a file,
and is placed under its `dest` or else under the name of that file. The first resource of a component
is its main one: a script, into which the values of the arguments are put, or an executable.
-/

/-- What a resource is used as. -/
inductive Resource.Kind where
  | file | script (language : Language) | executable
deriving DecidableEq, Repr

/-- A resource. What a description says of it is kept as it was given. -/
structure Resource where
  kind : Resource.Kind
  path : Value := .null
  text : Value := .null
  dest : Value := .null
  /-- the directory of the description -/
  base : Path
deriving Repr

/-- Whether a value is null. -/
def Value.isNull : Value → Bool
  | .null => true
  | _ => false

namespace Resource

def Kind.name : Kind → String
  | file => "file" | script language => language.name | executable => "executable"

def Kind.all : List Kind :=
  [.file, .script .bash, .script .python, .script .r, .executable]

/-- Whether the arguments are handed over as a command line. -/
def passArguments (r : Resource) : Bool := r.kind == .executable

/-- Whether the resource can be the main one. -/
def canRun (r : Resource) : Bool := r.kind != .file

def hasText (r : Resource) : Bool := !r.text.isNull

def ofMapping (given : Fields) (base : Path) (defaultKind : String) : Checked Resource := do
  let type := ((given.get? "type").getD (.text defaultKind)).display
  let fields : Fields := given.erase "type"
  match Kind.all.find? fun k => k.name == type with
  | none => refuse (.resourceTypeUnknown type (Kind.all.map Kind.name))
  | some kind =>
    fields.checkKnown ["path", "text", "dest"] .resourceFields
    let r : Resource := {
      kind, base, path := fields.getD "path", text := fields.getD "text",
      dest := fields.getD "dest" }
    if r.path.isNull && r.text.isNull then refuse (.resourceWithoutSource kind.name)
    if r.path.isNull && r.dest.isNull then refuse (.inlineWithoutDest kind.name)
    return r

/-- Reads a resource; a text alone is a path. -/
def ofValue (spec : Value) (base : Path) (defaultKind : String) : Checked Resource :=
  match spec with
  | .text path => ofMapping [(.text "path", .text path)] base defaultKind
  | .map given => ofMapping given base defaultKind
  | v => refuse (.resourceNotMapping v)

/-- The name under which the resource is placed. -/
def targetName (r : Resource) : Checked Value := do
  if r.dest.isGiven then return r.dest
  return .text (Path.parse (← r.path.needText)).name

/-- The file with the content, if there is one. -/
def source? (r : Resource) : Checked (Option Path) := do
  if r.path.isNull then return none
  return some (r.base.join (Path.parse (← r.path.needText)))

/-- The file with the content, where the content is not inline. -/
def source (r : Resource) : Checked Path := do
  match ← r.source? with
  | some p => return p
  | none => .error .unsuited

/-- Whether there is something at a path, in a place where a fault of the file is not reported. -/
def present (t : FileTree) (here : Place) (p : Path) : Checked Bool :=
  match t.has here p with
  | .ok b => .ok b
  | .error _ => .error .unsuited

/-- The content as it is read. -/
def content (r : Resource) (t : FileTree) (here : Place) : Checked Value := do
  if r.hasText then return r.text
  let p ← r.source
  match t.read here p with
  | .ok text => return .text (Text.readLineEnds text)
  | .error fault => .error (fault.during fun fault => .resource (.unreadable (toString p) fault))

/-- Whether an executable is a file of the component. Any other one is looked up when it is run. -/
def isLocal (r : Resource) (t : FileTree) (here : Place) : Checked Bool := do
  let source ← r.source?
  if r.hasText then return true
  match source with
  | some p => present t here p
  | none => return false

/-- A word for a file in the directory of the resources. -/
def placedWord (name : String) : String :=
  "\"$BW_META_RESOURCES_DIR/" ++ quotedBody name ++ "\""

/-- How the resource is started. -/
def command (r : Resource) (t : FileTree) (here : Place) : Checked String := do
  match r.kind with
  | .file => refuse (.notAMainScript r.kind.name)
  | .script language => return language.executor ++ " " ++ placedWord (← r.targetName).display
  | .executable =>
    let program ←
      if ← r.isLocal t here then (fun name => placedWord name.display) <$> r.targetName
      else pure (doubleQuoted r.path.display)
    return program ++ " \"$\x7bBW_EXECUTABLE_ARGS[@]\x7d\""

/-- The text of a script with the values of the arguments put into it. -/
def render (r : Resource) (language : Language) (arguments : List Argument) (t : FileTree)
    (here : Place) : Checked String := do
  let lines := Text.lines (← (← r.content t here).needText)
  return Text.unlines (Injection.inject (language.parameterBlock arguments) lines) ++ "\n"

/-- Where the resource is placed in a directory. -/
def target (r : Resource) (directory : Path) : Checked Path := do
  return directory.child (← (← r.targetName).needText)

/-- Writes the content, or copies the file or the directory with it. -/
def stageFile (r : Resource) (directory : Path) : Work Path := do
  let target ← r.target directory
  let cause := fun fault => Fault.resource (.unstaged (toString target) fault)
  Work.change cause fun t here => t.needParent here target
  if r.hasText then
    let text ← r.text.needText
    Work.write cause target text
  else
    let source ← r.source
    match ← Work.ask fun t here => t.has here source with
    | .error fault => throw (cause fault)
    | .ok false => throw (.resource (.absent (toString source)))
    | .ok true =>
      if ← Work.ask fun t here => t.isDirectory here source then
        let w ← get
        let (tree, outcome) := w.tree.copyDirectory w.here source target
        set { w with tree }
        match outcome with
        | .ok () => pure ()
        | .error fault => throw (fault.during cause)
      else Work.change cause fun t here => t.copyFile here source target
  return target

/-- Writes a text to a file that can be executed, with the directories that it needs. -/
def writeExecutable (cause : FileFault → Fault) (target : Path) (text : String) : Work Unit := do
  Work.change cause fun t here => t.needParent here target
  Work.write cause target text
  Work.change cause fun t here => t.allowExecution here target

def stageScript (r : Resource) (language : Language) (directory : Path)
    (arguments : List Argument) : Work Path := do
  let target ← r.target directory
  let w ← get
  let text ← r.render language arguments w.tree w.here
  writeExecutable (fun fault => .resource (.unstaged (toString target) fault)) target text
  return target

/-- Places the resource in a directory; an executable that is no file of the component is not
placed. -/
def stage (r : Resource) (directory : Path) (arguments : List Argument) : Work (Option Path) := do
  match r.kind with
  | .file => some <$> r.stageFile directory
  | .script language => some <$> r.stageScript language directory arguments
  | .executable =>
    let w ← get
    if ← r.isLocal w.tree w.here then
      let target ← r.stageFile directory
      Work.change (fun _ => .unsuited) fun t here => t.allowExecution here target
      return some target
    else return none

end Resource

end Toolwrap
