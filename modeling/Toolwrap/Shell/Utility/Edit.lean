import Toolwrap.Shell.Edit.Cycle
import Toolwrap.Shell.Edit.Reader
import Toolwrap.Shell.Utility.Basic
/-!
A program that edits lines of texts as scripts say, and prints them or puts them back.
-/
namespace Toolwrap.Shell.Utility

/-- Where a script comes from. -/
inductive ScriptOrigin where
  /-- a word of the call, with its number -/
  | word (number : Nat)
  | file (name : String)

/-- The message of a fault after so many characters of a script. -/
def ScriptOrigin.message (origin : ScriptOrigin) (text : List Char) (fault : Edit.Fault) (index : Nat) : String :=
  match origin, fault with
  | _, .unknownLabel _ => fault.message
  | _, .expression .bareClass => fault.message
  | .word n, _ => "-e expression #" ++ toString n ++ ", char " ++ toString index ++ ": " ++ fault.message
  | .file name, _ =>
    let line := ((text.take index).filter (· == '\n')).length + 1
    "file " ++ name ++ " line " ++ toString line ++ ": " ++ fault.message

/-- Whether a text ends in a backslash that has no character behind it. -/
def endsOpen (text : String) : Bool :=
  (text.toList.reverse.takeWhile (· == '\\')).length % 2 == 1

/-- Scripts of the words of a call; one that ends in a backslash goes on in the next one. -/
def joinedScripts : Option (ScriptOrigin × String) → List (ScriptOrigin × String) → List (ScriptOrigin × String)
  | none, [] => []
  | some open_, [] => [open_]
  | none, (origin, text) :: rest =>
    if endsOpen text then joinedScripts (some (origin, text)) rest else (origin, text) :: joinedScripts none rest
  | some (origin, text), (_, more) :: rest =>
    let text := text ++ "\n" ++ more
    if endsOpen more then joinedScripts (some (origin, text)) rest else (origin, text) :: joinedScripts none rest

/-- The lines of texts with the names of their files; each text may have lines of its own. -/
def editedLines (stop : Char) (separate : Bool) (found : List (String × String)) : List Edit.Line :=
  let cut := found.map fun (name, text) => (name, closedLines stop text.toList)
  if separate then cut.flatMap fun (name, lines) => numbered 1 (lines.map fun l => (name, l))
  else numbered 1 (cut.flatMap fun (name, lines) => lines.map fun l => (name, l))
where
  numbered : Nat → List (String × List Char × Bool) → List Edit.Line
    | _, [] => []
    | n, (file, text, closed) :: rest =>
      { text, closed, number := n, isLast := rest.isEmpty, file } :: numbered (n + 1) rest

def editOptions : Options := {
  short := "bsnrzuEe:f:l:i::V:"
  long := [("expression", "e"), ("file", "f"), ("in-place", "i"), ("line-length", "l"), ("null-data", "z"),
    ("zero-terminated", "z"), ("quiet", "n"), ("silent", "n"), ("posix", "posix"), ("regexp-extended", "E"),
    ("sandbox", "sandbox"), ("separate", "s"), ("unbuffered", "u"), ("debug", "debug"),
    ("follow-symlinks", "follow-symlinks"), ("binary", "b")] }

/-- The name under which the old text of a file is kept. -/
def keptName (suffix path : String) : String :=
  let p := path.toList
  let base := (p.reverse.takeWhile (· != '/')).reverse
  let front := p.take (p.length - base.length)
  if suffix.toList.contains '*' then
    let named := suffix.toList.flatMap fun c => if c == '*' then base else [c]
    if named.contains '/' then String.ofList named else String.ofList (front ++ named)
  else path ++ suffix

/-- Edits texts by a script. -/
def edit : Utility := fun _ args => do
  match editOptions.read args with
  | .error _ => throw (.unsupported "sed")
  | .ok call =>
    if ["help", "version", "posix", "sandbox", "debug", "V"].any call.has then throw (.unsupported "sed")
    let mut scripts : List (ScriptOrigin × String) := []
    let mut words := 0
    for (key, value) in call.options do
      if key == "e" then
        words := words + 1
        scripts := scripts ++ [(.word words, value.getD "")]
      if key == "f" then
        let name := value.getD ""
        match ← textOf name with
        | .ok text =>
          let text := if text.endsWith "\n" then String.ofList text.toList.dropLast else text
          scripts := scripts ++ [(.file name, text)]
        | .error fault => return ← fail 1 ("couldn't open file " ++ name ++ ": " ++ fault.message)
    let mut paths := call.operands
    if scripts.isEmpty then
      match call.operands with
      | [] => throw (.unsupported "sed")
      | script :: rest =>
        scripts := [(.word 1, script)]
        paths := rest
    -- the script
    let mut reading : Edit.Reading := { rest := [], extended := call.has "E" || call.has "r" }
    let mut silent := call.has "n"
    let mut first := true
    for (origin, text) in joinedScripts none scripts do
      let cs := text.toList
      match (Edit.commands (cs.length + 1)).run { reading with rest := cs, index := 0, silent := false } with
      | .ok (_, r) =>
        if first && r.silent then silent := true
        first := false
        reading := r
      | .error (.uncovered, _) => throw (.unsupported "sed")
      | .error (fault, index) =>
        let code := match fault with | .expression .bareClass => 4 | _ => 1
        return ← fail code (origin.message cs fault index)
    if !reading.blocks.isEmpty then
      return ← fail 1 ((ScriptOrigin.word 1).message [] .unclosed 0)
    match Edit.lostLabel? reading.steps with
    | some name => return ← fail 4 ((ScriptOrigin.word 1).message [] (.unknownLabel name) 0)
    | none => pure ()
    -- the texts
    let inPlace := call.has "i"
    let separate := inPlace || call.has "s"
    let stop := if call.has "z" then '\x00' else '\n'
    let mut found := []
    let mut code := 0
    for path in (if paths.isEmpty then ["-"] else paths) do
      match ← textOf path with
      | .ok text => found := found ++ [(path, text)]
      | .error .isDirectory =>
        if !inPlace then
          return ← fail 4 ("read error on " ++ path ++ ": Is a directory")
        complain ("couldn't edit " ++ path ++ ": not a regular file")
        code := 4
      | .error fault =>
        complain ("can't read " ++ path ++ ": " ++ fault.message)
        if code == 0 then code := 2
    let s ← get
    let contents := fun (name : String) =>
      match s.entryAt? name with
      | some (.file text _) => some text
      | _ => none
    let S : Edit.Setting := {
      steps := reading.steps, silent, stop, inPlace, contents
      width := ((call.value? "l").bind String.toNat?).getD 70 }
    let written := reading.steps.toList.filterMap fun step =>
      match step.action with
      | .writeFile name _ => some name
      | .substitute { file := some name, .. } => some name
      | _ => none
    if written.contains "/dev/stderr" then throw (.unsupported "sed")
    for name in written do
      if name != "/dev/stdout" then
        match ← save name "" with
        | some fault => return ← fail 4 ("couldn't open file " ++ name ++ ": " ++ fault.message)
        | none => pure ()
    let lines := editedLines stop separate found
    let (ended, editor) ← match lines with
      | [] => pure (0, ({ line := default, rest := [] } : Edit.Editor))
      | line :: rest =>
        match (Edit.run S 2000000 0).run { pattern := line.text, line, rest } with
        | .ok (some n, editor) => pure (n, editor)
        | .ok (none, _) => throw (.unsupported "sed")
        | .error fault => return ← fail 1 ((ScriptOrigin.word 1).message [] fault 0)
    let shown := fun (file : String) => String.ofList (Text.mended (editor.printed file))
    out (shown "")
    for name in written do
      if name != "/dev/stdout" then
        let _ ← save name (shown name)
    if inPlace then
      -- files behind the one in which editing ended stay as they are
      let edited :=
        if editor.rest.isEmpty then found
        else found.takeWhile (·.1 != editor.line.file) ++ found.filter (·.1 == editor.line.file)
      for (path, text) in edited do
        match (call.value? "i") with
        | some suffix => let _ ← save (keptName suffix path) text
        | none => pure ()
        let _ ← save path (shown path)
    return if ended != 0 then ended else code

end Toolwrap.Shell.Utility
