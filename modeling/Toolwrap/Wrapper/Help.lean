import Toolwrap.Wrapper.Phrases
/-!
The head of a wrapper: what it is, where it may write, and the metadata of its component.
-/
namespace Toolwrap.Wrapper

open Shell

/-- The name of a component, followed by its version if it has one. -/
def title (name : String) (version : Value) : String :=
  if version.isGiven then name ++ " " ++ version.display else name

def header (title generatorVersion : String) : String :=
  Text.unlines [
    "#!/usr/bin/env bash",
    "",
    "# " ++ title,
    "#",
    "# This wrapper script is auto-generated by bashwrap " ++ generatorVersion ++ ".",
    "# Rebuild it from the component description instead of editing it.",
    "",
    "set -e"]

/-- The variables that may name a temporary directory, the first one that does being taken. -/
def tempVariables : List String := ["BW_TMPDIR", "BW_TEMPDIR", "TMPDIR", "TMP", "TEMP"]

/-- `BW_TEMP=${BW_TEMP:-…}` -/
def tempFallback (word : Word) : Command :=
  assign "BW_TEMP" [.param "BW_TEMP" [] (.default .use true word)]

def tempDir : Script :=
  [.comment "temporary directory",
   when (bracket [bare "-z", quotedRef "BW_TEMP"])
     (tempVariables.map (fun x => tempFallback [ref x]) ++ [tempFallback (bare "/tmp")])]

/-- The metadata; the defaults of the two meta flags come from the component. -/
def metadata (name processes memory : String) : Script :=
  [.comment "component metadata",
   assign "BW_META_FUNCTIONALITY_NAME" (quotedWord name),
   assign "BW_META_RESOURCES_DIR"
     [outputOf [bare "bw_source_dir", [.double [.param "BASH_SOURCE" [.text "0"] .braced]]]],
   assignQuoted "BW_META_EXECUTABLE"
     [ref "BW_META_RESOURCES_DIR", .text "/", ref "BW_META_FUNCTIONALITY_NAME"],
   assignQuoted "BW_META_TEMP_DIR" [ref "BW_TEMP"],
   assign "BW_META_N_PROC" (quotedWord processes),
   assign "BW_META_MEMORY" (quotedWord memory)]

/-!
The help text, printed from a here-document with a quoted mark, so that nothing in it is expanded.
-/

/-- The lines of a free text, without the blanks around it. -/
def descriptionLines (v : Value) : Checked (List String) :=
  if v.isGiven then (fun s => Text.lines (Text.strip s)) <$> v.needText else .ok []

/-- The lines of a row of bytes, without the blanks around it. -/
def byteLines (content : List Nat) : List (List Nat) :=
  let isBlank := fun (b : Nat) => b == 0x20 || (0x09 ≤ b && b ≤ 0x0D)
  let inner := ((content.dropWhile isBlank).reverse.dropWhile isBlank).reverse
  if inner.isEmpty then []
  else
    (Text.Chars.splitAt '\n' (Text.Chars.readLineEnds (inner.map Char.ofNat))).map
      (·.map Char.toNat)

/-- The lines of the description of an argument; each line of a row of bytes is shown quoted. -/
def entryLines : Value → Checked (List String)
  | .scalar (.bytes content) => .ok ((byteLines content).map Text.quotedBytes)
  | v => descriptionLines v

/-- The lines of the description of a component, which can be a row of blank bytes but no other. -/
def aboutLines : Value → Checked (List String)
  | .scalar (.bytes content) => if (byteLines content).isEmpty then .ok [] else .error .unsuited
  | v => descriptionLines v

/-- What the help says of one argument. -/
def helpEntry (a : Argument) : Checked (List String) := do
  let texts := a.body.texts
  let properties :=
    ["type: " ++ a.body.type] ++
    (if a.required then ["required parameter"] else []) ++
    (if a.multiple then
      ["multiple values allowed, separated by '" ++ a.separatorText ++ "'"] else []) ++
    (if a.body.isFile && a.isOutput then ["output"] else [])
  let listed := fun (label : String) (texts : List String) =>
    if texts.isEmpty then [] else ["        " ++ label ++ a.separatorText.intercalate texts]
  let bound := fun (label : String) (limit : Option String) =>
    (limit.map fun l => "        " ++ label ++ l).toList
  let description ← entryLines a.description
  return ["    " ++ ", ".intercalate a.spellings, "        " ++ ", ".intercalate properties] ++
    listed "example: " texts.examples ++
    (if a.isFlag then [] else listed "default: " texts.default) ++
    (if texts.choices.isEmpty then []
      else ["        choices: [ " ++ ", ".intercalate texts.choices ++ " ]"]) ++
    bound "min: " texts.min ++ bound "max: " texts.max ++
    description.map (fun line => Text.stripRight ("        " ++ line)) ++ [""]

def metaHelp : List String :=
  ["Meta flags:",
   "    ---n_proc=N",
   "        Number of processes the component may use.",
   "    ---memory=SIZE",
   "        Amount of memory the component may use, e.g. 512MB or 2GB."]

def helpText (title : String) (description : Value) (arguments : List Argument)
    (extra : List String) : Checked String := do
  let about ← if description.isGiven then (· ++ [""]) <$> aboutLines description else .ok []
  let entries ← arguments.mapM helpEntry
  let listing := if arguments.isEmpty then [] else "Arguments:" :: entries.flatten
  return Text.unlines ([title, ""] ++ about ++ listing ++ metaHelp ++ extra)

/-- A function that prints a text, closed by a mark that is no line of it. -/
def printingFunction (name text mark : String) : List String :=
  let delimiter := freeDelimiter text mark
  ["function " ++ name ++ " \x7b", "  cat << '" ++ delimiter ++ "'", text, delimiter, "\x7d"]

def help (title : String) (description : Value) (arguments : List Argument)
    (extra : List String) : Checked String := do
  let text ← helpText title description arguments extra
  return Text.unlines
    ("# bw_help: print the usage of this component" :: printingFunction "bw_help" text "BWHELP")

end Toolwrap.Wrapper
