import Toolwrap.Fault
/-!
References to container images. A reference is cut at its last colon, if no slash follows it, into
a path and a tag; the first part of a path of several parts is a registry if it looks like one.
-/
namespace Toolwrap

/-- An image by its parts. Parts that come from a description are kept as they were given, and one
that is not given does not show in the text. -/
structure Image where
  name : Value
  tag : String := "latest"
  registry : Value := .null
  organization : Value := .null
deriving Repr

namespace Image

def looksLikeRegistry (part : List Char) : Bool :=
  '.' ∈ part || ':' ∈ part || part == "localhost".toList

/-- The text before the last of a character and the text after it, if it occurs. -/
def cutAtLast (c : Char) (s : List Char) : Option (List Char × List Char) :=
  let after := (s.reverse.takeWhile (· != c)).reverse
  if c ∈ s then some (s.take (s.length - after.length - 1), after) else none

/-- The path of a reference and its tag. -/
def cutTag (ref : List Char) : List Char × List Char :=
  match cutAtLast ':' ref with
  | some (path, tag) => if '/' ∈ tag then (ref, "latest".toList) else (path, tag)
  | none => (ref, "latest".toList)

/-- The parts of a path, with the registry apart. -/
def cutRegistry (parts : List (List Char)) : Option (List Char) × List (List Char) :=
  match parts with
  | first :: second :: rest =>
    if looksLikeRegistry first then (some first, second :: rest) else (none, parts)
  | _ => (none, parts)

def ofChars (ref : List Char) : Option Image :=
  if ref.isEmpty || ref.any Text.isBlank then none
  else
    let (path, tag) := cutTag ref
    if path.isEmpty || tag.isEmpty then none
    else
      let (registry, parts) := cutRegistry (Text.Chars.splitAt '/' path)
      let organization := ['/'].intercalate parts.dropLast
      some {
        name := .text (String.ofList (parts.getLastD []))
        tag := String.ofList tag
        registry := registry.elim .null fun r => .text (String.ofList r)
        organization :=
          if organization.isEmpty then .null else .text (String.ofList organization) }

def parse (ref : String) : Checked Image :=
  let stripped := Text.strip ref
  match ofChars stripped.toList with
  | some image => .ok image
  | none => refuse (.imageReference stripped)

/-- Reads a reference out of a description, where what is not given counts as empty. -/
def ofValue (ref : Value) : Checked Image :=
  if ref.isGiven then ref.needText >>= parse else parse ""

/-- What an image is named after when it is built for a component. -/
structure Naming where
  name : Value
  /-- the namespace of the component -/
  group : Value := .null
  version : Value := .null
  registry : Value := .null
  organization : Value := .null
  image : Value := .null
  tag : Value := .null

/-- The first value that is given, or the last one. -/
def firstGiven (values : List Value) (last : Value) : Value :=
  (values.find? Value.isGiven).getD last

/-- The image of a component: its own name, or its namespace and name, unless a target is named. -/
def ofNaming (naming : Naming) : Image where
  name :=
    if naming.image.isGiven then naming.image
    else if naming.group.isGiven then
      .text (naming.group.display ++ "/" ++ naming.name.display)
    else naming.name
  tag := (firstGiven [naming.tag, naming.version] (.text "latest")).display
  registry := naming.registry
  organization := naming.organization

/-- The given parts joined by slashes, a colon, and the tag. -/
def text (image : Image) : Checked String := do
  let given := [image.registry, image.organization, image.name].filter Value.isGiven
  let parts ← given.mapM Value.needText
  return "/".intercalate parts ++ ":" ++ image.tag

end Image

end Toolwrap
