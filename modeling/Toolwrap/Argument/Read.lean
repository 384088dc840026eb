import Toolwrap.Argument.Basic
/-!
Reading one argument out of a description. Names, separator, values and the rules between them are
checked in a fixed order, so that of two faults the same one is always reported.
-/
namespace Toolwrap

/-- Why a value could not be read. -/
inductive Unread where
  | mismatch (reason : Mismatch)
  /-- an integer beyond the range of doubles, which no rule refuses -/
  | beyondDouble
deriving Repr

/-- How values of one kind are read, shown and compared. -/
structure Carrier (α : Type) where
  read : Value → Except Unread α
  quoted : α → String
  same : α → α → Bool
  less : α → α → Bool

namespace Carrier

def string : Carrier String where
  read
    | .text s => .ok s
    | .bool b => .ok (truthText b)
    | .int n => .ok (toString n)
    | .double x => .ok (Scalar.showDouble x)
    | _ => .error (.mismatch .needsString)
  quoted := Text.quoted
  same a b := a == b
  less _ _ := false

def integer : Carrier Int where
  read
    | .int n => .ok n
    | _ => .error (.mismatch .needsInteger)
  quoted := toString
  same a b := a == b
  less a b := a < b

def double : Carrier Double where
  read
    | .int n => ((Double.ofInt? n).map Except.ok).getD (.error .beyondDouble)
    | .double x => if x.isFinite then .ok x else .error (.mismatch .notFinite)
    | _ => .error (.mismatch .needsNumber)
  quoted := Scalar.showDouble
  same := Double.same
  less := Double.less

/-- Truth values, or the words for them in any case. -/
def boolean : Carrier Bool where
  read
    | .bool b => .ok b
    | .text s =>
      if Text.lower s ∈ ["true", "yes"] then .ok true
      else if Text.lower s ∈ ["false", "no"] then .ok false
      else .error (.mismatch .needsBoolean)
    | _ => .error (.mismatch .needsBoolean)
  quoted b := if b then "True" else "False"
  same a b := a == b
  less _ _ := false

def file : Carrier String where
  read
    | .text s => .ok s
    | _ => .error (.mismatch .needsPath)
  quoted := Text.quoted
  same a b := a == b
  less _ _ := false

/-- Reads one value, naming the argument and what the value is for if it does not suit. -/
def readAs {α : Type} (c : Carrier α) (name : String) (role : Role) (v : Value) : Checked α :=
  match c.read v with
  | .ok x => .ok x
  | .error (.mismatch reason) => refuse (.badValue name role v reason)
  | .error .beyondDouble => .error .unsuited

def readAll {α : Type} (c : Carrier α) (name : String) (role : Role) (v : Value) :
    Checked (List α) :=
  v.asList.mapM (c.readAs name role)

/-- A bound, absent when it is null. -/
def readBound {α : Type} (c : Carrier α) (name : String) (role : Role) :
    Value → Checked (Option α)
  | .null => .ok none
  | v => some <$> c.readAs name role v

def quotedList {α : Type} (c : Carrier α) (xs : List α) : String :=
  "[" ++ ", ".intercalate (xs.map c.quoted) ++ "]"

/-- The bounds are in order and every default is a choice and lies between them. -/
def checkDefaults {α : Type} (c : Carrier α) (name : String) (v : Values α) : Checked Unit := do
  match v.min, v.max with
  | some low, some high =>
    if c.less high low then refuse (.boundsCrossed name (c.quoted low) (c.quoted high))
  | _, _ => pure ()
  for x in v.default do
    if !v.choices.isEmpty && !v.choices.any (c.same x) then
      refuse (.defaultNotChoice name (c.quoted x) (c.quotedList v.choices))
    match v.min with
    | some low => if c.less x low then refuse (.defaultBelowMin name (c.quoted x) (c.quoted low))
    | none => pure ()
    match v.max with
    | some high => if c.less high x then refuse (.defaultAboveMax name (c.quoted x) (c.quoted high))
    | none => pure ()

end Carrier

namespace Argument

def isNameChar (c : Char) : Bool :=
  ('a' ≤ c && c ≤ 'z') || ('A' ≤ c && c ≤ 'Z') || ('0' ≤ c && c ≤ '9') || c == '_'

/-- What follows the dashes of a spelling: a letter, digit or underscore, then these and dashes.
One line feed may end it. -/
def isStem : List Char → Bool
  | c :: rest =>
    isNameChar c &&
      (let body := if rest.getLast? = some '\n' then rest.dropLast else rest
       body.all fun d => isNameChar d || d == '-')
  | [] => false

def isSpelling : List Char → Bool
  | '-' :: '-' :: stem => isStem stem
  | '-' :: stem => isStem stem
  | stem => isStem stem

def checkSpelling (spelling : String) : Checked Unit :=
  if "---".toList.isPrefixOf spelling.toList then refuse (.metaSpelling spelling)
  else if isSpelling spelling.toList then .ok ()
  else refuse (.badSpelling spelling)

def checkNames (name : String) (alternatives : List String) : Checked Unit := do
  for spelling in name :: alternatives do checkSpelling spelling
  if !alternatives.isEmpty && Toolwrap.passing name == .positional then
    refuse (.positionalWithAlternatives name)
  for alternative in alternatives do
    if Toolwrap.passing alternative == .positional then
      refuse (.positionalAlternative name alternative)

def readDirection (shownName : String) : Option Value → Checked Direction
  | none => .ok .input
  | some v =>
    match Text.lower v.display with
    | "input" => .ok .input
    | "output" => .ok .output
    | _ => refuse (.direction shownName v)

def readSeparator (name : String) : Option Value → Checked Char
  | none => .ok ':'
  | some (.text s) =>
    match s.toList with
    | [c] => .ok c
    | _ => refuse (.separator name (.text s))
  | some v => refuse (.separator name v)

/-- The kinds of arguments, by the names they have in descriptions. -/
inductive Kind where
  | string | integer | double | boolean | flag (stored : Bool) | file
deriving DecidableEq, Repr

def Kind.name : Kind → String
  | string => "string" | integer => "integer" | double => "double" | boolean => "boolean"
  | flag true => "boolean_true" | flag false => "boolean_false" | file => "file"

def Kind.all : List Kind := [boolean, flag false, flag true, double, file, integer, string]

def commonFields : List String :=
  ["name", "alternatives", "description", "example", "default", "required", "direction",
   "multiple", "multiple_sep"]

def Kind.fields : Kind → List String
  | string => commonFields ++ ["choice_values"]
  | integer => commonFields ++ ["min_value", "max_value", "choice_values"]
  | double => commonFields ++ ["min_value", "max_value", "choice_values"]
  | boolean => commonFields
  | flag _ => commonFields
  | file => commonFields ++ ["must_exist", "create_parent"]

/-- The short spelling of a field stands for the long one. -/
def canonicalField : String → String
  | "choices" => "choice_values"
  | "min" => "min_value"
  | "max" => "max_value"
  | key => key

/-- The value of a field under either spelling; of two, the last one. -/
def field? (fields : Fields) (key : String) : Option Value :=
  (fields.reverse.find? fun f =>
    match f.1 with
    | .text k => canonicalField k == key
    | _ => false).map (·.2)

def fieldD (fields : Fields) (key : String) : Value := (field? fields key).getD .null

/-- A field that is switched on by any value that counts as given. -/
def switch (fields : Fields) (key : String) (absent : Bool) : Bool :=
  match field? fields key with
  | some v => v.isGiven
  | none => absent

/-- Defaults and examples, and the rules between them and the other fields. -/
def readGiven {α : Type} (c : Carrier α) (name : String) (fields : Fields)
    (required multiple : Bool) : Checked (Values α) := do
  let default ← c.readAll name .default (fieldD fields "default")
  let examples ← c.readAll name .sample (fieldD fields "example")
  if required && !default.isEmpty then refuse (.requiredWithDefault name)
  if 1 < default.length && !multiple then refuse (.manyDefaults name)
  return { default, examples }

def readChoices {α : Type} (c : Carrier α) (name : String) (fields : Fields) (v : Values α) :
    Checked (Values α) := do
  let choices ← c.readAll name .choice (fieldD fields "choice_values")
  return { v with choices }

def readBounds {α : Type} (c : Carrier α) (name : String) (fields : Fields) (v : Values α) :
    Checked (Values α) := do
  let min ← c.readBound name .min (fieldD fields "min_value")
  let max ← c.readBound name .max (fieldD fields "max_value")
  return { v with min, max }

/-- The known values of a kind with choices and bounds. -/
def readRange {α : Type} (c : Carrier α) (name : String) (fields : Fields)
    (required multiple : Bool) : Checked (Values α) := do
  let given ← readGiven c name fields required multiple
  let choices ← readChoices c name fields given
  let range ← readBounds c name fields choices
  c.checkDefaults name range
  return range

/-- A flag takes no value, so it is neither positional nor multiple nor required; its default is
the value that it does not store. -/
def readFlag (stored : Bool) (name : String) (fields : Fields) (required multiple : Bool) :
    Checked Body := do
  let values ← readGiven Carrier.boolean name fields required multiple
  let type := (Kind.flag stored).name
  if Toolwrap.passing name == .positional then refuse (.flagPositional name type)
  if multiple then refuse (.flagMultiple name type)
  if required then refuse (.flagRequired name type)
  let default := if values.default.isEmpty then [!stored] else values.default
  return .flag stored { values with default }

def readBody (kind : Kind) (name : String) (fields : Fields) (required multiple : Bool) :
    Checked Body :=
  match kind with
  | .string => do
    let given ← readGiven Carrier.string name fields required multiple
    let values ← readChoices Carrier.string name fields given
    Carrier.string.checkDefaults name values
    return .string values
  | .integer => .integer <$> readRange Carrier.integer name fields required multiple
  | .double => .double <$> readRange Carrier.double name fields required multiple
  | .boolean => .boolean <$> readGiven Carrier.boolean name fields required multiple
  | .flag stored => readFlag stored name fields required multiple
  | .file => do
    let values ← readGiven Carrier.file name fields required multiple
    return .file values (switch fields "must_exist" false) (switch fields "create_parent" true)

def checkFields (kind : Kind) (shownName type : String) (fields : Fields) : Checked Unit := do
  for (key, _) in fields do
    let known :=
      match key with
      | .text k => canonicalField k ∈ kind.fields
      | _ => false
    if !known then refuse (.argumentField shownName key.display type)

/-- Reads an argument of a known kind out of its fields. -/
def ofFields (kind : Kind) (fields : Fields) : Checked Argument := do
  let shownName := (fieldD fields "name").display
  let alternatives := (fieldD fields "alternatives").asList.map Value.display
  let direction ← readDirection shownName (field? fields "direction")
  let name ← (fieldD fields "name").needText
  checkNames name alternatives
  let separator ← readSeparator name (field? fields "multiple_sep")
  let required := switch fields "required" false
  let multiple := switch fields "multiple" false
  let body ← readBody kind name fields required multiple
  return {
    name, alternatives, direction, separator, required, multiple, body
    description := fieldD fields "description" }

def ofMapping (given : Fields) : Checked Argument := do
  let type := ((given.get? "type").getD (.text "string")).display
  let fields : Fields := given.erase "type"
  match Kind.all.find? fun k => k.name == Text.lower type with
  | none => refuse (.argumentTypeUnknown (Text.lower type) (Kind.all.map Kind.name))
  | some kind =>
    if !fields.contains "name" then refuse (.argumentUnnamed type)
    checkFields kind (fields.getD "name").display type fields
    ofFields kind fields

/-- Reads an argument; without a type it is a string. -/
def ofValue : Value → Checked Argument
  | .map given => ofMapping given
  | v => refuse (.argumentNotMapping v)

end Argument

/-!
Rules between arguments: no spelling is used twice or is one of the wrapper's own, no two arguments
share a variable, and only the last positional argument may take several values.
-/

/-- The spellings that the wrapper handles itself. -/
def reservedSpellings : List String := ["-h", "--help", "--version"]

/-- What earlier arguments have taken: spellings and variables, each with the argument's name. -/
structure Taken where
  spellings : List (String × String) := []
  envNames : List (String × String) := []

namespace Taken

def takeSpelling (owner : String) (taken : Taken) (spelling : String) : Checked Taken :=
  if spelling ∈ reservedSpellings then refuse (.reservedSpelling owner spelling)
  else
    match taken.spellings.lookup spelling with
    | some other => refuse (.spellingTaken owner spelling other)
    | none => .ok { taken with spellings := (spelling, owner) :: taken.spellings }

def takeVariable (owner envName : String) (taken : Taken) : Checked Taken :=
  if envName ∈ metaVariables then refuse (.reservedVariable owner envName)
  else
    match taken.envNames.lookup envName with
    | some other => refuse (.variableTaken other owner envName)
    | none => .ok { taken with envNames := (envName, owner) :: taken.envNames }

def take (taken : Taken) (a : Argument) : Checked Taken := do
  let taken ← a.spellings.foldlM (takeSpelling a.name) taken
  takeVariable a.name a.envName taken

end Taken

/-- Every positional argument but the last takes one value. -/
def checkPositionals : List Argument → Checked Unit
  | [] => .ok ()
  | [_] => .ok ()
  | a :: rest => if a.multiple then refuse (.multipleNotLast a.name) else checkPositionals rest

def checkArguments (arguments : List Argument) : Checked Unit := do
  let _ ← arguments.foldlM Taken.take {}
  checkPositionals (arguments.filter Argument.isPositional)

/-- The members of a value that is iterated: a list's items, a mapping's keys, a text's characters, the
numbers of bytes. -/
def Value.members : Value → Checked (List Value)
  | .list items => .ok items
  | .map fields => .ok (fields.map fun f => .scalar f.1)
  | .set members => .ok (members.map .scalar)
  | .pair first second => .ok [first, second]
  | .text s => .ok (s.toList.map fun c => .text (String.ofList [c]))
  | .scalar (.bytes content) => .ok (content.map fun b => .int (b : Nat))
  | _ => .error .unsuited

/-- The members of a value, none when it does not count as given. -/
def Value.givenMembers (v : Value) : Checked (List Value) :=
  if v.isGiven then v.members else .ok []

/-- Reads the arguments of a component and checks them together. -/
def readArguments (specs : Value) : Checked (List Argument) := do
  let arguments ← (← specs.givenMembers).mapM Argument.ofValue
  checkArguments arguments
  return arguments

end Toolwrap
