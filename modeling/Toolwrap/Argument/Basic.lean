import Toolwrap.Fault
/-!
Arguments of a component. The leading dashes of a spelling say how a value is passed; the body says
what kind of values there are and which are known beforehand. A value that a body holds is always of
its kind (`Body`), and `Body.texts` gives the text in which the wrapper stores each of them.
-/
namespace Toolwrap

/-- How a spelling takes its value. -/
inductive Passing where
  | long | short | positional
deriving DecidableEq, Repr

def Passing.name : Passing → String
  | long => "long" | short => "short" | positional => "positional"

/-- Two dashes make a long option, one a short one, none a positional argument. -/
def Passing.ofChars : List Char → Passing
  | '-' :: '-' :: _ => .long
  | '-' :: _ => .short
  | _ => .positional

def passing (spelling : String) : Passing := Passing.ofChars spelling.toList

inductive Direction where
  | input | output
deriving DecidableEq, Repr

def Direction.name : Direction → String
  | input => "input" | output => "output"

/-- The values of an argument that are known beforehand. -/
structure Values (α : Type) where
  default : List α := []
  examples : List α := []
  choices : List α := []
  min : Option α := none
  max : Option α := none
deriving Repr

def Values.map {α β : Type} (f : α → β) (v : Values α) : Values β where
  default := v.default.map f
  examples := v.examples.map f
  choices := v.choices.map f
  min := v.min.map f
  max := v.max.map f

/-- The kind of an argument, with its known values. -/
inductive Body where
  | string (values : Values String)
  | integer (values : Values Int)
  | double (values : Values Double)
  | boolean (values : Values Bool)
  /-- a flag without a value, which stores a fixed one -/
  | flag (stored : Bool) (values : Values Bool)
  | file (values : Values String) (mustExist createParent : Bool)
deriving Repr

def truthText (b : Bool) : String := if b then "true" else "false"

namespace Body

def type : Body → String
  | string _ => "string"
  | integer _ => "integer"
  | double _ => "double"
  | boolean _ => "boolean"
  | flag true _ => "boolean_true"
  | flag false _ => "boolean_false"
  | file _ _ _ => "file"

/-- The texts of the known values. -/
def texts : Body → Values String
  | string v => v
  | integer v => v.map toString
  | double v => v.map Scalar.showDouble
  | boolean v => v.map truthText
  | flag _ v => v.map truthText
  | file v _ _ => v

/-- The function of the wrapper that tells whether a text is of the kind, where not every text is. -/
def check? : Body → Option String
  | integer _ => some "bw_is_integer"
  | double _ => some "bw_is_double"
  | boolean _ => some "bw_is_boolean"
  | flag _ _ => some "bw_is_boolean"
  | string _ => none
  | file _ _ _ => none

inductive Order where
  | integer | double
deriving DecidableEq, Repr

def Order.name : Order → String
  | integer => "integer" | double => "double"

/-- The order in which bounds are compared, for kinds that have bounds. -/
def order? : Body → Option Order
  | integer _ => some .integer
  | double _ => some .double
  | _ => none

/-- What a flag stores. -/
def stored? : Body → Option Bool
  | flag stored _ => some stored
  | _ => none

def isFile : Body → Bool
  | file _ _ _ => true
  | _ => false

/-- An expression of a Python script that reads a value out of a text. -/
def pythonReader (body : Body) (expr : String) : String :=
  match body with
  | string _ => expr
  | file _ _ _ => expr
  | integer _ => s!"int({expr})"
  | double _ => s!"float({expr})"
  | boolean _ => s!"({expr}.lower() in ('true', 'yes'))"
  | flag _ _ => s!"({expr}.lower() in ('true', 'yes'))"

/-- An expression of an R script that reads values out of texts. -/
def rReader (body : Body) (expr : String) : String :=
  match body with
  | string _ => expr
  | file _ _ _ => expr
  | integer _ => s!"as.integer({expr})"
  | double _ => s!"as.numeric({expr})"
  | boolean _ => s!"(tolower({expr}) %in% c('true', 'yes'))"
  | flag _ _ => s!"(tolower({expr}) %in% c('true', 'yes'))"

end Body

/-- One argument of a component. -/
structure Argument where
  name : String
  alternatives : List String := []
  /-- kept as it was given; only the help looks at it -/
  description : Value := .null
  required : Bool := false
  direction : Direction := .input
  multiple : Bool := false
  separator : Char := ':'
  body : Body
deriving Repr

namespace Argument

def passing (a : Argument) : Passing := Toolwrap.passing a.name

def isPositional (a : Argument) : Bool := a.passing == .positional

/-- The name without leading dashes, the other dashes as underscores. -/
def plainChars (name : List Char) : List Char :=
  (name.dropWhile (· == '-')).map fun c => if c == '-' then '_' else c

def plainName (a : Argument) : String := String.ofList (plainChars a.name.toList)

/-- The variable that carries the value; names are ASCII, and so is their upper case. -/
def envName (a : Argument) : String :=
  "BW_PAR_" ++ String.ofList ((plainChars a.name.toList).map Char.toUpper)

def spellings (a : Argument) : List String := a.name :: a.alternatives

def isFlag (a : Argument) : Bool := a.body.stored?.isSome

def isOutput (a : Argument) : Bool := a.direction == .output

def separatorText (a : Argument) : String := String.ofList [a.separator]

/-- The default as the wrapper stores it, several values joined by the separator. -/
def defaultText? (a : Argument) : Option String :=
  match a.body.texts.default with
  | [] => none
  | texts => some (a.separatorText.intercalate texts)

end Argument

/-- The variables that describe the running component, exported beside those of the arguments. -/
def metaVariables : List String :=
  ["BW_META_FUNCTIONALITY_NAME", "BW_META_RESOURCES_DIR", "BW_META_EXECUTABLE",
   "BW_META_TEMP_DIR", "BW_META_N_PROC", "BW_META_MEMORY", "BW_META_MEMORY_B",
   "BW_META_MEMORY_KB", "BW_META_MEMORY_MB", "BW_META_MEMORY_GB", "BW_META_MEMORY_TB",
   "BW_META_MEMORY_PB"]

end Toolwrap
