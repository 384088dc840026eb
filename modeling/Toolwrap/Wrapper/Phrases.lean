import Toolwrap.Argument.Basic
import Toolwrap.Shell.Phrases
/-!
Phrases that the sections of a wrapper share: failing with a message, storing a value, and going
through the values of an argument that takes several.
-/
namespace Toolwrap.Wrapper

open Shell

/-- Ends every message about wrong arguments. -/
def helpHint : List Part :=
  [.text " Use ", .escaped '\x22', .text "--help", .escaped '\x22',
   .text " to get more information on the parameters."]

/-- Reports a message and fails. -/
def fatal (message : List Part) : Script :=
  [run [bare "bw_error", [.double message]], leave "1"]

/-- Reports a message with the hint and fails. -/
def fatalHint (message : List Part) : Script := fatal (message ++ helpHint)

/-- A variable that is given a value, or the value after what is there and the separator. -/
def appendValue (x separator : String) (value : List Part) : Command :=
  .ifThen [isUnset x] [assignQuoted x value]
    [assignQuoted x (.param x [] .braced :: literal separator ++ value)]

/-- Stores one token. An argument with several values stores them joined, so that giving them one
by one and giving them joined is the same. -/
def storeValue (a : Argument) (value : List Part) : Command :=
  if a.multiple then appendValue a.envName a.separatorText value
  else assignQuoted a.envName value

/-- Runs commands once for each value of an argument, with the value in `BW_VAL`. -/
def eachValue (a : Argument) (body : Script) : Script :=
  [.simple [.value "IFS" [] false (quotedWord a.separatorText)]
     (["read", "-r", "-a", "BW_VALUES"].map bare)
     [.mk 0 .hereText (quotedRef a.envName)],
   .forIn "BW_VAL" (some [quotedItems "BW_VALUES"]) body]

/-!
Starting the component: its variables are exported, for an executable its command line is put
together again, and the main resource is run.
-/

def exportedVariables (arguments : List Argument) : List String :=
  "BW_TEMP" :: metaVariables ++ arguments.map Argument.envName

def exports (arguments : List Argument) : Script :=
  [.comment "export values", say ("export" :: exportedVariables arguments)]

/-- The command line of one argument: its name, unless it is positional, and its value. A flag is
its name alone, if it stores what it was given for. -/
def executableArgument (a : Argument) : Command :=
  let x := a.envName
  let add := fun (words : List Word) => addItems "BW_EXECUTABLE_ARGS" words
  match a.body.stored? with
  | some stored =>
    when (bracket [quotedRef x, bare "=", [.double [.text (truthText stored)]]])
      [add [quotedWord a.name]]
  | none =>
    let lead := if a.isPositional then [] else [quotedWord a.name]
    when (isSet x)
      (if a.multiple then eachValue a [add (lead ++ [quotedRef "BW_VAL"])]
        else [add (lead ++ [quotedRef x])])

def executableArguments (arguments : List Argument) : Script :=
  [.comment "arguments for the executable", assignItems "BW_EXECUTABLE_ARGS" []] ++
    arguments.map executableArgument

/-- The line that runs the component, behind the command of its platform. -/
def invocation (executor extra command : String) : String :=
  Text.unlines ["# run the component", Text.strip (executor ++ extra ++ " " ++ command)]

end Toolwrap.Wrapper
