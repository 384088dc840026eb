import Toolwrap.Memory
import Toolwrap.Wrapper.Phrases
/-!
Reading the command line: the variables of the arguments are cleared, options are stored one after
the other, and what is no option is then given to the positional arguments in order.
-/
namespace Toolwrap.Wrapper

open Shell

def storageReset (arguments : List Argument) : Script :=
  [.comment "argument storage"] ++
    (if arguments.isEmpty then [] else [say ("unset" :: arguments.map Argument.envName)]) ++
    [assignItems "BW_POSITIONAL_ARGS" []]

/-- An option with one value may not be given twice. -/
def onceOnly (a : Argument) (spelling : String) : Script :=
  if a.multiple then []
  else
    [when (isSet a.envName)
      (fatalHint [.text ("Bad arguments for option '" ++ spelling ++ "': got more than one value.")])]

/-- `[ $# -lt 2 ]` -/
def lacksValue : Command := bracket [[ref "#"], bare "-lt", bare "2"]

def needValue (subject : List Part) : Command :=
  when lacksValue (fatalHint ([.text "Not enough arguments passed to "] ++ subject ++ [.text "."]))

/-- `${1#*=}`, the part of the first argument after its first equals sign -/
def attachedValue : List Part := [.param "1" [] (.trim false false [.text "*="])]

/-- The branches for one spelling of an option. -/
def spellingClauses (a : Argument) (spelling : String) : List Clause :=
  match a.body.stored? with
  | some stored =>
    [branch [spelling] [assign a.envName (bare (truthText stored)), shift 1]]
  | none =>
    [branch [spelling] (onceOnly a spelling ++
       [needValue [.text spelling], storeValue a [ref "2"], shift 2]),
     branch [spelling ++ "=*"] (onceOnly a spelling ++ [storeValue a attachedValue, shift 1])]

/-- The branches of an argument; a positional one has none. -/
def argumentClauses (a : Argument) : List Clause :=
  (a.spellings.filter fun s => passing s != .positional).flatMap (spellingClauses a)

/-- The flags that set the resources of the running component, and their variables. -/
def metaFlags : List (String × String) :=
  [("---n_proc", "BW_META_N_PROC"), ("---memory", "BW_META_MEMORY")]

/-- The last value of a meta flag counts, and an empty one clears the field. -/
def metaClauses : List Clause :=
  metaFlags.flatMap fun (flag, x) =>
    [branch [flag] [needValue [.text flag], assignQuoted x [ref "2"], shift 2],
     branch [flag ++ "=*"] [assignQuoted x attachedValue, shift 1]]

/-- The branches before those of the arguments. -/
def firstClauses (versionLine : String) : List Clause :=
  [branch ["-h", "--help"] [say ["bw_help"], leave "0"],
   branch ["--version"] [run [bare "echo", quotedWord versionLine], leave "0"]]

/-- The branches after all others: the end of the options, an unknown one, and what is none. -/
def lastClauses : List Clause :=
  [branch ["--"]
     [shift 1, addItems "BW_POSITIONAL_ARGS" [[.double [ref "@"]]], say ["break"]],
   branch ["-?*"]
     (fatalHint [.text "Unrecognized argument '", ref "1", .text "'."]),
   branch ["*"] [addItems "BW_POSITIONAL_ARGS" [quotedRef "1"], shift 1]]

/-- The loop over the command line, with the branches of the arguments and those of a layer. -/
def parserLoop (versionLine : String) (clauses extra : List Clause) : Script :=
  [.comment "parse arguments",
   .whileLoop false [hasArguments]
     [.caseOf (quotedRef "1") (firstClauses versionLine ++ clauses ++ extra ++ lastClauses)]]

/-- Gives the collected arguments to one positional argument: all of them if it takes several. -/
def takePositional (a : Argument) : Command :=
  let body := [storeValue a [ref "1"], shift 1]
  if a.multiple then .whileLoop false [hasArguments] body else when hasArguments body

def positionals (arguments : List Argument) : Script :=
  [.comment "positional arguments",
   run [bare "set", bare "--", quotedItems "BW_POSITIONAL_ARGS"]] ++
    (arguments.filter Argument.isPositional).map takePositional ++
    [when hasArguments
      (fatalHint [.text "Unrecognized positional argument(s): ", ref "*", .text "."])]

end Toolwrap.Wrapper
