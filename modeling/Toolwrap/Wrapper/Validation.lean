import Toolwrap.Memory
import Toolwrap.Wrapper.Phrases
/-!
Checking what was read: an argument that is needed is there or has its default, and every value is
of its kind, among its choices and between its bounds.
-/
namespace Toolwrap.Wrapper

open Shell

/-- The value under test, between quotes in a message. -/
def got : List Part := [.text ", got '", ref "BW_VAL", .text "'."]

def checkKind (a : Argument) : Script :=
  match a.body.check? with
  | none => []
  | some check =>
    [when (.not (run [bare check, quotedRef "BW_VAL"]))
      (fatalHint (.text ("'" ++ a.name ++ "' has to be of type " ++ a.body.type) :: got))]

def checkChoices (a : Argument) : Script :=
  match a.body.texts.choices with
  | [] => []
  | choices =>
    [when (.not (run ([bare "bw_in_array", quotedRef "BW_VAL"] ++ choices.map quotedWord)))
      (fatalHint ([.text ("'" ++ a.name ++ "' value '"), ref "BW_VAL",
        .text "' is not one of the allowed choices: "] ++ literal (", ".intercalate choices) ++
        [.text "."]))]

/-- The function of the wrapper that compares two numbers of a kind. -/
def lessFunction (a : Argument) : String :=
  if a.body.order? == some .integer then "bw_integer_less" else "bw_double_less"

def outOfBound (a : Argument) (relation limit : String) : Script :=
  fatalHint (.text ("'" ++ a.name ++ "' has to be " ++ relation ++ " " ++ limit) :: got)

def checkMin (a : Argument) : Script :=
  match a.body.texts.min with
  | none => []
  | some limit =>
    [when (run [bare (lessFunction a), quotedRef "BW_VAL", bare limit])
      (outOfBound a "larger than or equal to" limit)]

def checkMax (a : Argument) : Script :=
  match a.body.texts.max with
  | none => []
  | some limit =>
    [when (run [bare (lessFunction a), bare limit, quotedRef "BW_VAL"])
      (outOfBound a "smaller than or equal to" limit)]

/-- `"$(dirname "$BW_VAL")"` -/
def parentOfValue : Word := [.double [outputOf [bare "dirname", quotedRef "BW_VAL"]]]

def checkFile (a : Argument) : Script :=
  match a.body with
  | .file _ mustExist createParent =>
    (if mustExist && !a.isOutput then
      [when (bracket [bare "!", bare "-e", quotedRef "BW_VAL"])
        (fatal [.text "Input file '", ref "BW_VAL", .text ("' for '" ++ a.name ++
          "' does not exist.")])] else []) ++
    (if createParent && a.isOutput then
      [when (.and (isNonempty "BW_VAL") (bracket [bare "!", bare "-d", parentOfValue]))
        [run [bare "mkdir", bare "-p", parentOfValue]]] else [])
  | _ => []

/-- What is checked of one value. -/
def valueChecks (a : Argument) : Script :=
  checkKind a ++ checkChoices a ++ checkMin a ++ checkMax a ++ checkFile a

/-- A required argument has to be there; one with a default gets it. -/
def presenceCheck (a : Argument) : Script :=
  if a.required then
    [when (isUnset a.envName) (fatalHint [.text ("'" ++ a.name ++ "' is a required argument.")])]
  else
    match a.defaultText? with
    | none => []
    | some text => [when (isUnset a.envName) [assign a.envName (quotedWord text)]]

def validation (a : Argument) : Script :=
  let checks := valueChecks a
  [.comment a.name] ++ presenceCheck a ++
    (if checks.isEmpty then []
      else
        [when (isSet a.envName)
          (if a.multiple then eachValue a checks
            else assignQuoted "BW_VAL" [ref a.envName] :: checks)])

/-- The variable of the amount of memory in one unit. -/
def memoryVariable (u : Memory.ByteUnit) : String :=
  "BW_META_MEMORY_" ++ String.ofList (u.name.toList.map Char.toUpper)

/-- The bytes of the amount of memory, and from them the other units, rounded down. -/
def deriveMemory : Script :=
  when (.not (assign "BW_META_MEMORY_B"
      [outputOf [bare "bw_memory_as_bytes", quotedRef "BW_META_MEMORY"]])) [leave "1"] ::
    (Memory.ByteUnit.all.drop 1).map fun u =>
      assign (memoryVariable u)
        [.arith [.text (" BW_META_MEMORY_B / " ++ toString u.bytes ++ " ")]]

def metaDerivation : Script :=
  [.comment "meta fields",
   when (.and (isNonempty "BW_META_N_PROC")
       (.not (run [bare "bw_is_integer", quotedRef "BW_META_N_PROC"])))
     (fatalHint [.text "'---n_proc' has to be an integer, got '", ref "BW_META_N_PROC",
       .text "'."])] ++
    Memory.ByteUnit.all.map (fun u => assign (memoryVariable u) [.single ""]) ++
    [when (isNonempty "BW_META_MEMORY") deriveMemory]

end Toolwrap.Wrapper
