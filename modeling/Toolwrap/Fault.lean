import Toolwrap.Memory
import Toolwrap.Value
/-!
What can go wrong, by cause. A cause carries the data that its message shows, and the wording stands
in the `message` functions alone. `Fault.unsuited` is the odd one out: a place that a description is
not checked for was given a value of a kind it has no use for.
-/
namespace Toolwrap

/-- What a value of an argument is given for. -/
inductive Role where
  | default | sample | choice | min | max
deriving DecidableEq, Repr

def Role.word : Role → String
  | default => "default" | sample => "example" | choice => "choice" | min => "min" | max => "max"

/-- Why a value does not suit the kind of its argument. -/
inductive Mismatch where
  | needsBoolean | needsNumber | notFinite | needsPath | needsInteger | needsString
deriving DecidableEq, Repr

def Mismatch.message : Mismatch → String
  | needsBoolean => "expected a boolean"
  | needsNumber => "expected a number"
  | notFinite => "nan and inf are not supported"
  | needsPath => "expected a path"
  | needsInteger => "expected an integer"
  | needsString => "expected a string"

/-- A name in a message and the names that would have been known. -/
def knownNames (names : List String) : String := ", ".intercalate (Text.sorted names)

/-- What is wrong with a description. -/
inductive Misconfiguration where
  -- one argument
  | argumentNotMapping (got : Value)
  | argumentTypeUnknown (type : String) (known : List String)
  | argumentUnnamed (type : String)
  | argumentField (name : String) (key : String) (type : String)
  | direction (name : String) (got : Value)
  | metaSpelling (spelling : String)
  | badSpelling (spelling : String)
  | positionalWithAlternatives (name : String)
  | positionalAlternative (name alternative : String)
  | separator (name : String) (got : Value)
  | badValue (name : String) (role : Role) (got : Value) (reason : Mismatch)
  | requiredWithDefault (name : String)
  | manyDefaults (name : String)
  | boundsCrossed (name min max : String)
  | defaultNotChoice (name default choices : String)
  | defaultBelowMin (name default min : String)
  | defaultAboveMax (name default max : String)
  | flagPositional (name type : String)
  | flagMultiple (name type : String)
  | flagRequired (name type : String)
  -- several arguments
  | reservedSpelling (name spelling : String)
  | spellingTaken (name spelling owner : String)
  | reservedVariable (name envVar : String)
  | variableTaken (owner name envVar : String)
  | multipleNotLast (name : String)
  -- platforms
  | imageReference (ref : String)
  | notStrings (got : Value)
  | requirementNotMapping (got : Value)
  | requirementUntyped (fields : Value)
  | requirementTypeUnknown (type : String)
  | requirementFields (type : String) (keys : List String)
  | platformNotMapping (got : Value)
  | platformTypeUnknown (type : String) (known : List String)
  | platformFields (type : String) (keys : List String)
  | imageMissing (platform : String)
  | volumeResolution (platform : String) (known : List String)
  | badVolume (platform : String) (got : Value)
  | noDockerfile (platform type : String)
  -- resources
  | resourceNotMapping (got : Value)
  | resourceTypeUnknown (type : String) (known : List String)
  | resourceFields (keys : List String)
  | resourceWithoutSource (type : String)
  | inlineWithoutDest (type : String)
  | notAMainScript (type : String)
  -- components
  | componentNotMapping
  | componentFields (keys : List String)
  | componentUnnamed
  | componentName (got : Value)
  | processCount (got : Value)
  | memoryDefault (reason : Memory.Refusal)
  | requirementKeys
  | noResources (component : String)
  | mainNotRunnable (component type : String)
  | resourceOverWrapper (component target : String)
  | platformUnknown (component platform : String) (available : List String)
  | unreadableDescription (path : String)
  | unreadablePin (path : String)
deriving Repr

def Misconfiguration.message : Misconfiguration → String
  | argumentNotMapping got => s!"Argument definition must be a mapping, got {got.quoted}"
  | argumentTypeUnknown type known =>
    s!"Unknown argument type: {type} (known: {knownNames known})"
  | argumentUnnamed type => s!"Argument of type {type} has no name"
  | argumentField name key type => s!"Argument '{name}': unknown field '{key}' for type {type}"
  | direction name got => s!"{name}: direction must be 'input' or 'output', got {got.quoted}"
  | metaSpelling spelling =>
    s!"Argument name '{spelling}' uses the '---' prefix, which is reserved for meta flags"
  | badSpelling spelling => s!"Invalid argument name '{spelling}'"
  | positionalWithAlternatives name => s!"Positional argument '{name}' cannot have alternatives"
  | positionalAlternative name alternative =>
    s!"{name}: alternative '{alternative}' must start with '-' or '--'"
  | separator name got => s!"{name}: multiple_sep must be a single character, got {got.quoted}"
  | badValue name role got reason =>
    s!"{name}: invalid {role.word} {got.quoted}: {reason.message}"
  | requiredWithDefault name => s!"{name}: a required argument cannot have a default value"
  | manyDefaults name => s!"{name}: multiple default values given but multiple is false"
  | boundsCrossed name min max => s!"{name}: min ({min}) is larger than max ({max})"
  | defaultNotChoice name default choices =>
    s!"{name}: default {default} is not one of the choices {choices}"
  | defaultBelowMin name default min => s!"{name}: default {default} is smaller than min {min}"
  | defaultAboveMax name default max => s!"{name}: default {default} is larger than max {max}"
  | flagPositional name type => s!"{name}: a {type} argument must be a flag (--name)"
  | flagMultiple name type => s!"{name}: a {type} argument cannot be multiple"
  | flagRequired name type => s!"{name}: a {type} argument cannot be required"
  | reservedSpelling name spelling => s!"Argument '{name}': '{spelling}' is reserved by the wrapper"
  | spellingTaken name spelling owner =>
    s!"Argument '{name}': '{spelling}' is already used by '{owner}'"
  | reservedVariable name envVar =>
    s!"Argument '{name}' collides with reserved variable {envVar}"
  | variableTaken owner name envVar =>
    s!"Arguments '{owner}' and '{name}' both map to variable {envVar}"
  | multipleNotLast name =>
    s!"Positional argument '{name}' has multiple: true but is not the last positional argument"
  | imageReference ref => s!"Invalid docker image reference {Text.quoted ref}"
  | notStrings got => s!"Expected a string or a list of strings, got {got.quoted}"
  | requirementNotMapping got => s!"Setup requirement must be a mapping, got {got.quoted}"
  | requirementUntyped fields => s!"Setup requirement without type: {fields.quoted}"
  | requirementTypeUnknown type => s!"Unknown setup requirement type: {type}"
  | requirementFields type keys =>
    s!"Unknown field(s) for {type} requirement: {knownNames keys}"
  | platformNotMapping got => s!"Platform definition must be a mapping, got {got.quoted}"
  | platformTypeUnknown type known =>
    s!"Unknown platform type: {type} (known: {knownNames known})"
  | platformFields type keys => s!"Unknown field(s) for {type} platform: {knownNames keys}"
  | imageMissing platform => s!"docker platform '{platform}': image is required"
  | volumeResolution platform known =>
    s!"docker platform '{platform}': resolve_volume must be one of " ++ ", ".intercalate known
  | badVolume platform got =>
    s!"docker platform '{platform}': volumes need a name and a mount, got {got.quoted}"
  | noDockerfile platform type => s!"Platform '{platform}' ({type}) has no Dockerfile"
  | resourceNotMapping got => s!"Resource definition must be a mapping, got {got.quoted}"
  | resourceTypeUnknown type known =>
    s!"Unknown resource type: {type} (known: {knownNames known})"
  | resourceFields keys => s!"Unknown field(s) for resource: {knownNames keys}"
  | resourceWithoutSource type => s!"{type} resource needs a path or a text"
  | inlineWithoutDest type => s!"{type} resource with inline text needs a dest"
  | notAMainScript type => s!"A {type} resource cannot be the main script"
  | componentNotMapping => "Component description must be a mapping"
  | componentFields keys => s!"Unknown component field(s): {knownNames keys}"
  | componentUnnamed => "Component description has no name"
  | componentName got => s!"Invalid component name {got.quoted}"
  | processCount got => s!"requirements.n_proc must be a positive integer, got {got.quoted}"
  | memoryDefault reason => s!"requirements.memory: {reason.message}"
  | requirementKeys => "requirements may only contain n_proc and memory"
  | noResources component =>
    s!"Component '{component}' has no resources; the first one must be the main script"
  | mainNotRunnable component type =>
    s!"Component '{component}': the first resource must be a script or an executable, got {type}"
  | resourceOverWrapper component target =>
    s!"Component '{component}': resource '{target}' would overwrite the wrapper script"
  | platformUnknown component platform available =>
    s!"Component '{component}' has no platform '{platform}' " ++
      "(available: " ++ ", ".intercalate available ++ ")"
  | unreadableDescription path => s!"Could not parse config '{path}'"
  | unreadablePin path => s!"Could not parse '{path}'"

/-- Why an operation on a file failed. -/
inductive FileFault where
  | missing | notDirectory | isDirectory | alreadyExists | nameTooLong
  /-- a name holds the character that ends names -/
  | badName
  /-- a file would be copied onto itself; both names as the message shows them -/
  | sameFile (source target : String)
  /-- the files of a directory that could not be copied: from, to, and why -/
  | copies (failed : List (String × String × String))
deriving Repr

namespace FileFault

def number : FileFault → Nat
  | missing => 2 | alreadyExists => 17 | notDirectory => 20 | isDirectory => 21 | nameTooLong => 36
  | _ => 0

def message : FileFault → String
  | missing => "No such file or directory"
  | notDirectory => "Not a directory"
  | isDirectory => "Is a directory"
  | alreadyExists => "File exists"
  | nameTooLong => "File name too long"
  | badName => "Invalid argument"
  | sameFile source target => s!"{source} and {target} are the same file"
  | copies failed =>
    let entry := fun (source, target, reason) =>
      s!"({Text.quoted source}, {Text.quoted target}, {Text.quoted reason})"
    "[" ++ ", ".intercalate (failed.map entry) ++ "]"

/-- The failure with its number and the file it befell. -/
def detailed (fault : FileFault) (path : String) : String :=
  s!"[Errno {fault.number}] {fault.message}: {Text.quoted path}"

end FileFault

/-- What went wrong with a file that a build reads or writes. -/
inductive ResourceFailure where
  | absent (source : String)
  | unreadable (source : String) (reason : FileFault)
  | unstaged (target : String) (reason : FileFault)
  | unwritten (path : String) (reason : FileFault)
  | unreadableDescription (path : String) (reason : FileFault)
deriving Repr

def ResourceFailure.message : ResourceFailure → String
  | absent source => s!"Resource '{source}' does not exist"
  | unreadable source reason => s!"Could not read resource '{source}': {reason.message}"
  | unstaged target reason => s!"Could not write resource '{target}': {reason.message}"
  | unwritten path reason => s!"Could not write '{path}': {reason.message}"
  | unreadableDescription path reason => s!"Could not read config '{path}': {reason.message}"

/-- A program that was run and failed. -/
inductive RunFailure where
  | setup (wrapper : String)
  | job (id log : String)
deriving Repr

inductive Fault where
  | configuration (cause : Misconfiguration)
  | resource (cause : ResourceFailure)
  | execution (cause : RunFailure) (code : Int)
  | release (requested path : String)
  | memory (cause : Memory.Refusal)
  /-- a value of a kind that its place cannot use -/
  | unsuited
deriving Repr

def Fault.message : Fault → String
  | configuration cause => cause.message
  | resource cause => cause.message
  | execution (.setup wrapper) code => s!"Setup of {wrapper} failed with exit code {code}"
  | execution (.job id log) code => s!"job {id} failed with code {code} (see {log})"
  | release requested path => s!"bashwrap {requested} is requested but not installed at {path}"
  | memory cause => cause.message
  | unsuited => "value of an unsuited kind"

/-- The fault of a file as a fault of what was done with it. A name that no file can have is a value
of an unsuited kind. -/
def FileFault.during (cause : FileFault → Fault) : FileFault → Fault
  | badName => .unsuited
  | fault => cause fault

abbrev Checked := Except Fault

/-- Where one check follows another and both pass, the first one has passed. -/
theorem Checked.bind_ok {α β : Type} {check : Checked α} {next : α → Checked β} {b : β}
    (ok : (check >>= next) = .ok b) : ∃ a, check = .ok a ∧ next a = .ok b := by
  cases check with
  | error fault => cases ok
  | ok a => exact ⟨a, rfl, ok⟩

/-- Refuses a description. -/
def refuse {α : Type} (cause : Misconfiguration) : Checked α := .error (.configuration cause)

/-- Fails when a mapping has fields besides the known ones. Keys that are not texts cannot be
named in the message. -/
def Fields.checkKnown (fields : Fields) (known : List String)
    (cause : List String → Misconfiguration) : Checked Unit :=
  match fields.unknown known with
  | [] => .ok ()
  | keys =>
    match keys.mapM fun k => match k with | .text s => some s | _ => none with
    | some names => refuse (cause names)
    | none => .error .unsuited

/-- A text where one is needed. -/
def Value.needText : Value → Checked String
  | .text s => .ok s
  | _ => .error .unsuited

end Toolwrap
