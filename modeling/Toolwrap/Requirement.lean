import Toolwrap.Fault
import Toolwrap.Quoting
/-!
Setup requirements: what an image needs besides its base. Each kind is read from a mapping and
written as instructions of a Dockerfile.
-/
namespace Toolwrap

/-- A value that stands for a list of texts: nothing, one text that is not blank, or a list. -/
def Value.texts : Value → Checked (List String)
  | .null => .ok []
  | .text s => .ok (if (Text.strip s).isEmpty then [] else [s])
  | .list items => .ok (items.map Value.display)
  | v => refuse (.notStrings v)

inductive Requirement where
  | apk (packages : List String)
  | apt (packages : List String) (interactive : Bool)
  | python (packages git url : List String) (user upgrade : Bool)
  | r (cran bioc : List String)
  | docker (env copy run buildArgs : List String)
deriving Repr, DecidableEq

namespace Requirement

inductive Kind where
  | apk | apt | python | r | docker
deriving Repr, DecidableEq

def Kind.name : Kind → String
  | apk => "apk" | apt => "apt" | python => "python" | r => "r" | docker => "docker"

def Kind.ofName? (name : String) : Option Kind :=
  [Kind.apk, .apt, .python, .r, .docker].find? fun k => k.name == name

def Kind.fields : Kind → List String
  | apk => ["packages"]
  | apt => ["packages", "interactive"]
  | python => ["packages", "git", "url", "user", "upgrade"]
  | r => ["cran", "bioc"]
  | docker => ["env", "copy", "run", "build_args"]

def kind : Requirement → Kind
  | apk _ => .apk
  | apt _ _ => .apt
  | python _ _ _ _ _ => .python
  | r _ _ => .r
  | docker _ _ _ _ => .docker

def ofFields (fields : Fields) : Kind → Checked Requirement
  | .apk => return .apk (← texts "packages")
  | .apt => return .apt (← texts "packages") (flag "interactive" false)
  | .python => do
    let packages ← texts "packages"
    let git ← texts "git"
    let url ← texts "url"
    return .python packages git url (flag "user" false) (flag "upgrade" true)
  | .r => do
    let cran ← texts "cran"
    let bioc ← texts "bioc"
    return .r cran bioc
  | .docker => do
    let env ← texts "env"
    let copy ← texts "copy"
    let run ← texts "run"
    let buildArgs ← texts "build_args"
    return .docker env copy run buildArgs
where
  texts (key : String) : Checked (List String) := (fields.getD key).texts
  flag (key : String) (absent : Bool) : Bool :=
    match fields.get? key with
    | some v => v.isGiven
    | none => absent

def ofMapping (given : Fields) (type : Value) : Checked Requirement := do
  let type := if type.isGiven then type else given.getD "type"
  let fields : Fields := given.erase "type"
  if !type.isGiven then refuse (.requirementUntyped (.map fields))
  match Kind.ofName? type.display with
  | none => refuse (.requirementTypeUnknown type.display)
  | some kind =>
    fields.checkKnown kind.fields (.requirementFields type.display)
    ofFields fields kind

/-- Reads a requirement; its kind is given from outside or by the field `type`. -/
def ofValue (spec : Value) (type : Value := .null) : Checked Requirement :=
  match spec with
  | .map given => ofMapping given type
  | v => refuse (.requirementNotMapping v)

/-- The names as arguments of an R call. -/
def rNames (names : List String) : String :=
  ", ".intercalate (names.map fun n => "\"" ++ n ++ "\"")

def cranMirror : String := "\"https://cloud.r-project.org\""

/-- The instructions that meet the requirement, after the one that names the base image. -/
def instructions : Requirement → List String
  | apk packages =>
    if packages.isEmpty then [] else ["RUN apk add --no-cache " ++ " ".intercalate packages]
  | apt packages interactive =>
    if packages.isEmpty then []
    else
      let frontend := if interactive then "" else "DEBIAN_FRONTEND=noninteractive "
      ["RUN apt-get update && \\\n  " ++ frontend ++ "apt-get install -y " ++
        " ".intercalate packages ++ " && \\\n  rm -rf /var/lib/apt/lists/*"]
  | python packages git url user upgrade =>
    let all := packages ++ git.map ("git+" ++ ·) ++ url
    if all.isEmpty then []
    else
      let options := (if user then " --user" else "") ++ (if upgrade then " --upgrade" else "")
      ["RUN pip install --upgrade pip && \\\n  pip install" ++ options ++ " --no-cache-dir " ++
        " ".intercalate (all.map singleQuoted)]
  | r cran bioc =>
    (if cran.isEmpty then []
      else ["RUN Rscript -e 'install.packages(c(" ++ rNames cran ++ "), repos = " ++
        cranMirror ++ ")'"]) ++
    (if bioc.isEmpty then []
      else ["RUN Rscript -e 'if (!requireNamespace(\"BiocManager\", quietly = TRUE)) " ++
        "install.packages(\"BiocManager\", repos = " ++ cranMirror ++ ")' && \\\n" ++
        "  Rscript -e 'BiocManager::install(c(" ++ rNames bioc ++ "))'"])
  | docker env copy run buildArgs =>
    buildArgs.map (fun a => "ARG " ++ String.ofList (a.toList.takeWhile (· != '='))) ++
      env.map ("ENV " ++ ·) ++ copy.map ("COPY " ++ ·) ++ run.map ("RUN " ++ ·)

/-- The values handed to an image build. -/
def buildArgs : Requirement → List String
  | docker _ _ _ args => args
  | _ => []

end Requirement

end Toolwrap
