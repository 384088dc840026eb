import Toolwrap.Docker.Basic
import Toolwrap.Wrapper.Functions
import Toolwrap.Wrapper.Help
import Toolwrap.Wrapper.Layer
import Toolwrap.Wrapper.Parsing
import Toolwrap.Wrapper.Phrases
/-!
Functions of a wrapper that runs a container: one prints the recipe of the image, one makes sure that
the image is there. The image is pulled, or built from the recipe in a temporary directory.
-/
namespace Toolwrap.Docker

/-- Pulls the image. -/
def pullLines (image : String) : List String := ["  docker pull " ++ image ++ " >&2"]

/-- Builds the image from the recipe, next to a copy of the resources. -/
def buildLines (name image : String) (buildArgs : List String) : List String :=
  let args := "".intercalate (buildArgs.map fun a => " --build-arg " ++ doubleQuoted a)
  let directory := quotedBody ("bashwrap_setup-" ++ name ++ "-XXXXXX")
  ["  (",
   "    tmpdir=$(mktemp -d \"$BW_TEMP/" ++ directory ++ "\") || exit $?",
   "    trap 'rm -rf \"$tmpdir\"' EXIT",
   "    cp -r \"$BW_META_RESOURCES_DIR/.\" \"$tmpdir\" || exit $?",
   "    bw_dockerfile > \"$tmpdir/Dockerfile\" || exit $?",
   "    docker build -t " ++ image ++ args ++ " \"$tmpdir\" >&2",
   "  )"]

def setupLines (image : String) (fetch : List String) : List String :=
  ["# bw_docker_setup: make sure the docker image is available locally",
   "# examples:",
   "#   bw_docker_setup        # pull or build only when missing",
   "#   bw_docker_setup force  # always pull or build",
   "function bw_docker_setup \x7b",
   "  if [ \"$1\" != \"force\" ] && docker image inspect " ++ image ++ " >/dev/null 2>&1; then",
   "    return 0",
   "  fi"] ++ fetch ++ ["\x7d"]

/-- The functions that the wrapper of a component needs before it reads its command line. -/
def setupFunctions (d : Docker) (c : Component) : Checked String := do
  let image := doubleQuoted (← (← d.imageFor c).text)
  let fetch := if d.instructions.isEmpty then pullLines image else buildLines c.name image d.buildArgs
  return Text.unlines (
    "# bw_dockerfile: print the Dockerfile of this component" ::
      Wrapper.printingFunction "bw_dockerfile" d.dockerfile "BWDOCKER" ++
      [""] ++ setupLines image fetch)

/-- What the help says of the flags of a container. -/
def helpExtra : List String :=
  ["",
   "Docker flags:",
   "    ---setup",
   "        Pull or build the docker image, then exit.",
   "    ---dockerfile",
   "        Print the Dockerfile of this component, then exit.",
   "    ---debug",
   "        Open an interactive shell in the container instead of running the component.",
   "    ---v, ---volume=HOST:CONTAINER",
   "        Mount an extra volume in the container."]

/-!
The layers of a container: its flags, its volumes, the mounts of file arguments, a debug session, the
owner of outputs, and at last the variables that go into the container and the image. The volumes are
collected in an array while the wrapper runs, each one once.
-/

open Shell Wrapper

/-- The collected volumes, as arguments of the container. -/
def mounts : Word := quotedItems "BW_EXTRA_MOUNTS"

/-- A word that stands for the text, as a part of a command that is put together. -/
def quotedText (s : String) : Word := quotedWord s

def containerOptions (d : Docker) : List Word :=
  [bare "-i", bare "--rm"] ++ d.ports.flatMap fun p => [bare "-p", quotedText p]

/-- The command that starts the container, up to what the layers add. -/
def executor (d : Docker) : String :=
  let workdir :=
    if d.workdir.isGiven then [bare "--workdir", quotedText d.workdir.display] else []
  " ".intercalate (inlineWords ([bare "docker", bare "run", bare "--entrypoint="] ++
    d.containerOptions ++ workdir ++ d.runArgs.map quotedText))

def clausesText (clauses : List Clause) : String := Text.unlines (clauses.map Clause.render)

/-- Mounts what the words come to. -/
def addMount (word : Word) : Command := run [bare "bw_add_mount", word]

/-- The value of a command on one path, between quotes. -/
def quotedOutput (function : String) (value : List Part) : Word :=
  [.double [outputOf [bare function, [.double value]]]]

/-!
The branches of the flags of a container, by the layers that they belong to.
-/

def volumeClauses : List Clause :=
  [branch ["---v", "---volume"] [needValue [ref "1"], addMount [.double [ref "2"]], shift 2],
   branch ["---v=*", "---volume=*"] [addMount [.double attachedValue], shift 1]]

def setupClauses : List Clause :=
  [branch ["---setup"] [say ["bw_docker_setup", "force"], say ["exit", "$?"]]]

def debugClauses : List Clause := [branch ["---debug"] [assign "BW_MODE" (bare "debug"), shift 1]]

def dockerfileClauses : List Clause := [branch ["---dockerfile"] [say ["bw_dockerfile"], leave "0"]]

/-- Volumes that are given as flags. -/
def baseLayer : Layer where
  preParse := Text.unlines [Functions.container, "", "BW_EXTRA_MOUNTS=()", "BW_MODE=run"]
  parsers := clausesText volumeClauses
  extraParams := " " ++ inlineParts mounts

/-- The image is there before the component runs; a flag only makes sure of that. -/
def setupLayer : Layer where
  parsers := clausesText setupClauses
  postParse := Script.render [
    .comment "make sure the docker image is available",
    .or false (say ["bw_docker_setup"]) (.group [
      assign "BW_SETUP_CODE" [ref "?"],
      run [bare "bw_error",
        [.double [.text "Docker setup failed with exit code ", ref "BW_SETUP_CODE", .text "."]]],
      run [bare "exit", [ref "BW_SETUP_CODE"]]])]

/-- Mounts the directory that was given for a volume. -/
def mountVolume (a : Argument) (v : Volume) : Command :=
  when (isSet a.envName) [addMount [.double
    ([outputOf [bare "bw_absolute_path", quotedRef a.envName], .text ":"] ++
      literal v.mount.display)]]

def volumesLayer (d : Docker) (inputs : List Argument) : Layer where
  postParse :=
    if inputs.isEmpty then ""
    else
      Script.render (.comment "declared volumes" :: List.zipWith mountVolume inputs d.volumes)
  inputs := inputs

/-- Mounts the files of an argument and lets it hold their paths in the container. -/
def mountArgument (a : Argument) : Command :=
  let x := a.envName
  if a.multiple then
    when (isNonempty x)
      (say ["unset", "BW_MOUNTED"] ::
        eachValue a [
          addMount (quotedOutput "bw_automount_arg" [ref "BW_VAL"]),
          appendValue "BW_MOUNTED" a.separatorText
            [outputOf [bare "bw_automount", quotedRef "BW_VAL"]]] ++
        [assignQuoted x [ref "BW_MOUNTED"]])
  else
    when (isNonempty x) [
      addMount (quotedOutput "bw_automount_arg" [ref x]),
      assign x [outputOf [bare "bw_automount", quotedRef x]]]

/-- Mounts a directory of the wrapper and lets its variable hold the path in the container. -/
def mountOwn (x : String) : Script :=
  [addMount (quotedOutput "bw_automount_arg" [ref x]),
   assign x [outputOf [bare "bw_automount", quotedRef x]]]

def automountLayer (d : Docker) (c : Component) : Layer where
  postParse := Script.render (
    (if d.automatic then
      .comment "mount file arguments" ::
        (c.arguments.filter fun a => a.body.isFile).map mountArgument
    else []) ++
    [.comment "mount the resources and temporary directories"] ++
    mountOwn "BW_META_RESOURCES_DIR" ++
    [assignQuoted "BW_META_EXECUTABLE"
      [ref "BW_META_RESOURCES_DIR", .text "/", ref "BW_META_FUNCTIONALITY_NAME"]] ++
    mountOwn "BW_TEMP" ++
    [assignQuoted "BW_META_TEMP_DIR" [ref "BW_TEMP"]])

/-- An interactive shell in place of the component. -/
def debugCommand (d : Docker) (image : String) : Command :=
  run ([bare "docker", bare "run", bare "--entrypoint=bash"] ++ d.containerOptions ++
    [bare "-t", mounts, bare "-v", [.double [outputOf [bare "pwd"]], .text ":/pwd"],
     bare "--workdir", bare "/pwd", quotedText image])

def debugLayer (d : Docker) (image : String) : Layer where
  parsers := clausesText debugClauses
  postParse :=
    let command := d.debugCommand image
    Script.render [
      .comment "enter a debug session instead of running the component",
      when (bracket [quotedRef "BW_MODE", bare "=", [.double [.text "debug"]]]) [
        .simple [] [bare "echo", [.double (.text "+ " :: literal command.inline)]]
          [.mk 1 .duplicate (bare "2")],
        command,
        leave "0"]]

/-- Gives one output back to the calling user, or warns. -/
def chownValue (image : String) (value : Part) : Command :=
  .or true
    (run [bare "docker", bare "run", bare "--entrypoint=chown", bare "--rm", mounts,
      quotedText image,
      [.double [outputOf [bare "id", bare "-u"], .text ":", outputOf [bare "id", bare "-g"]]],
      bare "-R", [.double [value]]])
    (run [bare "bw_warning",
      [.double [.text "Could not change the owner of '", value, .text "'."]]])

def chownArgument (image : String) (a : Argument) : Command :=
  when (isNonempty a.envName)
    (if a.multiple then eachValue a [chownValue image (ref "BW_VAL")]
      else [chownValue image (ref a.envName)])

/-- Outputs belong to the calling user when the wrapper ends, in whatever way it does. -/
def chownLayer (d : Docker) (c : Component) (image : String) : Layer :=
  let outputs := c.arguments.filter fun a => a.body.isFile && a.isOutput
  if !d.chown || outputs.isEmpty then .empty
  else { postParse := Script.render [
    .comment "give output files back to the calling user",
    .function "bw_perform_chown" (.group (outputs.map (chownArgument image))),
    say ["trap", "bw_perform_chown", "EXIT"]] }

def dockerfileLayer : Layer where
  parsers := clausesText dockerfileClauses

/-- The variables that go into the container, and at last the image. -/
def runLayer (passed : List String) (image : String) : Layer where
  extraParams := "".intercalate (passed.map (" -e " ++ ·)) ++ " " ++ doubleQuoted image

def layer (d : Docker) (c : Component) : Checked Layer := do
  let image ← (← d.imageFor c).text
  let inputs ← d.volumeArguments
  return .combineAll [
    baseLayer,
    setupLayer,
    d.volumesLayer inputs,
    d.automountLayer c,
    d.debugLayer image,
    d.chownLayer c image,
    dockerfileLayer,
    runLayer (exportedVariables (c.arguments ++ inputs)) image]

end Toolwrap.Docker
