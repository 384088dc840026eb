import Toolwrap.Docker.Layers
import Toolwrap.Proofs.Running.Trees

-- The functions that mount paths of the host, as they are read from their texts.

namespace Toolwrap.Mounting

open Shell Running

-- `(( len != 0 ))`
def someLeft : Command := .arith [.text "len != 0"]

-- `unset "outp[$((len - 1))]"`
def dropLast : Command :=
  run [bare "unset", [.double [.text "outp[", .arith [.text "len - 1"], .text "]"]]]

-- `len=${#outp[@]}`
def counting : Command := assign "len" [.param "outp" [.text "@"] .length]

-- What is done with one piece of a path.
def pieceCase (n : Nat) : Command :=
  .caseOf (quotedRef "i") [
    .branch [[.single ""], bare "."] [.located (n + 1) (say ["continue"])] .leave,
    .branch [bare ".."] [.located (n + 3) counting,
      .located (n + 4) (.ifThen [.located (n + 4) someLeft] [.located (n + 5) dropLast] [])] .leave,
    .branch [bare "*"] [.located (n + 9) counting,
      .located (n + 10) (.simple [.value "outp" [ref "len"] false (quotedRef "i")] [] [])] .leave]

def piecesLoop (n : Nat) : Command := .forIn "i" (some [quotedItems "parr"]) [.located (n + 1) (pieceCase (n + 1))]

-- What reads a path from its input and prints where it leads.
def settling (n : Nat) : Script := [
  .located (n + 1) (assign "IFS" (bare "/")),
  .located (n + 2) (say ["read", "-r", "-a", "parr"]),
  .located (n + 3) (say ["declare", "-a", "outp"]),
  .located (n + 4) (piecesLoop (n + 4)),
  .located (n + 19) (run [bare "echo", [.text "/", .double [.param "outp" [.text "*"] .braced]]])]

def relative : Test := .not (.binary (quotedRef "1") "=~" (bare "^/"))

def absoluteLines (n : Nat) : Script := [
  .located (n + 1) (say ["local", "the_path"]),
  .located (n + 2) (.ifThen [.located (n + 2) (.test relative)]
    [.located (n + 3) (assignQuoted "the_path" [ref "PWD", .text "/", ref "1"])]
    [.located (n + 5) (assignQuoted "the_path" [ref "1"])]),
  .pipe (.located (n + 7) (run [bare "echo", quotedRef "the_path"])) (.located (n + 7) (.subshell (settling (n + 7))))]

def absoluteBody (n : Nat) : Command := .located n (.group (absoluteLines n))

-- `$(bw_absolute_path "$1")` and the like
def madeOf (name x : String) : Part := .output [.located 0 (run [bare name, quotedRef x])]

def isDirectory : Command := bracket [bare "-d", quotedRef "abs_path"]

def inContainer : Part := .text "/bw_automount"

def automountLines (n : Nat) : Script := [
  .located (n + 1) (say ["local", "abs_path"]),
  .located (n + 2) (assign "abs_path" [madeOf "bw_absolute_path" "1"]),
  .located (n + 3) (.ifThen [.located (n + 3) isDirectory]
    [.located (n + 4) (run [bare "echo", [.double [inContainer, ref "abs_path"]]])]
    [.located (n + 6) (say ["local", "source_dir"]),
     .located (n + 7) (assign "source_dir" [madeOf "dirname" "abs_path"]),
     .located (n + 8) (run [bare "echo", [.double [inContainer,
      .param "source_dir" [] (.trim true false (bare "/")), .text "/", madeOf "basename" "abs_path"]]])])]

def automountBody (n : Nat) : Command := .located n (.group (automountLines n))

def volumeLines (n : Nat) : Script := [
  .located (n + 1) (say ["local", "abs_path", "source_dir"]),
  .located (n + 2) (assign "abs_path" [madeOf "bw_absolute_path" "1"]),
  .located (n + 3) (.ifThen [.located (n + 3) isDirectory]
    [.located (n + 4) (assignQuoted "source_dir" [ref "abs_path"])]
    [.located (n + 6) (assign "source_dir" [madeOf "dirname" "abs_path"])]),
  .located (n + 8) (run [bare "echo", [.double [ref "source_dir", .text ":/bw_automount", ref "source_dir"]]])]

def volumeBody (n : Nat) : Command := .located n (.group (volumeLines n))

-- `if [ "$existing" = "$spec" ]; then return 0; fi`
def knownReturn (n : Nat) : Command :=
  .ifThen [.located n (bracket [quotedRef "existing", bare "=", quotedRef "spec"])]
    [.located (n + 1) (say ["return", "0"])] []

def addLines (n : Nat) : Script := [
  .located (n + 1) (run [bare "local", [.text "spec=", .double [ref "1"]]]),
  .located (n + 2) (say ["local", "existing"]),
  .located (n + 3) (.forIn "existing" (some [Docker.mounts]) [.located (n + 4) (knownReturn (n + 4))]),
  .located (n + 8) (addItems "BW_EXTRA_MOUNTS" [bare "-v", quotedRef "spec"])]

def addBody (n : Nat) : Command := .located n (.group (addLines n))

set_option maxRecDepth 100000 in
theorem absolute_read : (Program.read false (Text.unlines Wrapper.Functions.absolutePath)).script =
    [.located 5 (.function "bw_absolute_path" (absoluteBody 5))] := by
  apply script_read
  case chars =>
    apply unlines_chars
    dsimp only [Wrapper.Functions.absolutePath]
    repeat' with_reducible first
      | exact .nil
      | apply List.Forall₂.cons
      | exact String.toList_ofList
  case open_ => decide
  case same => decide +kernel

set_option maxRecDepth 100000 in
theorem automount_read : (Program.read false (Text.unlines Wrapper.Functions.automount)).script =
    [.located 4 (.function "bw_automount" (automountBody 4)),
      .located 19 (.function "bw_automount_arg" (volumeBody 19)),
      .located 31 (.function "bw_add_mount" (addBody 31))] := by
  apply script_read
  case chars =>
    apply unlines_chars
    dsimp only [Wrapper.Functions.automount, Wrapper.Functions.automountRoot]
    repeat' with_reducible first
      | exact .nil
      | apply List.Forall₂.cons
      | exact String.toList_ofList
      | apply append_chars
  case open_ => decide
  case same => decide +kernel

theorem absolute_provided {s : Session} (provides : Provides s Wrapper.Functions.absolutePath) :
    ∃ f n, s.functions.lookup "bw_absolute_path" = some f ∧ f.body = absoluteBody n := by
  obtain ⟨n, all⟩ := provides
  rw [absolute_read] at all
  obtain ⟨f, found, body⟩ := all _ _ _ (List.mem_singleton_self _)
  exact ⟨f, n + 5, found, body⟩

section Provided

variable {s : Session} (provides : Provides s Wrapper.Functions.automount)

include provides

theorem automount_provided : ∃ f n, s.functions.lookup "bw_automount" = some f ∧ f.body = automountBody n := by
  obtain ⟨n, all⟩ := provides
  rw [automount_read] at all
  obtain ⟨f, found, body⟩ := all _ _ _ (List.mem_cons_self ..)
  exact ⟨f, n + 4, found, body⟩

theorem volume_provided : ∃ f n, s.functions.lookup "bw_automount_arg" = some f ∧ f.body = volumeBody n := by
  obtain ⟨n, all⟩ := provides
  rw [automount_read] at all
  obtain ⟨f, found, body⟩ := all _ _ _ (List.mem_cons_of_mem _ (List.mem_cons_self ..))
  exact ⟨f, n + 19, found, body⟩

theorem add_provided : ∃ f n, s.functions.lookup "bw_add_mount" = some f ∧ f.body = addBody n := by
  obtain ⟨n, all⟩ := provides
  rw [automount_read] at all
  obtain ⟨f, found, body⟩ := all _ _ _ (List.mem_cons_of_mem _ (List.mem_cons_of_mem _ (List.mem_cons_self ..)))
  exact ⟨f, n + 31, found, body⟩

end Provided

end Toolwrap.Mounting
