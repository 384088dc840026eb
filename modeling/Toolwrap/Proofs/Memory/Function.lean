import Toolwrap.Proofs.Integers.Less
import Toolwrap.Proofs.Memory.Shape
import Toolwrap.Proofs.Running.Reporting

-- The function that makes a number of bytes of an amount of memory, as it is read from its
-- text: the amount is matched, taken apart, and computed from the last digit on.

namespace Toolwrap.Memory

open Shell Running

-- `$(echo "$1" | tr '[:upper:]' '[:lower:]' | tr -d '[:space:]')`
def normalising : Word :=
  [.output [.pipe (.located 0 (run [bare "echo", quotedRef "1"]))
    (.pipe (.located 0 (run [bare "tr", [.single "[:upper:]"], [.single "[:lower:]"]]))
      (.located 0 (run [bare "tr", bare "-d", [.single "[:space:]"]])))]]

-- What an amount is refused with: a message, and the status one.
def refusal (message : List Part) (line : Nat) : Script :=
  [.located line (run [bare "bw_error", [.double message]]), .located (line + 1) (say ["return", "1"])]

def malformed : List Part :=
  [.text "Invalid memory value '", ref "1", .text "': expected e.g. 512MB, 2GB or 1.5TB."]

def tooLarge : List Part :=
  [.text "Memory value '", ref "1", .text "' is too large: at most 9223372036854775807 bytes are supported."]

-- What a group of the expression matched.
def matched (group : String) : Part := .param "BASH_REMATCH" [.text group] .braced

def unitClause (line : Nat) (patterns : List Word) (u : ByteUnit) : Clause :=
  .branch patterns [.located line (assign "multiplier" (bare (toString u.bytes)))] .leave

def unitCase (n : Nat) : Command :=
  .caseOf [.double [matched "3"]] [
    unitClause n [[.single ""], bare "b"] .b,
    unitClause (n + 1) [bare "k", bare "kb"] .kb,
    unitClause (n + 2) [bare "m", bare "mb"] .mb,
    unitClause (n + 3) [bare "g", bare "gb"] .gb,
    unitClause (n + 4) [bare "t", bare "tb"] .tb,
    unitClause (n + 5) [bare "p", bare "pb"] .pb]

-- `$(( (${frac_part:i:1} * multiplier + frac_bytes) / 10 ))`
def stepParts : List Part :=
  [.text " ", .text "(", .param "frac_part" [] (.slice (bare "i") (bare "1")),
    .text " * multiplier + frac_bytes", .text ")", .text " / 10 "]

-- `for ((i = ${#frac_part} - 1; i >= 0; i--))`
def fractionLoop (line : Nat) : Command :=
  .forArith [.text " i = ", .param "frac_part" [] .length, .text " - 1"] [.text " i >= 0"] [.text " i-- "]
    [.located line (assign "frac_bytes" [.arith stepParts])]

-- `$(( (9223372036854775807 - frac_bytes) / multiplier ))`
def limitParts : List Part :=
  [.text " ", .text "(", .text "9223372036854775807 - frac_bytes", .text ")", .text " / multiplier "]

-- `$(( 10#$int_part * multiplier + frac_bytes ))`
def bytesParts : List Part := [.text " 10#", ref "int_part", .text " * multiplier + frac_bytes "]

def memoryLines (n : Nat) : Script := [
  .located (n + 1) (say ["local", "memory"]),
  .located (n + 2) (assign "memory" normalising),
  .located (n + 3) (run [bare "local", [.text "regex=", .single shapeText]]),
  .located (n + 4) (.ifThen
    [.located (n + 4) (.test (.not (.binary (quotedRef "memory") "=~" [ref "regex"])))]
    (refusal malformed (n + 5)) []),
  .located (n + 8) (run [bare "local", [.text "number=", .double [matched "1"]]]),
  .located (n + 9) (say ["local", "multiplier"]),
  .located (n + 10) (unitCase (n + 11)),
  .located (n + 18) (run [bare "local",
    [.text "int_part=", .double [.param "number" [] (.trim true false (bare ".*"))]]]),
  .located (n + 19) (run [bare "local", [.text "frac_part=", .double []]]),
  .located (n + 20) (.ifThen [.located (n + 20) (.test (.binary (quotedRef "number") "==" (bare "*.*")))]
    [.located (n + 21) (assignQuoted "frac_part" [.param "number" [] (.trim false false (bare "*."))])] []),
  .located (n + 23) (Integers.zerosOff "int_part"),
  .located (n + 24) (assignQuoted "int_part" [.param "int_part" [] (.default .use true (bare "0"))]),
  .located (n + 26) (say ["local", "frac_bytes=0", "i"]),
  .located (n + 27) (fractionLoop (n + 28)),
  .located (n + 30) (.ifThen
    [.located (n + 30) (run [bare "bw_integer_less", [.arith limitParts], quotedRef "int_part"])]
    (refusal tooLarge (n + 31)) []),
  .located (n + 34) (run [bare "echo", [.arith bytesParts]])]

def memoryBody (n : Nat) : Command := .located n (.group (memoryLines n))

set_option maxRecDepth 100000 in
theorem memory_read : (Program.read false (Text.unlines Wrapper.Functions.memoryAsBytes)).script =
    [.located 4 (.function "bw_memory_as_bytes" (memoryBody 4))] := by
  apply script_read
  case chars =>
    apply unlines_chars
    dsimp only [Wrapper.Functions.memoryAsBytes, Wrapper.Functions.size]
    repeat' with_reducible first
      | exact .nil
      | apply List.Forall₂.cons
      | exact String.toList_ofList
      | exact number_chars _
      | apply append_chars
  case open_ => decide
  case same => decide +kernel

theorem memory_provided {s : Session} (provides : Provides s Wrapper.Functions.memoryAsBytes) :
    ∃ f n, s.functions.lookup "bw_memory_as_bytes" = some f ∧ f.body = memoryBody n := by
  obtain ⟨n, all⟩ := provides
  rw [memory_read] at all
  obtain ⟨f, found, body⟩ := all _ _ _ (List.mem_singleton_self _)
  exact ⟨f, n + 4, found, body⟩

-- `echo "[$BW_META_FUNCTIONALITY_NAME] WARNING: $*" >&2`
def warningEcho : Command :=
  .simple [] [bare "echo",
    [.double [.text "[", ref "BW_META_FUNCTIONALITY_NAME", .text "] WARNING: ", ref "*"]]]
    [.mk 1 .duplicate (bare "2")]

set_option maxRecDepth 100000 in
theorem reporting_read : (Program.read false (Text.unlines Wrapper.Functions.reporting)).script =
    [.located 2 (.function "bw_error" (.located 2 (.group [.located 3 errorEcho]))),
      .located 5 (.function "bw_warning" (.located 5 (.group [.located 6 warningEcho])))] := by
  apply script_read
  case chars =>
    apply unlines_chars
    dsimp only [Wrapper.Functions.reporting]
    repeat' with_reducible first
      | exact .nil
      | apply List.Forall₂.cons
      | exact String.toList_ofList
  case open_ => decide
  case same => decide +kernel

theorem error_provided {s : Session} (provides : Provides s Wrapper.Functions.reporting) :
    Defines s "bw_error" errorEcho := by
  obtain ⟨n, all⟩ := provides
  rw [reporting_read] at all
  obtain ⟨f, found, body⟩ := all _ _ _ (List.mem_cons_self ..)
  exact ⟨f, n + 2, n + 3, found, body⟩

end Toolwrap.Memory
