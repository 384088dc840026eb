import Mathlib.Data.List.TakeWhile
import Toolwrap.Resource

-- Which lines make room for the code that is put into a script. The lines are gone over once; what is
-- found are the first line with the start mark and the first line behind it with the end mark.

namespace Toolwrap.Injection

-- A comment, perhaps behind blanks, with the mark somewhere in it.
structure Marked (mark line : String) : Prop where
  comment : ∃ blanks rest, line.toList = blanks ++ '#' :: rest ∧ ∀ c ∈ blanks, Text.isBlank c = true
  held : mark.toList <:+: line.toList

section Lines

variable {mark line : String}

theorem occursIn_iff (part s : String) : Text.occursIn part s = true ↔ part.toList <:+: s.toList := by
  unfold Text.occursIn
  induction s.toList with
  | nil => rw [Text.occursIn.go, String.isEmpty_iff, List.infix_nil, String.toList_eq_nil_iff]
  | cons c rest more =>
    rw [Text.occursIn.go, Bool.or_eq_true, List.isPrefixOf_iff_prefix, more, List.infix_cons_iff]

theorem isComment_iff : isComment line = true ↔
    ∃ blanks rest, line.toList = blanks ++ '#' :: rest ∧ ∀ c ∈ blanks, Text.isBlank c = true := by
  unfold isComment Text.Chars.stripLeft
  rw [beq_iff_eq, List.head?_eq_some_iff]
  constructor
  · rintro ⟨rest, bare⟩
    refine ⟨line.toList.takeWhile Text.isBlank, rest, ?_, fun c member => List.mem_takeWhile_imp member⟩
    rw [← bare, List.takeWhile_append_dropWhile]
  · rintro ⟨blanks, rest, shape, blank⟩
    refine ⟨rest, ?_⟩
    rw [shape, List.dropWhile_append_of_pos blank, List.dropWhile_cons_of_neg (by decide)]

theorem hasMark_iff : hasMark mark line = true ↔ Marked mark line := by
  rw [hasMark, Bool.and_eq_true, isComment_iff, occursIn_iff]
  exact ⟨fun ⟨comment, held⟩ => ⟨comment, held⟩, fun ⟨comment, held⟩ => ⟨comment, held⟩⟩

end Lines

-- The least number, from a given one on, of a line with the mark.
structure FirstMarked (mark : String) (lines : List String) (first i : Nat) : Prop where
  behind : first ≤ i
  marked : ∃ line, lines[i]? = some line ∧ Marked mark line
  least : ∀ j line, first ≤ j → lines[j]? = some line → Marked mark line → i ≤ j

-- The first line with the start mark, and the first line behind it with the end mark.
structure Block (lines : List String) (first last : Nat) : Prop where
  starts : FirstMarked startMark lines 0 first
  ends : FirstMarked endMark lines (first + 1) last

section Firsts

variable {mark line : String} {lines : List String} {first i : Nat}

theorem firstMarked_nil : ¬ FirstMarked mark [] first i := by
  rintro ⟨-, ⟨line, none_, -⟩, -⟩
  cases none_

theorem firstMarked_here (here : Marked mark line) : FirstMarked mark (line :: lines) 0 i ↔ i = 0 := by
  constructor
  · exact fun found => Nat.le_zero.mp (found.least 0 line (Nat.le_refl 0) rfl here)
  · rintro rfl
    exact ⟨Nat.le_refl 0, ⟨line, rfl, here⟩, fun j _ _ _ _ => Nat.zero_le j⟩

-- Of the lines behind the first one, the numbers are one less without it.
theorem firstMarked_behind :
    FirstMarked mark (line :: lines) (first + 1) (i + 1) ↔ FirstMarked mark lines first i := by
  constructor
  · rintro ⟨behind, marked, least⟩
    refine ⟨Nat.le_of_succ_le_succ behind, marked, fun j other from_ listed has => ?_⟩
    exact Nat.le_of_succ_le_succ (least (j + 1) other (Nat.succ_le_succ from_) listed has)
  · rintro ⟨behind, marked, least⟩
    refine ⟨Nat.succ_le_succ behind, marked, fun j other from_ listed has => ?_⟩
    cases j with
    | zero => exact absurd from_ (Nat.not_succ_le_zero _)
    | succ j => exact Nat.succ_le_succ (least j other (Nat.le_of_succ_le_succ from_) listed has)

theorem firstMarked_next (other : ¬ Marked mark line) :
    FirstMarked mark (line :: lines) 0 i ↔ ∃ k, i = k + 1 ∧ FirstMarked mark lines 0 k := by
  have later : FirstMarked mark (line :: lines) 0 i → ∃ k, i = k + 1 := by
    rintro ⟨-, ⟨found, listed, has⟩, -⟩
    cases i with
    | zero =>
      obtain rfl := Option.some.inj listed
      exact absurd has other
    | succ k => exact ⟨k, rfl⟩
  have widened : ∀ k, FirstMarked mark (line :: lines) 0 (k + 1) ↔ FirstMarked mark (line :: lines) 1 (k + 1) := by
    refine fun k => ⟨fun ⟨_, marked, least⟩ => ?_, fun ⟨_, marked, least⟩ => ?_⟩
    · exact ⟨Nat.succ_le_succ (Nat.zero_le k), marked, fun j found _ => least j found (Nat.zero_le j)⟩
    · refine ⟨Nat.zero_le _, marked, fun j found _ listed has => ?_⟩
      cases j with
      | zero =>
        obtain rfl := Option.some.inj listed
        exact absurd has other
      | succ j => exact least _ found (Nat.succ_le_succ (Nat.zero_le j)) listed has
  constructor
  · intro found
    obtain ⟨k, rfl⟩ := later found
    exact ⟨k, rfl, firstMarked_behind.mp ((widened k).mp found)⟩
  · rintro ⟨k, rfl, found⟩
    exact (widened k).mpr (firstMarked_behind.mpr found)

end Firsts

section Blocks

variable {line : String} {lines : List String} {number first last : Nat}

theorem block_nil : ¬ Block [] first last := fun block => firstMarked_nil block.starts

theorem block_here (here : Marked startMark line) :
    Block (line :: lines) first last ↔ first = 0 ∧ ∃ k, last = k + 1 ∧ FirstMarked endMark lines 0 k := by
  constructor
  · rintro ⟨starts, ends⟩
    obtain rfl := (firstMarked_here here).mp starts
    cases last with
    | zero => exact absurd ends.behind (Nat.not_succ_le_zero _)
    | succ k => exact ⟨rfl, k, rfl, firstMarked_behind.mp ends⟩
  · rintro ⟨rfl, k, rfl, ends⟩
    exact ⟨(firstMarked_here here).mpr rfl, firstMarked_behind.mpr ends⟩

theorem block_next (other : ¬ Marked startMark line) :
    Block (line :: lines) first last ↔ ∃ i k, first = i + 1 ∧ last = k + 1 ∧ Block lines i k := by
  constructor
  · rintro ⟨starts, ends⟩
    obtain ⟨i, rfl, started⟩ := (firstMarked_next other).mp starts
    cases last with
    | zero => exact absurd ends.behind (Nat.not_succ_le_zero _)
    | succ k => exact ⟨i, k, rfl, rfl, started, firstMarked_behind.mp ends⟩
  · rintro ⟨i, k, rfl, rfl, started, ended⟩
    exact ⟨(firstMarked_next other).mpr ⟨i, rfl, started⟩, firstMarked_behind.mpr ended⟩

-- Once a block has started, the pass finds the first end mark and nothing else.
theorem blockFrom_started (lines : List String) (begun number : Nat) :
    blockFrom (some begun) number lines = some (first, last) ↔
      first = begun ∧ ∃ k, last = number + k ∧ FirstMarked endMark lines 0 k := by
  induction lines generalizing number with
  | nil =>
    rw [blockFrom]
    exact ⟨nofun, fun ⟨_, k, _, found⟩ => absurd found firstMarked_nil⟩
  | cons line lines more =>
    rw [blockFrom, Option.isNone_some, Bool.and_false, Option.isSome_some, Bool.and_true]
    by_cases here : Marked endMark line
    · rw [if_neg Bool.false_ne_true, if_pos (hasMark_iff.mpr here), Option.map_some, Option.some.injEq, Prod.mk.injEq]
      constructor
      · rintro ⟨rfl, rfl⟩
        exact ⟨rfl, 0, rfl, (firstMarked_here here).mpr rfl⟩
      · rintro ⟨rfl, k, rfl, found⟩
        obtain rfl := (firstMarked_here here).mp found
        exact ⟨rfl, rfl⟩
    · rw [if_neg Bool.false_ne_true, if_neg (mt hasMark_iff.mp here), more]
      refine and_congr_right fun _ => ⟨?_, ?_⟩
      · rintro ⟨k, rfl, found⟩
        exact ⟨k + 1, Nat.add_right_comm number 1 k, (firstMarked_next here).mpr ⟨k, rfl, found⟩⟩
      · rintro ⟨k, rfl, found⟩
        obtain ⟨i, rfl, later⟩ := (firstMarked_next here).mp found
        exact ⟨i, (Nat.add_right_comm number 1 i).symm, later⟩

-- Up to the first start mark, an end mark does not count.
theorem blockFrom_none (lines : List String) (number : Nat) :
    blockFrom none number lines = some (first, last) ↔
      ∃ i k, first = number + i ∧ last = number + k ∧ Block lines i k := by
  induction lines generalizing number with
  | nil =>
    rw [blockFrom]
    exact ⟨nofun, fun ⟨i, k, _, _, block⟩ => absurd block block_nil⟩
  | cons line lines more =>
    rw [blockFrom, Option.isNone_none, Bool.and_true, Option.isSome_none, Bool.and_false]
    by_cases here : Marked startMark line
    · rw [if_pos (hasMark_iff.mpr here), blockFrom_started]
      constructor
      · rintro ⟨rfl, k, rfl, ends⟩
        exact ⟨0, k + 1, rfl, Nat.add_right_comm _ 1 k, (block_here here).mpr ⟨rfl, k, rfl, ends⟩⟩
      · rintro ⟨i, k, rfl, rfl, block⟩
        obtain ⟨rfl, k, rfl, ends⟩ := (block_here here).mp block
        exact ⟨rfl, k, (Nat.add_right_comm _ 1 k).symm, ends⟩
    · rw [if_neg (mt hasMark_iff.mp here), if_neg Bool.false_ne_true, more]
      constructor
      · rintro ⟨i, k, rfl, rfl, block⟩
        exact ⟨i + 1, k + 1, Nat.add_right_comm number 1 i, Nat.add_right_comm number 1 k,
          (block_next here).mpr ⟨i, k, rfl, rfl, block⟩⟩
      · rintro ⟨i, k, rfl, rfl, block⟩
        obtain ⟨m, n, rfl, rfl, later⟩ := (block_next here).mp block
        exact ⟨m, n, (Nat.add_right_comm number 1 m).symm, (Nat.add_right_comm number 1 n).symm, later⟩

theorem markedBlock_iff (lines : List String) : markedBlock? lines = some (first, last) ↔ Block lines first last := by
  rw [markedBlock?, blockFrom_none]
  constructor
  · rintro ⟨i, k, rfl, rfl, block⟩
    rwa [Nat.zero_add, Nat.zero_add]
  · exact fun block => ⟨first, last, (Nat.zero_add _).symm, (Nat.zero_add _).symm, block⟩

end Blocks

-- Where the code is put into lines without a block.
def topOf (lines : List String) : Nat := if lines.head?.any namesInterpreter then 1 else 0

section Injected

variable {block lines : List String} {first last : Nat}

theorem inject_block (found : Block lines first last) :
    inject block lines = lines.take first ++ block ++ lines.drop (last + 1) := by
  unfold inject
  rw [(markedBlock_iff lines).mpr found]

theorem inject_top (none_ : ¬ ∃ first last, Block lines first last) :
    inject block lines = lines.take (topOf lines) ++ block ++ lines.drop (topOf lines) := by
  have missed : markedBlock? lines = none := by
    rw [Option.eq_none_iff_forall_ne_some]
    exact fun ⟨first, last⟩ found => none_ ⟨first, last, (markedBlock_iff lines).mp found⟩
  unfold inject topOf
  rw [missed]
  cases lines with
  | nil => exact (List.append_nil block).symm
  | cons line rest =>
    rw [List.head?_cons, Option.any_some]
    by_cases named : namesInterpreter line = true
    · rw [if_pos named]
      exact if_pos named
    · rw [if_neg named]
      exact if_neg named

end Injected

section Rendered

variable (r : Resource) (language : Language) (arguments : List Argument) (t : FileTree) (here : Place) {text : String}

-- The code takes the place of the block, whatever other marks there are. Without a block it goes to the
-- top, behind the line that names the interpreter.
theorem block_replaced (read : r.content t here >>= Value.needText = .ok text) :
    ∃ out, r.render language arguments t here = .ok (Text.unlines out ++ "\n") ∧
      (∀ first last, Block (Text.lines text) first last →
        out = (Text.lines text).take first ++ language.parameterBlock arguments ++ (Text.lines text).drop (last + 1)) ∧
      ((¬ ∃ first last, Block (Text.lines text) first last) →
        out = (Text.lines text).take (topOf (Text.lines text)) ++ language.parameterBlock arguments ++
          (Text.lines text).drop (topOf (Text.lines text))) := by
  refine ⟨inject (language.parameterBlock arguments) (Text.lines text), ?_, fun first last => inject_block, inject_top⟩
  rw [Resource.render, ← bind_assoc, read]
  rfl

end Rendered

-- A start behind an end, a line with both marks, and a second start in the block.
def nestedText : String :=
  "#!/bin/sh\n# BASHWRAP END\n  # BASHWRAP START BASHWRAP END\n# BASHWRAP START\n# BASHWRAP END\nls\n"

def nested : Resource where
  kind := .script .bash
  text := .text nestedText
  dest := .text "main.sh"
  base := Path.parse "/"

theorem block_replaced_at_nested : ∃ out, nested.render .bash [] ⟨[]⟩ [] = .ok (Text.unlines out ++ "\n") ∧
    out = ["#!/bin/sh", "# BASHWRAP END"] ++ Language.bash.parameterBlock [] ++ ["ls"] := by
  obtain ⟨out, rendered, replaced, -⟩ := @block_replaced nested .bash [] ⟨[]⟩ [] nestedText rfl
  have lines : Text.lines nestedText = ["#!/bin/sh", "# BASHWRAP END", "  # BASHWRAP START BASHWRAP END",
      "# BASHWRAP START", "# BASHWRAP END", "ls"] := by decide +kernel
  have found : markedBlock? (Text.lines nestedText) = some (2, 4) := by decide +kernel
  have shape := replaced 2 4 ((markedBlock_iff _).mp found)
  rw [lines] at shape
  exact ⟨out, rendered, shape⟩

end Toolwrap.Injection
