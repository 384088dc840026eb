import Toolwrap.Release
import Toolwrap.Wrapper.Help

-- Generated texts line by line. In the head of a wrapper there are empty lines and comments between its
-- first line and its last one, unless the name or the version of the component goes on behind a line
-- feed. What stands on a line between line feeds is also a line of the text at all line ends, unless one
-- of the other line ends cuts it.

namespace Toolwrap.Quoting

open Wrapper

section Lines

variable {text behind first : List Char} {others : List (List Char)} {c : Char}

def linesOf (text : List Char) : List (List Char) := Text.Chars.splitAt '\n' text

-- A line that a shell passes over.
def IsIdle (line : List Char) : Prop := line = [] ∨ line.head? = some '#'

instance (line : List Char) : Decidable (IsIdle line) := inferInstanceAs (Decidable (_ ∨ _))

theorem linesOf_filled (text : List Char) : ∃ first others, linesOf text = first :: others := by
  cases text with
  | nil => exact ⟨[], [], rfl⟩
  | cons c text =>
    unfold linesOf
    rw [Text.Chars.splitAt]
    split
    · exact ⟨_, _, rfl⟩
    · split
      · exact ⟨_, _, rfl⟩
      · exact ⟨_, _, rfl⟩

theorem linesOf_cons (other : c ≠ '\n') (lines : linesOf text = first :: others) :
    linesOf (c :: text) = (c :: first) :: others := by
  unfold linesOf at lines ⊢
  rw [Text.Chars.splitAt, if_neg other, lines]

theorem linesOf_feed : linesOf ('\n' :: text) = [] :: linesOf text := by
  unfold linesOf
  rw [Text.Chars.splitAt, if_pos rfl]

theorem linesOf_append : linesOf (text ++ '\n' :: behind) = linesOf text ++ linesOf behind := by
  induction text with
  | nil => exact linesOf_feed
  | cons c text more =>
    by_cases feed : c = '\n'
    · rw [feed, List.cons_append, linesOf_feed, linesOf_feed, more, List.cons_append]
    · obtain ⟨first, others, lines⟩ := linesOf_filled text
      rw [lines, List.cons_append] at more
      rw [List.cons_append, linesOf_cons feed more, linesOf_cons feed lines, List.cons_append]

-- What stands in front of a text stands in front of its first line.
theorem linesOf_front (closed : '\n' ∉ text) (lines : linesOf behind = first :: others) :
    linesOf (text ++ behind) = (text ++ first) :: others := by
  induction text with
  | nil => exact lines
  | cons c text more =>
    have other : c ≠ '\n' := fun feed => closed (feed ▸ List.mem_cons_self ..)
    exact linesOf_cons other (more fun member => closed (List.mem_cons_of_mem _ member))

theorem linesOf_closed (closed : '\n' ∉ text) : linesOf text = [text] := by
  have whole := @linesOf_front text [] [] [] closed rfl
  rwa [List.append_nil] at whole

end Lines

section Header

variable (title generator : String)

theorem header_chars : (header title generator).toList =
    "#!/usr/bin/env bash".toList ++ '\n' :: ([] ++ '\n' :: (("# ".toList ++ title.toList) ++ '\n' ::
      ("#".toList ++ '\n' :: (("# This wrapper script is auto-generated by bashwrap ".toList ++
        (generator ++ ".").toList) ++ '\n' ::
        ("# Rebuild it from the component description instead of editing it.".toList ++ '\n' ::
          ([] ++ '\n' :: "set -e".toList)))))) := by
  simp [header, Text.unlines, String.intercalate_cons_cons]

-- The lines between the first and the last one that the title and the release have no say in.
theorem fixed_closed : ∀ text ∈ ["#!/usr/bin/env bash", "# ", "#",
    "# This wrapper script is auto-generated by bashwrap ",
    "# Rebuild it from the component description instead of editing it.", "set -e"],
    '\n' ∉ text.toList := by decide

-- Behind its first line, a title is a row of lines of the script; so is the name of a release.
theorem header_lines : ∃ middle,
    linesOf (header title generator).toList =
        "#!/usr/bin/env bash".toList :: middle ++ ["set -e".toList] ∧
      ((∀ line ∈ middle, IsIdle line) ↔
        ∀ line ∈ (linesOf title.toList).tail ++ (linesOf (generator ++ ".").toList).tail, IsIdle line) := by
  have fixed (text : String) (listed : text ∈ _) := linesOf_closed (fixed_closed text listed)
  obtain ⟨named, more, titled⟩ := linesOf_filled title.toList
  obtain ⟨made, others, released⟩ := linesOf_filled (generator ++ ".").toList
  have nothing : linesOf [] = [[]] := rfl
  rw [header_chars, linesOf_append, linesOf_append, linesOf_append, linesOf_append, linesOf_append,
    linesOf_append, linesOf_append, fixed "#!/usr/bin/env bash" (by decide), fixed "#" (by decide),
    fixed "# Rebuild it from the component description instead of editing it." (by decide),
    fixed "set -e" (by decide), linesOf_front (fixed_closed "# " (by decide)) titled,
    linesOf_front (fixed_closed "# This wrapper script is auto-generated by bashwrap " (by decide)) released,
    nothing, titled, released]
  refine ⟨[[]] ++ (("# ".toList ++ named) :: more ++ (["#".toList] ++
    (("# This wrapper script is auto-generated by bashwrap ".toList ++ made) :: others ++
      (["# Rebuild it from the component description instead of editing it.".toList] ++ [[]])))), ?_, ?_⟩
  · simp
  · simp [IsIdle, or_imp, forall_and]

end Header

-- The head is nothing but comments and empty lines, if the title is but one line, or if its other
-- lines are such lines themselves.
theorem header_idle_iff (name : String) (version : Value) :
    (∀ line ∈ (linesOf (header (title name version) release).toList).tail.dropLast, IsIdle line) ↔
      ∀ line ∈ (linesOf (title name version).toList).tail, IsIdle line := by
  obtain ⟨middle, lines, idle⟩ := header_lines (title name version) release
  have released : '\n' ∉ (release ++ ".").toList := by decide
  rw [linesOf_closed released, List.tail_cons, List.append_nil] at idle
  rw [lines, List.cons_append, List.tail_cons, List.dropLast_concat]
  exact idle

-- A version with a line feed: what is behind it is a command of the wrapper.
theorem version_injected :
    ¬∀ line ∈ (linesOf (header (title "tool" (.text "1.0\necho injected")) release).toList).tail.dropLast,
      IsIdle line := by
  obtain ⟨middle, lines, idle⟩ := header_lines (title "tool" (.text "1.0\necho injected")) release
  rw [lines, List.cons_append, List.tail_cons, List.dropLast_concat, idle]
  intro all
  have command : IsIdle "echo injected".toList :=
    all _ (List.mem_append_left _ (List.mem_singleton_self _))
  exact absurd command (by decide)

-- With a name and a version on one line each, the head is nothing but comments.
theorem header_idle {name : String} {version : Value} (named : '\n' ∉ name.toList)
    (versioned : '\n' ∉ version.display.toList) : ∃ middle,
      linesOf (header (title name version) release).toList =
          "#!/usr/bin/env bash".toList :: middle ++ ["set -e".toList] ∧
        ∀ line ∈ middle, IsIdle line := by
  have titled : '\n' ∉ (title name version).toList := by
    unfold title
    split
    · simp [named, versioned]
    · exact named
  have released : '\n' ∉ (release ++ ".").toList := by decide
  obtain ⟨middle, lines, idle⟩ := header_lines (title name version) release
  refine ⟨middle, lines, idle.mpr ?_⟩
  rw [linesOf_closed titled, linesOf_closed released]
  exact nofun

section Uncut

variable {text first line : List Char} {others : List (List Char)}

-- A line that no other line end cuts.
def Uncut (line : List Char) : Prop := ∀ c ∈ line, Text.isLineEnd c = false

theorem feed_ends : Text.isLineEnd '\n' = true := by decide

theorem return_ends : Text.isLineEnd '\r' = true := by decide

-- Up to its first line feed a text has the same first line both ways, if nothing else cuts it.
theorem first_line (split : linesOf text = first :: others) (uncut : Uncut first) :
    text = [] ∨ ∃ more, Text.Chars.lines text = first :: more := by
  fun_induction Text.Chars.lines text generalizing first others with
  | case1 => exact Or.inl rfl
  | case2 rest _ =>
    obtain ⟨next, later, lines⟩ := linesOf_filled ('\n' :: rest)
    rw [linesOf_cons (by decide) lines] at split
    obtain ⟨rfl, rfl⟩ := List.cons.inj split
    exact absurd (uncut '\r' (List.mem_cons_self ..)) (by rw [return_ends]; decide)
  | case3 c rest _ ends _ =>
    by_cases feed : c = '\n'
    · rw [feed, linesOf_feed] at split
      exact Or.inr ⟨_, congrArg (· :: _) (List.cons.inj split).1⟩
    · obtain ⟨next, later, lines⟩ := linesOf_filled rest
      rw [linesOf_cons feed lines] at split
      obtain ⟨rfl, rfl⟩ := List.cons.inj split
      exact absurd (uncut c (List.mem_cons_self ..)) (by rw [ends]; decide)
  | case4 c rest _ goes none_ found =>
    have other : c ≠ '\n' := fun feed => goes (feed ▸ feed_ends)
    obtain ⟨next, later, lines⟩ := linesOf_filled rest
    rw [linesOf_cons other lines] at split
    obtain ⟨rfl, rfl⟩ := List.cons.inj split
    rcases found lines fun d member => uncut d (List.mem_cons_of_mem _ member) with rfl | ⟨more, same⟩
    · obtain ⟨rfl, _⟩ := List.cons.inj lines
      exact Or.inr ⟨[], rfl⟩
    · rw [none_] at same
      cases same
  | case5 c rest _ goes line more shape found =>
    have other : c ≠ '\n' := fun feed => goes (feed ▸ feed_ends)
    obtain ⟨next, later, lines⟩ := linesOf_filled rest
    rw [linesOf_cons other lines] at split
    obtain ⟨rfl, rfl⟩ := List.cons.inj split
    rcases found lines fun d member => uncut d (List.mem_cons_of_mem _ member) with rfl | ⟨after, same⟩
    · cases shape
    · rw [shape] at same
      obtain ⟨rfl, _⟩ := List.cons.inj same
      exact Or.inr ⟨_, rfl⟩

theorem first_listed (split : linesOf text = first :: others) (uncut : Uncut first) (filled : first ≠ []) :
    first ∈ Text.Chars.lines text := by
  rcases first_line split uncut with rfl | ⟨more, lines⟩
  · exact absurd (List.cons.inj split).1.symm filled
  · rw [lines]
    exact List.mem_cons_self ..

theorem listed_of_tail (uncut : Uncut line) (filled : line ≠ []) (member : line ∈ linesOf text)
    (tail : line ∈ (linesOf text).tail → line ∈ (Text.Chars.lines text).tail) :
    line ∈ Text.Chars.lines text := by
  obtain ⟨first, others, lines⟩ := linesOf_filled text
  rw [lines] at member tail
  rcases List.mem_cons.mp member with rfl | later
  · exact first_listed lines uncut filled
  · exact List.mem_of_mem_tail (tail later)

-- A line behind the first line feed stands behind the first line end too.
theorem tail_listed (uncut : Uncut line) (filled : line ≠ []) (member : line ∈ (linesOf text).tail) :
    line ∈ (Text.Chars.lines text).tail := by
  fun_induction Text.Chars.lines text with
  | case1 => cases member
  | case2 rest more =>
    rw [linesOf_cons (by decide) linesOf_feed] at member
    exact listed_of_tail uncut filled member more
  | case3 c rest _ ends more =>
    by_cases feed : c = '\n'
    · rw [feed, linesOf_feed] at member
      exact listed_of_tail uncut filled member more
    · obtain ⟨next, later, lines⟩ := linesOf_filled rest
      rw [linesOf_cons feed lines] at member
      rw [lines] at more
      exact List.mem_of_mem_tail (more member)
  | case4 c rest _ goes none_ more =>
    have other : c ≠ '\n' := fun feed => goes (feed ▸ feed_ends)
    obtain ⟨next, later, lines⟩ := linesOf_filled rest
    rw [linesOf_cons other lines] at member
    rw [lines, none_] at more
    exact more member
  | case5 c rest _ goes front after shape more =>
    have other : c ≠ '\n' := fun feed => goes (feed ▸ feed_ends)
    obtain ⟨next, later, lines⟩ := linesOf_filled rest
    rw [linesOf_cons other lines] at member
    rw [lines, shape] at more
    exact more member

-- A line between line feeds that nothing else cuts is one of the lines at all line ends.
theorem line_listed (uncut : Uncut line) (filled : line ≠ []) (member : line ∈ linesOf text) :
    line ∈ Text.Chars.lines text :=
  listed_of_tail uncut filled member (tail_listed uncut filled)

end Uncut

end Toolwrap.Quoting
