import Mathlib.Data.Finset.Card
import Mathlib.Order.Bounds.Basic
import Toolwrap.Proofs.Quoting.Lines
import Toolwrap.Proofs.Running.Numerals

-- The mark that closes a text. A name is tried first, then the same name with 1, 2, 3 and so on behind
-- it, until one is no line of the text. No mark is tried twice, so that each one that is given up takes
-- a line of its own, and the search is over when the lines are. The lines are those at all line ends; a
-- shell compares the mark with the lines between line feeds only.

namespace Toolwrap.Quoting

section Marks

variable {base : String}

def numberedMark (base : String) (n : Nat) : String := s!"{base}_{n + 1}"

-- The marks in the order in which they are tried.
def markAt (base : String) : Nat → String
  | 0 => base
  | n + 1 => numberedMark base n

theorem numberedMark_chars (base : String) (n : Nat) :
    (numberedMark base n).toList = base.toList ++ '_' :: (toString (n + 1)).toList := by
  rw [numberedMark, String.toList_append, String.toList_append, List.append_assoc]
  rfl

theorem numberedMark_injective (base : String) : Function.Injective (numberedMark base) := by
  intro m n same
  have chars := congrArg String.toList same
  rw [numberedMark_chars, numberedMark_chars] at chars
  have values := congrArg Running.numeralValue (List.cons.inj (List.append_cancel_left chars)).2
  rw [Running.toString_value, Running.toString_value] at values
  exact Nat.succ_injective values

theorem numberedMark_ne (base : String) (n : Nat) : base ≠ numberedMark base n := by
  intro same
  have sizes := congrArg List.length (congrArg String.toList same)
  rw [numberedMark_chars, List.length_append, List.length_cons] at sizes
  omega

theorem markAt_injective (base : String) : Function.Injective (markAt base) := by
  intro m n same
  cases m with
  | zero =>
    cases n with
    | zero => rfl
    | succ n => exact absurd same (numberedMark_ne base n)
  | succ m =>
    cases n with
    | zero => exact absurd same.symm (numberedMark_ne base m)
    | succ n => exact congrArg Nat.succ (numberedMark_injective base same)

-- What holds of the characters of the name, of the underscore and of digits holds of those of a mark.
theorem markAt_all {p : Char → Prop} (named : ∀ c ∈ base.toList, p c) (joint : p '_')
    (digits : ∀ c, c.isDigit = true → p c) (n : Nat) : ∀ c ∈ (markAt base n).toList, p c := by
  cases n with
  | zero => exact named
  | succ n =>
    intro c member
    rw [markAt, numberedMark_chars] at member
    rcases List.mem_append.mp member with front | back
    · exact named c front
    · rcases List.mem_cons.mp back with rfl | digit
      · exact joint
      · exact digits c ((Running.toString_numeral (n + 1)).digits c digit)

theorem markAt_filled (filled : base ≠ "") (n : Nat) : (markAt base n).toList ≠ [] := by
  cases n with
  | zero => simpa [markAt] using filled
  | succ n =>
    rw [markAt, numberedMark_chars]
    simp

end Marks

section Search

-- How often a search has counted, and the mark that it is at.
structure Search where
  count : Nat
  mark : String

def Search.start (base : String) : Search := ⟨0, base⟩

-- A mark that is taken gives way to the name with the next number.
def Search.round (taken : List String) (base : String) (s : Search) : Option Search :=
  if s.mark ∈ taken then some ⟨s.count + 1, s!"{base}_{s.count + 1}"⟩ else none

-- The rounds of a search up to the mark that it ends at.
inductive Search.Ends (taken : List String) (base : String) : Nat → Search → Search → Prop where
  | stops {s} : s.round taken base = none → Ends taken base 0 s s
  | goes {s t u rounds} : s.round taken base = some t → Ends taken base rounds t u →
      Ends taken base (rounds + 1) s u

-- What each round keeps: the marks come in their order, and those that were given up are taken.
structure Search.Orderly (taken : List String) (base : String) (s : Search) : Prop where
  named : s.mark = markAt base s.count
  passed : ∀ n < s.count, markAt base n ∈ taken

variable {taken : List String} {base : String} {s t : Search} {rounds : Nat}

theorem start_orderly : (Search.start base).Orderly taken base := ⟨rfl, nofun⟩

theorem round_none : s.round taken base = none ↔ s.mark ∉ taken := by
  simp [Search.round]

theorem round_orderly (orderly : s.Orderly taken base) (next : s.round taken base = some t) :
    t.Orderly taken base ∧ t.count = s.count + 1 := by
  unfold Search.round at next
  split at next
  · rename_i member
    obtain rfl := Option.some.inj next
    refine ⟨⟨rfl, fun n below => ?_⟩, rfl⟩
    rcases Nat.lt_succ_iff_lt_or_eq.mp below with earlier | rfl
    · exact orderly.passed n earlier
    · exact orderly.named ▸ member
  · cases next

theorem ends_orderly (ends : Search.Ends taken base rounds s t) (orderly : s.Orderly taken base) :
    t.Orderly taken base ∧ t.mark ∉ taken ∧ t.count = s.count + rounds := by
  induction ends with
  | stops last => exact ⟨orderly, round_none.mp last, rfl⟩
  | goes next _ more =>
    obtain ⟨later, counted⟩ := round_orderly orderly next
    obtain ⟨final, free, total⟩ := more later
    exact ⟨final, free, by omega⟩

-- The marks that were given up are as many lines.
theorem orderly_few (orderly : s.Orderly taken base) : s.count ≤ taken.toFinset.card := by
  have inside : (Finset.range s.count).image (markAt base) ⊆ taken.toFinset := by
    intro mark member
    obtain ⟨n, below, rfl⟩ := Finset.mem_image.mp member
    exact List.mem_toFinset.mpr (orderly.passed n (Finset.mem_range.mp below))
  calc s.count = ((Finset.range s.count).image (markAt base)).card := by
        rw [Finset.card_image_of_injective _ (markAt_injective base), Finset.card_range]
    _ ≤ taken.toFinset.card := Finset.card_le_card inside

-- Each round leaves one line less to run into.
theorem orderly_ends {s : Search} (orderly : s.Orderly taken base) :
    ∃ rounds t, Search.Ends taken base rounds s t := by
  cases next : s.round taken base with
  | none => exact ⟨0, s, .stops next⟩
  | some t =>
    obtain ⟨later, counted⟩ := round_orderly orderly next
    have fewer : taken.toFinset.card - t.count < taken.toFinset.card - s.count := by
      have few := orderly_few later
      omega
    obtain ⟨rounds, u, ends⟩ := orderly_ends later
    exact ⟨rounds + 1, u, .goes next ends⟩
termination_by taken.toFinset.card - s.count
decreasing_by exact fewer

end Search

section Chosen

variable {text base : String}

def candidates (text base : String) : List String :=
  base :: (List.range ((Text.lines text).length + 1)).map (numberedMark base)

theorem candidates_marks (text base : String) :
    candidates text base = (List.range ((Text.lines text).length + 2)).map (markAt base) := by
  rw [List.range_succ_eq_map, List.map_cons, List.map_map]
  rfl

theorem chosen_first {n : Nat} (free : markAt base n ∉ Text.lines text)
    (passed : ∀ m < n, markAt base m ∈ Text.lines text) (few : n ≤ (Text.lines text).length) :
    freeDelimiter text base = markAt base n := by
  have within : n < ((List.range ((Text.lines text).length + 2)).map (markAt base)).length := by
    rw [List.length_map, List.length_range]
    omega
  have found : ((candidates text base).find? fun mark => mark ∉ Text.lines text) = some (markAt base n) := by
    rw [candidates_marks, List.find?_eq_some_iff_getElem]
    refine ⟨by simpa using free, n, within, by simp, fun m earlier => ?_⟩
    simpa using passed m earlier
  change ((candidates text base).find? fun mark => mark ∉ Text.lines text).getD base = markAt base n
  rw [found]
  rfl

-- The search ends at the mark that is chosen, and there are no more rounds than lines.
theorem freeDelimiter_searched (text base : String) :
    ∃ rounds ≤ (Text.lines text).toFinset.card,
      Search.Ends (Text.lines text) base rounds (.start base) ⟨rounds, freeDelimiter text base⟩ := by
  have begun : (Search.start base).Orderly (Text.lines text) base := start_orderly
  obtain ⟨rounds, ⟨count, mark⟩, ends⟩ := orderly_ends begun
  obtain ⟨orderly, free, counted⟩ := ends_orderly ends begun
  obtain rfl : count = rounds := counted.trans (Nat.zero_add rounds)
  obtain rfl : mark = markAt base count := orderly.named
  have few := orderly_few orderly
  have chosen := chosen_first free orderly.passed (few.trans (List.toFinset_card_le _))
  exact ⟨count, few, chosen ▸ ends⟩

theorem freeDelimiter_first (text base : String) : ∃ n, freeDelimiter text base = markAt base n ∧
    markAt base n ∉ Text.lines text ∧ ∀ m < n, markAt base m ∈ Text.lines text := by
  obtain ⟨rounds, -, ends⟩ := freeDelimiter_searched text base
  obtain ⟨⟨named, passed⟩, free, -⟩ := ends_orderly ends start_orderly
  exact ⟨rounds, named, named ▸ free, passed⟩

theorem digit_named {c : Char} (digit : c.isDigit = true) : Shell.isNameChar c = true := by
  simp [Shell.isNameChar, Char.isAlphanum, digit]

-- A character of a name ends no line.
theorem named_inside {c : Char} (named : Shell.isNameChar c = true) : Text.isLineEnd c = false := by
  by_contra ends
  rw [Bool.not_eq_false] at ends
  have among : c.toNat ∈ [10, 11, 12, 13, 28, 29, 30, 133, 8232, 8233] := by
    simp only [Text.isLineEnd, Text.inRanges, List.any_cons, List.any_nil, Bool.or_false, Bool.or_eq_true,
      Bool.and_eq_true, decide_eq_true_eq] at ends
    simp only [List.mem_cons, List.not_mem_nil, or_false]
    omega
  have unnamed : ∀ n ∈ [10, 11, 12, 13, 28, 29, 30, 133, 8232, 8233],
      Shell.isNameChar (Char.ofNat n) = false := by decide
  have told := unnamed _ among
  rw [Char.ofNat_toNat, named] at told
  cases told

theorem named_uncut {mark : List Char} (named : ∀ c ∈ mark, Shell.isNameChar c = true) : Uncut mark :=
  fun c member => named_inside (named c member)

theorem freeDelimiter_uncut (uncut : Uncut base.toList) : Uncut (freeDelimiter text base).toList := by
  obtain ⟨n, chosen, -⟩ := freeDelimiter_first text base
  rw [chosen]
  exact markAt_all uncut (by decide) (fun c digit => named_inside (digit_named digit)) n

-- No line of a text up to a line feed is the mark that was found for it.
theorem freeDelimiter_clear (uncut : Uncut base.toList) (filled : base ≠ "") :
    (freeDelimiter text base).toList ∉ linesOf text.toList := by
  intro member
  obtain ⟨n, chosen, free, -⟩ := freeDelimiter_first text base
  have solid : (freeDelimiter text base).toList ≠ [] := chosen ▸ markAt_filled filled n
  have listed := List.mem_map_of_mem (line_listed (freeDelimiter_uncut uncut) solid member)
    (f := String.ofList)
  rw [String.ofList_toList, chosen] at listed
  exact free listed

end Chosen

-- For every text and every name, the search comes to its end in no more rounds than the text has
-- different lines: at the name itself, or else at the name with the least number that makes it none of
-- the lines. Cut at line feeds alone, the text has no such line either.
theorem first_free_mark (text base : String) :
    (∃ rounds ≤ (Text.lines text).toFinset.card,
      Search.Ends (Text.lines text) base rounds (.start base) ⟨rounds, freeDelimiter text base⟩) ∧
    (base ∉ Text.lines text → freeDelimiter text base = base) ∧
    (base ∈ Text.lines text → ∃ n, IsLeast {n | 1 ≤ n ∧ s!"{base}_{n}" ∉ Text.lines text} n ∧
      freeDelimiter text base = s!"{base}_{n}") ∧
    (base ≠ "" → (∀ c ∈ base.toList, Text.isLineEnd c = false) →
      freeDelimiter text base ∉ Text.splitAt '\n' text) := by
  obtain ⟨n, chosen, free, passed⟩ := freeDelimiter_first text base
  refine ⟨freeDelimiter_searched text base, fun alone => ?_, fun listed => ?_, fun filled uncut member => ?_⟩
  · cases n with
    | zero => exact chosen
    | succ n => exact absurd (passed 0 (Nat.succ_pos n)) alone
  · cases n with
    | zero => exact absurd listed free
    | succ n =>
      refine ⟨n + 1, ⟨⟨Nat.succ_pos n, free⟩, fun m other => ?_⟩, chosen⟩
      obtain ⟨positive, apart⟩ := other
      obtain ⟨m, rfl⟩ := Nat.exists_eq_succ_of_ne_zero (Nat.ne_zero_of_lt positive)
      exact Nat.le_of_not_lt fun earlier => apart (passed (m + 1) earlier)
  · have clear : (freeDelimiter text base).toList ∉ linesOf text.toList := freeDelimiter_clear uncut filled
    obtain ⟨line, listed, same⟩ := List.mem_map.mp member
    rw [← same, String.toList_ofList] at clear
    exact clear listed

-- A text in which two marks are lines, the second of them behind a carriage return.
def clashing : String := "BWHELP\nend\rBWHELP_1\nBWHELP"

theorem first_free_mark_at_help :
    "BWHELP" ∈ Text.lines clashing ∧ freeDelimiter clashing "BWHELP" = "BWHELP_2" ∧
      "BWHELP_2" ∉ Text.splitAt '\n' clashing ∧
      "BWEOF" ∉ Text.lines clashing ∧ freeDelimiter clashing "BWEOF" = "BWEOF" := by
  have lines : Text.lines clashing = ["BWHELP", "end", "BWHELP_1", "BWHELP"] := by decide +kernel
  have listed : "BWHELP" ∈ Text.lines clashing := by
    rw [lines]
    decide
  have absent : "BWEOF" ∉ Text.lines clashing := by
    rw [lines]
    decide
  obtain ⟨-, -, later, apart⟩ := first_free_mark clashing "BWHELP"
  obtain ⟨n, least, chosen⟩ := later listed
  have few : n ≤ 2 := least.2 ⟨by decide, by rw [lines]; decide⟩
  have positive : 1 ≤ n := least.1.1
  have other : n ≠ 1 := by
    rintro rfl
    refine least.1.2 ?_
    rw [lines]
    decide
  obtain rfl : n = 2 := by omega
  have named : ∀ c ∈ "BWHELP".toList, Shell.isNameChar c = true := List.all_iff_forall_prop.mp (by decide)
  have clear := apart (by decide) (named_uncut named)
  rw [chosen] at clear
  exact ⟨listed, chosen, clear, absent, (first_free_mark clashing "BWEOF").2.1 absent⟩

end Toolwrap.Quoting
