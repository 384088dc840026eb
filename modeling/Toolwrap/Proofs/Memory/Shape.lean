import Toolwrap.Memory
import Toolwrap.Proofs.Running.Matching
import Toolwrap.Shell.Regex.Reader

-- The expression that an amount of memory is matched with, and what its groups match.

namespace Toolwrap.Memory

open Shell Running

def shapeText : String := "^([0-9]+(\\.[0-9]+)?|\\.[0-9]+)([kmgtp]?b?)$"

section Expression

open Regex

def digits : Regex := .times (.set false [.range '0' '9']) 1 none

def pointed : Regex := .seq (.seq .empty (.char '.')) digits

def numberShape : Regex :=
  .either (.seq (.seq .empty digits) (.times (.group 2 pointed) 0 (some 1))) pointed

def prefixes : List Member :=
  [.range 'k' 'k', .range 'm' 'm', .range 'g' 'g', .range 't' 't', .range 'p' 'p']

def unitShape : Regex :=
  .seq (.seq .empty (.times (.set false prefixes) 0 (some 1))) (.times (.char 'b') 0 (some 1))

def shape : Expression where
  regex := .seq (.seq (.seq (.seq .empty .start) (.group 1 numberShape)) (.group 3 unitShape)) .finish
  groups := 3

theorem shape_read : ofMarked? (shapeText.toList.map fun c => (c, false)) = some shape := by
  decide +kernel

end Expression

section Languages

variable {m : List Char}

def numbers : Language Char :=
  1 * runs isDigit * (1 * letters (· == '.') * runs isDigit + 1) + 1 * letters (· == '.') * runs isDigit

def isPrefix (c : Char) : Bool := prefixes.any (·.holds c)

def suffixes : Language Char := 1 * (letters isPrefix + 1) * (letters (· == 'b') + 1)

theorem digits_match : Matches digits (runs isDigit) := by
  refine matches_runs fun w => ?_
  have same : (fun c => [Member.range '0' '9'].any (·.holds c)) = isDigit := by
    funext c
    exact Bool.or_false _
  rw [set_ways, same]

theorem pointed_match : Matches pointed (1 * letters (· == '.') * runs isDigit) :=
  matches_seq (matches_seq matches_empty (matches_char '.')) digits_match

theorem numberShape_match : Matches numberShape numbers :=
  matches_either (matches_seq (matches_seq matches_empty digits_match)
    (matches_optional (matches_group 2 pointed_match))) pointed_match

theorem unitShape_match : Matches unitShape suffixes :=
  matches_seq (matches_seq matches_empty (matches_optional (matches_set prefixes)))
    (matches_optional (matches_char 'b'))

end Languages

-- How an amount is written: its number, and the suffix of its unit.
def Amount.numberText (a : Amount) : List Char :=
  if a.fraction.isEmpty then a.whole else a.whole ++ '.' :: a.fraction

-- A text that states an amount.
structure States (s : List Char) (a : Amount) (suffix : List Char) : Prop where
  whole : ∀ c ∈ a.whole, isDigit c = true
  fraction : ∀ c ∈ a.fraction, isDigit c = true
  filled : a.fraction = [] → a.whole ≠ []
  unit : ByteUnit.ofSuffix? suffix = some a.unit
  parts : s = a.numberText ++ suffix

section Reading

variable {s suffix m : List Char} {a : Amount} {u : ByteUnit}

-- A suffix is no longer than two letters.
theorem ofSuffix_cases (named : ByteUnit.ofSuffix? suffix = some u) :
    suffix = [] ∨ suffix = ['b'] ∨ ∃ c, isPrefix c = true ∧ (suffix = [c] ∨ suffix = [c, 'b']) := by
  have closing : ∀ {v : ByteUnit} {rest : List Char}, ByteUnit.ofSuffix?.closing v rest = some u →
      rest = [] ∨ rest = ['b'] := by
    intro v rest closes
    unfold ByteUnit.ofSuffix?.closing at closes
    split at closes
    · assumption
    · cases closes
  have led : ∀ {c : Char} {v : ByteUnit} {rest : List Char}, isPrefix c = true →
      ByteUnit.ofSuffix?.closing v rest = some u →
      c :: rest = [] ∨ c :: rest = ['b'] ∨
        ∃ d, isPrefix d = true ∧ (c :: rest = [d] ∨ c :: rest = [d, 'b']) := by
    intro c v rest first closes
    rcases closing closes with rfl | rfl
    · exact Or.inr (Or.inr ⟨c, first, Or.inl rfl⟩)
    · exact Or.inr (Or.inr ⟨c, first, Or.inr rfl⟩)
  unfold ByteUnit.ofSuffix? at named
  split at named
  · exact Or.inl rfl
  · exact Or.inr (Or.inl rfl)
  · exact led (by decide) named
  · exact led (by decide) named
  · exact led (by decide) named
  · exact led (by decide) named
  · exact led (by decide) named
  · cases named

theorem prefix_cases {c : Char} (first : isPrefix c = true) :
    c = 'k' ∨ c = 'm' ∨ c = 'g' ∨ c = 't' ∨ c = 'p' := by
  simpa only [isPrefix, prefixes, List.any_cons, List.any_nil, Bool.or_false, Bool.or_eq_true, Member.holds_single,
    beq_iff_eq] using first

theorem suffixes_iff : m ∈ suffixes ↔ ∃ u, ByteUnit.ofSuffix? m = some u := by
  rw [suffixes, one_mul, Language.mem_mul]
  constructor
  · rintro ⟨first, optional, last, also, rfl⟩
    rcases optional_iff.mp optional with ⟨c, led, rfl⟩ | rfl
    · rcases optional_iff.mp also with ⟨d, b, rfl⟩ | rfl
      · obtain rfl := beq_iff_eq.mp b
        rcases prefix_cases led with rfl | rfl | rfl | rfl | rfl <;> exact ⟨_, rfl⟩
      · rcases prefix_cases led with rfl | rfl | rfl | rfl | rfl <;> exact ⟨_, rfl⟩
    · rcases optional_iff.mp also with ⟨d, b, rfl⟩ | rfl
      · obtain rfl := beq_iff_eq.mp b
        exact ⟨_, rfl⟩
      · exact ⟨_, rfl⟩
  · rintro ⟨u, named⟩
    have b : ['b'] ∈ letters (· == 'b') + 1 := optional_iff.mpr (Or.inl ⟨'b', rfl, rfl⟩)
    rcases ofSuffix_cases named with rfl | rfl | ⟨c, led, rfl | rfl⟩
    · exact ⟨[], optional_iff.mpr (Or.inr rfl), [], optional_iff.mpr (Or.inr rfl), rfl⟩
    · exact ⟨[], optional_iff.mpr (Or.inr rfl), ['b'], b, rfl⟩
    · exact ⟨[c], optional_iff.mpr (Or.inl ⟨c, led, rfl⟩), [], optional_iff.mpr (Or.inr rfl),
        List.append_nil _⟩
    · exact ⟨[c], optional_iff.mpr (Or.inl ⟨c, led, rfl⟩), ['b'], b, rfl⟩

theorem pointed_iff : m ∈ 1 * letters (· == '.') * runs isDigit ↔
    ∃ ds, ds ≠ [] ∧ (∀ c ∈ ds, isDigit c = true) ∧ m = '.' :: ds := by
  rw [one_mul, Language.mem_mul]
  constructor
  · rintro ⟨first, ⟨c, point, rfl⟩, ds, ⟨filled, all⟩, rfl⟩
    obtain rfl := beq_iff_eq.mp point
    exact ⟨ds, filled, all, rfl⟩
  · rintro ⟨ds, filled, all, rfl⟩
    exact ⟨['.'], ⟨'.', rfl, rfl⟩, ds, ⟨filled, all⟩, rfl⟩

-- The words of the numbers are the ways to write a whole part, a fraction, or both.
theorem numbers_iff : m ∈ numbers ↔ ∃ whole fraction : List Char,
    (∀ c ∈ whole, isDigit c = true) ∧ (∀ c ∈ fraction, isDigit c = true) ∧
      (fraction = [] → whole ≠ []) ∧ m = if fraction.isEmpty then whole else whole ++ '.' :: fraction := by
  rw [numbers]
  constructor
  · rintro (both | pointed)
    · obtain ⟨whole, first, behind, more, rfl⟩ := Language.mem_mul.mp both
      rw [one_mul] at first
      rcases more with pointed | nothing
      · obtain ⟨ds, filled, all, rfl⟩ := pointed_iff.mp pointed
        refine ⟨whole, ds, first.2, all, fun empty => absurd empty filled, ?_⟩
        rw [if_neg (by simpa using filled)]
      · obtain rfl : behind = [] := nothing
        exact ⟨whole, [], first.2, nofun, fun _ => first.1, List.append_nil _⟩
    · obtain ⟨ds, filled, all, rfl⟩ := pointed_iff.mp pointed
      refine ⟨[], ds, nofun, all, fun empty => absurd empty filled, ?_⟩
      rw [if_neg (by simpa using filled)]
      rfl
  · rintro ⟨whole, fraction, digits, also, filled, rfl⟩
    cases fraction with
    | nil =>
      refine Or.inl (Language.mem_mul.mpr ⟨whole, ?_, [], Or.inr rfl, List.append_nil _⟩)
      rw [one_mul]
      exact ⟨filled rfl, digits⟩
    | cons d ds =>
      have pointed := pointed_iff.mpr ⟨d :: ds, List.cons_ne_nil _ _, also, rfl⟩
      rw [if_neg (by simp)]
      cases whole with
      | nil => exact Or.inr pointed
      | cons c cs =>
        refine Or.inl (Language.mem_mul.mpr ⟨c :: cs, ?_, '.' :: d :: ds, Or.inl pointed, rfl⟩)
        rw [one_mul]
        exact ⟨List.cons_ne_nil _ _, digits⟩

theorem suffix_apart (named : ByteUnit.ofSuffix? suffix = some u) :
    ∀ c ∈ suffix.head?, isDigit c = false ∧ c ≠ '.' := by
  intro c head
  rcases ofSuffix_cases named with rfl | rfl | ⟨d, led, rfl | rfl⟩
  · cases head
  · obtain rfl := Option.some.inj head
    decide
  · obtain rfl := Option.some.inj head
    rcases prefix_cases led with rfl | rfl | rfl | rfl | rfl <;> decide
  · obtain rfl := Option.some.inj head
    rcases prefix_cases led with rfl | rfl | rfl | rfl | rfl <;> decide

theorem span_digits {ds rest : List Char} (digits : ∀ c ∈ ds, isDigit c = true)
    (apart : ∀ c ∈ rest.head?, isDigit c = false) :
    (ds ++ rest).takeWhile isDigit = ds ∧ (ds ++ rest).dropWhile isDigit = rest := by
  rw [List.takeWhile_append_of_pos digits, List.dropWhile_append_of_pos digits]
  cases rest with
  | nil => simp
  | cons c rest =>
    have other := apart c rfl
    rw [List.takeWhile_cons_of_neg (by simp [other]), List.dropWhile_cons_of_neg (by simp [other])]
    simp

-- What is read off a text is how the text is written.
theorem ofChars_states : Amount.ofChars? s = some a ↔ ∃ suffix, States s a suffix := by
  constructor
  · intro read
    have all : ∀ {ds : List Char}, ∀ c ∈ ds.takeWhile isDigit, isDigit c = true :=
      List.all_eq_true.mp List.all_takeWhile
    have parts := (List.takeWhile_append_dropWhile (p := isDigit) (l := s)).symm
    unfold Amount.ofChars? at read
    dsimp only at read
    split at read
    · rename_i rest shape
      split at read
      · cases read
      · rename_i filled
        obtain ⟨u, named, rfl⟩ := Option.map_eq_some_iff.mp read
        refine ⟨rest.dropWhile isDigit, all, all, fun empty => ?_, named, ?_⟩
        · exact absurd (List.isEmpty_iff.mpr empty) filled
        · rw [Amount.numberText, if_neg filled, List.append_assoc, List.cons_append,
            List.takeWhile_append_dropWhile, ← shape]
          exact parts
    · split at read
      · cases read
      · rename_i filled
        obtain ⟨u, named, rfl⟩ := Option.map_eq_some_iff.mp read
        refine ⟨s.dropWhile isDigit, all, nofun, fun _ => ?_, named, parts⟩
        simpa using filled
  · rintro ⟨suffix, whole, fraction, filled, unit, rfl⟩
    have apart := suffix_apart unit
    obtain ⟨w, f, u⟩ := a
    cases f with
    | nil =>
      have span := span_digits whole fun c head => (apart c head).1
      have some_ : w ≠ [] := filled rfl
      unfold Amount.ofChars? Amount.numberText
      simp only [List.isEmpty_nil, if_true, span.1, span.2]
      split
      · rename_i rest
        exact absurd rfl (apart '.' rfl).2
      · rw [if_neg (by simpa using some_)]
        exact Option.map_eq_some_iff.mpr ⟨u, unit, rfl⟩
    | cons d ds =>
      have span := @span_digits w ('.' :: (d :: ds ++ suffix)) whole (by
        intro c head
        obtain rfl := Option.some.inj head
        decide)
      have inner := @span_digits (d :: ds) suffix fraction fun c head => (apart c head).1
      have written : (Amount.numberText ⟨w, d :: ds, u⟩ ++ suffix) = w ++ '.' :: (d :: ds ++ suffix) := by
        simp [Amount.numberText]
      unfold Amount.ofChars?
      simp only [written, span.1, span.2, inner.1, inner.2]
      exact Option.map_eq_some_iff.mpr ⟨u, unit, rfl⟩

-- A number and a suffix are how one amount is written.
theorem parts_state {n : List Char} (number : n ∈ numbers) (named : m ∈ suffixes) :
    ∃ b : Amount, b.numberText = n ∧ States (n ++ m) b m := by
  obtain ⟨whole, fraction, digits, also, filled, rfl⟩ := numbers_iff.mp number
  obtain ⟨v, unit⟩ := suffixes_iff.mp named
  exact ⟨⟨whole, fraction, v⟩, rfl, digits, also, filled, unit, rfl⟩

theorem states_parts (stated : States s a suffix) : a.numberText ∈ numbers ∧ suffix ∈ suffixes :=
  ⟨numbers_iff.mpr ⟨a.whole, a.fraction, stated.whole, stated.fraction, stated.filled, rfl⟩,
    suffixes_iff.mpr ⟨a.unit, stated.unit⟩⟩

end Reading

section Matching

open Regex

variable {s suffix : List Char} {a : Amount}

theorem number_begins : Begins (.seq (.seq .empty .start) (.group 1 numberShape)) (1 * numbers) :=
  begins_seq begins_start (matches_group 1 numberShape_match)

theorem shape_begins :
    Begins (.seq (.seq (.seq .empty .start) (.group 1 numberShape)) (.group 3 unitShape))
      (1 * numbers * suffixes) :=
  begins_seq number_begins (matches_group 3 unitShape_match)

theorem word_iff : s ∈ 1 * numbers * suffixes ↔ ∃ a, Amount.ofChars? s = some a := by
  rw [one_mul, Language.mem_mul]
  constructor
  · rintro ⟨n, number, m, named, rfl⟩
    obtain ⟨a, _, stated⟩ := parts_state number named
    exact ⟨a, ofChars_states.mpr ⟨m, stated⟩⟩
  · rintro ⟨a, read⟩
    obtain ⟨suffix, stated⟩ := ofChars_states.mp read
    obtain ⟨number, named⟩ := states_parts stated
    exact ⟨a.numberText, number, suffix, named, stated.parts.symm⟩

-- Where the expression matches, its first group is the number and its third one the suffix.
theorem shape_matches (stated : States s a suffix) :
    ∃ inner, shape.matched? false s = some [s, a.numberText, inner, suffix] := by
  have word := word_iff.mpr ⟨a, ofChars_states.mpr ⟨suffix, stated⟩⟩
  obtain ⟨m, found, text, w, way, nothing, same⟩ := whole_found shape_begins word
  obtain ⟨u, number, unit⟩ := seq_mem way
  obtain ⟨x, start, first⟩ := seq_mem number
  obtain ⟨_, e, rfl, before, index⟩ := begins_start.sound _ x start
  obtain ⟨n, fits, led, place⟩ := (matches_group 1 numberShape_match).sound x u first
  obtain ⟨k, named, rest, last⟩ := (matches_group 3 unitShape_match).sound u w unit
  have one : textOf u 1 = some n := by
    rw [group_text first, led, place, Nat.add_sub_cancel_left, List.take_left']
    rfl
  have kept : textOf w 1 = textOf u 1 := by
    refine group_other (by decide) (fun v member => ?_) unit
    rw [textOf, ungrouped_groups (by decide) member]
    rfl
  have three : textOf w 3 = some k := by
    rw [group_text unit, rest, last, Nat.add_sub_cancel_left, List.take_left']
    rfl
  have whole : s = n ++ k := by
    rw [nothing, List.append_nil] at rest
    rw [← rest, ← led]
    exact before
  -- a text states no more than one amount
  obtain ⟨b, same_number, again⟩ := parts_state fits named
  rw [← whole] at again
  have read : some b = some a := by
    rw [← ofChars_states.mpr ⟨k, again⟩, ofChars_states.mpr ⟨suffix, stated⟩]
  obtain rfl := Option.some.inj read
  have tail : k = suffix := by
    have cut := stated.parts
    rw [whole, ← same_number] at cut
    exact List.append_cancel_left cut
  refine ⟨(textOf w 2).getD [], ?_⟩
  unfold Expression.matched? shape
  rw [found]
  change some [m.text, (m.group? 1).getD [], (m.group? 2).getD [], (m.group? 3).getD []] = _
  have group : ∀ i, i ≠ 0 → m.group? i = textOf w i := by
    intro i positive
    rw [Match.group?, if_neg (by simpa using positive), same, textOf]
  rw [text, group 1 (by decide), group 2 (by decide), group 3 (by decide), kept, one, three, same_number, tail]
  rfl

theorem shape_misses (absent : Amount.ofChars? s = none) : shape.matched? false s = none := by
  have other : s ∉ 1 * numbers * suffixes := by
    rw [word_iff, absent]
    exact nofun
  unfold Expression.matched? shape
  rw [whole_absent shape_begins other]
  rfl

end Matching

end Toolwrap.Memory
