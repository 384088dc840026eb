import Toolwrap.Proofs.Running.Patterns
import Toolwrap.Proofs.Running.Quoted

-- What is left of the value of a parameter where a pattern is taken off one end of it.

namespace Toolwrap.Running

open Shell

section Ends

variable {s : List Char} {p : Pattern} {n : Nat}

-- The first of sorted numbers that is fit is the one that no other fit one is before.
theorem find_sorted {before : Nat → Nat → Prop} {ok : Nat → Bool} {cuts : List Nat}
    (sorted : cuts.Pairwise before) (listed : n ∈ cuts) (fits : ok n = true)
    (nearest : ∀ j ∈ cuts, ok j = true → ¬ before j n) : cuts.find? ok = some n := by
  induction cuts with
  | nil => cases listed
  | cons k cuts found =>
    obtain ⟨ahead, sorted⟩ := List.pairwise_cons.mp sorted
    rw [List.find?_cons]
    cases first : ok k with
    | true =>
      rcases List.mem_cons.mp listed with rfl | later
      · rfl
      · exact absurd (ahead n later) (nearest k (List.mem_cons_self ..) first)
    | false =>
      refine found sorted ((List.mem_cons.mp listed).resolve_left ?_)
        fun j member => nearest j (List.mem_cons_of_mem _ member)
      rintro rfl
      rw [fits] at first
      cases first

-- Where an end of a text may be cut off, in the order in which that is tried.
def cutsOf (s : List Char) (longest : Bool) : List Nat :=
  if longest then List.range (s.length + 1) else (List.range (s.length + 1)).reverse

theorem mem_cuts {longest : Bool} {j : Nat} : j ∈ cutsOf s longest ↔ j ≤ s.length := by
  cases longest <;> simp [cutsOf, Nat.lt_succ_iff]

theorem cuts_sorted (longest : Bool) :
    (cutsOf s longest).Pairwise fun i j => if longest then i < j else j < i := by
  cases longest with
  | true => simpa [cutsOf] using List.pairwise_lt_range
  | false => simpa [cutsOf, List.pairwise_reverse] using List.pairwise_lt_range

variable (simple : p.all isSimple = true)

include simple

-- What is taken away at the end: from the first or the last place that leads to it.
theorem trimEnd_at {longest : Bool} (inside : n ≤ s.length) (reaches : Reaches s p n s.length)
    (nearest : ∀ j ≤ s.length, Reaches s p j s.length → if longest then n ≤ j else j ≤ n) :
    p.trimEnd longest s = s.take n := by
  have found : (cutsOf s longest).find?
      (fun j => (p.ends false s.toArray j).getLast? == some s.toArray.size) = some n := by
    refine find_sorted (cuts_sorted longest) (mem_cuts.mpr inside)
      ((whole_fits simple n inside).mpr reaches) ?_
    intro j member fits
    have there := nearest j (mem_cuts.mp member) ((whole_fits simple j (mem_cuts.mp member)).mp fits)
    cases longest with
    | true => exact Nat.not_lt.mpr there
    | false => exact Nat.not_lt.mpr there
  unfold cutsOf at found
  unfold Pattern.trimEnd
  simp only [found]

theorem trimEnd_none (longest : Bool) (unreached : ∀ j ≤ s.length, ¬ Reaches s p j s.length) :
    p.trimEnd longest s = s := by
  have found : (cutsOf s longest).find?
      (fun j => (p.ends false s.toArray j).getLast? == some s.toArray.size) = none := by
    refine List.find?_eq_none.mpr fun j member fits => ?_
    exact unreached j (mem_cuts.mp member) ((whole_fits simple j (mem_cuts.mp member)).mp fits)
  unfold cutsOf at found
  unfold Pattern.trimEnd
  simp only [found]

end Ends

section Pieces

variable {s front rest : List Char} {c : Char}

-- A character with anything behind it, at the end of a text.
theorem reaches_from {p : Char → Bool} {g : Glob} {k : Nat}
    (one : ∀ k j, Leads s k j g ↔ (∃ c, s[k]? = some c ∧ p c = true) ∧ j = k + 1) :
    Reaches s [g, .star] k s.length ↔ ∃ c, s[k]? = some c ∧ p c = true := by
  constructor
  · rintro ⟨j, leads, _⟩
    exact ((one k j).mp leads).1
  · rintro ⟨c, found, fits⟩
    have within := (List.getElem?_eq_some_iff.mp found).1
    exact ⟨k + 1, (one k _).mpr ⟨⟨c, found, fits⟩, rfl⟩, s.length, ⟨within, Nat.le_refl _⟩, rfl⟩

theorem char_leads (k j : Nat) :
    Leads s k j (.char c) ↔ (∃ d, s[k]? = some d ∧ (d == c) = true) ∧ j = k + 1 := by
  simp [Leads]

-- What is in front of the last of the characters.
theorem trim_before (last : c ∉ rest) :
    Pattern.trimEnd [.char c, .star] false (front ++ c :: rest) = front := by
  rw [trimEnd_at (n := front.length) rfl (by simp)]
  · simp
  · exact (reaches_from char_leads).mpr ⟨c, by simp, by simp⟩
  · intro j _ reaches
    obtain ⟨d, found, same⟩ := (reaches_from char_leads).mp reaches
    obtain rfl := beq_iff_eq.mp same
    rw [if_neg Bool.false_ne_true]
    by_contra later
    rw [List.getElem?_append_right (by omega)] at found
    obtain ⟨k, shape⟩ := Nat.exists_eq_add_of_lt (Nat.not_le.mp later)
    rw [show j - front.length = k + 1 by omega, List.getElem?_cons_succ] at found
    exact last (List.mem_of_getElem? found)

theorem trim_none_before (absent : c ∉ s) : Pattern.trimEnd [.char c, .star] false s = s := by
  refine trimEnd_none rfl false fun j _ reaches => ?_
  obtain ⟨d, found, same⟩ := (reaches_from char_leads).mp reaches
  obtain rfl := beq_iff_eq.mp same
  exact absent (List.mem_of_getElem? found)

-- A character at the end of a text.
theorem reaches_last {k : Nat} : Reaches s [.char c] k s.length ↔ s[k]? = some c ∧ k + 1 = s.length := by
  constructor
  · rintro ⟨j, leads, rfl⟩
    obtain ⟨⟨d, found, same⟩, there⟩ := (char_leads k _).mp leads
    exact ⟨beq_iff_eq.mp same ▸ found, there.symm⟩
  · rintro ⟨found, there⟩
    exact ⟨s.length, (char_leads k _).mpr ⟨⟨c, found, beq_self_eq_true c⟩, there.symm⟩, rfl⟩

theorem trim_last : Pattern.trimEnd [.char c] false (front ++ [c]) = front := by
  have whole : (front ++ [c]).length = front.length + 1 := List.length_append
  rw [trimEnd_at (n := front.length) rfl (by omega)]
  · simp
  · exact reaches_last.mpr ⟨by simp, whole.symm⟩
  · intro j _ reaches
    have there := (reaches_last.mp reaches).2
    rw [if_neg Bool.false_ne_true]
    omega

theorem trim_other_last (other : s.getLast? ≠ some c) : Pattern.trimEnd [.char c] false s = s := by
  refine trimEnd_none rfl false fun j _ reaches => ?_
  obtain ⟨found, there⟩ := reaches_last.mp reaches
  refine other ?_
  rw [List.getLast?_eq_getElem?, ← there]
  exact found

-- A character with anything around it.
theorem around_fits {cs : List Char} :
    Pattern.fits false [.star, .char c, .star] cs = true ↔ c ∈ cs := by
  have leads : ∀ k, Reaches cs [.char c, .star] k cs.length ↔ ∃ d, cs[k]? = some d ∧ (d == c) = true := fun k =>
    reaches_from char_leads
  rw [fits_iff rfl]
  constructor
  · rintro ⟨j, -, reaches⟩
    obtain ⟨d, found, same⟩ := (leads j).mp reaches
    rw [← beq_iff_eq.mp same]
    exact List.mem_of_getElem? found
  · intro member
    obtain ⟨j, inside, found⟩ := List.getElem_of_mem member
    exact ⟨j, ⟨Nat.zero_le _, Nat.le_of_lt inside⟩, (leads j).mpr ⟨c, by rw [List.getElem?_eq_getElem inside, found], by simp⟩⟩

theorem other_leads (k j : Nat) :
    Leads s k j (.bracket true [.range c c]) ↔ (∃ d, s[k]? = some d ∧ (d != c) = true) ∧ j = k + 1 := by
  simp [Leads, Member.holds_single]

-- All from the first character on that is another one.
theorem trim_from_other (alike : ∀ d ∈ front, d = c) (stops : ∀ d ∈ rest.head?, d ≠ c) :
    Pattern.trimEnd [.bracket true [.range c c], .star] true (front ++ rest) = front := by
  have early : ∀ {j : Nat} {d : Char}, (front ++ rest)[j]? = some d → (d != c) = true → front.length ≤ j := by
    intro j d found other
    by_contra before
    rw [List.getElem?_append_left (Nat.not_le.mp before)] at found
    rw [alike d (List.mem_of_getElem? found)] at other
    simp at other
  cases rest with
  | nil =>
    rw [trimEnd_none rfl]
    · exact List.append_nil _
    · intro j _ reaches
      obtain ⟨d, found, other⟩ := (reaches_from other_leads).mp reaches
      have late := early found other
      rw [List.append_nil, List.getElem?_eq_none late] at found
      cases found
  | cons d rest =>
    rw [trimEnd_at (n := front.length) rfl (by simp)]
    · simp
    · exact (reaches_from other_leads).mpr ⟨d, by simp, by simpa using stops d rfl⟩
    · intro j _ reaches
      obtain ⟨e, found, other⟩ := (reaches_from other_leads).mp reaches
      exact early found other

-- Quoted text stands for itself.
theorem read_quoted (groups : Bool) (text : List Char) :
    Pattern.ofMarked groups (text.map fun c => (c, true)) = text.map .char := by
  have read : ∀ (text : List Char) fuel, text.length < fuel →
      Pattern.read groups fuel (text.map fun c => (c, true)) = text.map .char := by
    intro text
    induction text with
    | nil =>
      intro fuel enough
      cases fuel with
      | zero => cases enough
      | succ fuel => rfl
    | cons c text read =>
      intro fuel enough
      cases fuel with
      | zero => cases enough
      | succ fuel =>
        rw [List.map_cons, List.map_cons, ← read fuel (Nat.lt_of_succ_lt_succ enough)]
        rfl
  exact read text _ (by simp)

theorem trim_front : Pattern.trimStart (front.map .char) false (front ++ rest) = rest := by
  have reached : ∀ j, Reaches (front ++ rest) (front.map .char) 0 j → front.length = j := by
    intro j reaches
    rw [← List.append_nil (front.map Glob.char), reaches_plain, Nat.zero_add] at reaches
    exact reaches.2
  have there : Reaches (front ++ rest) (front.map .char) 0 front.length := by
    rw [← List.append_nil (front.map Glob.char), reaches_plain, List.drop_zero, Nat.zero_add]
    exact ⟨List.prefix_append .., rfl⟩
  rw [trimStart_first plain_simple there fun j reaches => Nat.le_of_eq (reached j reaches)]
  simp

end Pieces

section Running

variable {E : Engine} {s : Session} {name : String}

-- What is left of the value of a parameter where what a word comes to is taken off one end.
theorem trimmed_spells {text : String} {pattern : Word} {fragments : List Fragment} (quiet : Quiet s)
    (stands : Stands s name (some text)) (read : Yields (expandWord E false .word true pattern) s fragments)
    (atEnd longest : Bool) :
    Spells E s [.param name [] (.trim atEnd longest pattern)]
      (String.ofList ((Pattern.ofMarked true (markedText fragments)).trim atEnd longest text.toList)) := by
  refine spells_part fun m => ?_
  rw [param_whole, Op.expand, bind_ok get_ok, subject_one stands,
    bind_ok (needSet_yields quiet _ _ m), bind_ok (read m)]
  rfl

theorem markedText_kept (pieces : List (List Char)) :
    markedText (pieces.map .kept) = pieces.flatten.map fun c => (c, true) := by
  induction pieces with
  | nil => rfl
  | cons piece pieces more =>
    rw [List.map_cons, List.flatten_cons, List.map_append, ← more]
    rfl

-- What is left of a text where a pattern without quotes is taken off an end of it.
def bareTrim (atEnd longest : Bool) (pattern text : String) : String :=
  String.ofList ((Pattern.ofMarked true (pattern.toList.map fun c => (c, false))).trim atEnd longest
    text.toList)

theorem trim_spells {pattern text : String} (quiet : Quiet s) (stands : Stands s name (some text))
    (free : '~' ∉ pattern.toList) (atEnd longest : Bool) :
    Spells E s [.param name [] (.trim atEnd longest (bare pattern))] (bareTrim atEnd longest pattern text) := by
  have marked : markedText [.plain pattern.toList] = pattern.toList.map fun c => (c, false) :=
    List.append_nil _
  have taken := trimmed_spells quiet stands (fun m => bare_expand free E (leaving s m)) atEnd longest
  rwa [marked] at taken

-- A quoted text is taken off the front.
theorem front_spells {parts : List Part} {front rest : String} (quiet : Quiet s)
    (stands : Stands s name (some (front ++ rest))) (spelled : Spells E s parts front) :
    Spells E s [.param name [] (.trim false false [.double parts])] rest := by
  obtain ⟨pieces, _, joined, ran⟩ := double_yields spelled .word
  have taken := trimmed_spells quiet stands ran false false
  rwa [markedText_kept, joined, read_quoted, String.toList_append, Pattern.trim,
    if_neg Bool.false_ne_true, trim_front, String.ofList_toList] at taken

theorem behind_trim {c : Char} {pattern front behind : String} (led : pattern.toList = ['*', c])
    (first : c ∉ front.toList)
    (read : Pattern.ofMarked true [('*', false), (c, false)] = [.star, .char c]) :
    bareTrim false false pattern (front ++ String.singleton c ++ behind) = behind := by
  have shape : (front ++ String.singleton c ++ behind).toList = front.toList ++ c :: behind.toList := by
    simp
  rw [bareTrim, shape, led, List.map_cons, List.map_cons, List.map_nil, read]
  change String.ofList (Pattern.trimStart _ _ _) = _
  rw [trim_behind first, String.ofList_toList]

-- A quoted text as a pattern fits itself alone.
theorem fitsAny_single {subject text : String} {patterns : List Word} {b : Bool} (quiet : Quiet s)
    (others : Yields (fitsAny E subject patterns) s b) :
    Yields (fitsAny E subject ([.single text] :: patterns)) s (decide (subject = text) || b) := by
  intro m
  have strict : (leaving s m).has .nocasematch = false := quiet.off (by decide)
  have read : Word.marked E [.single text] (leaving s m) = .ok (text.toList.map fun c => (c, true)) (leaving s m) := by
    unfold Word.marked
    rw [bind_ok (single_yields text .word m), pure_ok]
    simp [markedText]
  have fits : (Pattern.ofMarked true (text.toList.map fun c => (c, true))).fits false subject.toList =
      decide (subject = text) := by
    rw [read_quoted, Bool.eq_iff_iff, plain_fits, decide_eq_true_eq, String.toList_inj]
  rw [fitsAny, bind_ok get_ok, strict, bind_ok read, fits]
  by_cases same : subject = text
  · rw [decide_eq_true same]
    rfl
  · rw [decide_eq_false same]
    exact others m

end Running

end Toolwrap.Running
