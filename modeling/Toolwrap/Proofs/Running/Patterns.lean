import Mathlib.Data.List.Basic
import Toolwrap.Proofs.Running.Commands
import Toolwrap.Proofs.Running.Words

-- What patterns without groups fit, said by places in a text: a piece of a pattern
-- leads from one place to others, and a text fits if its end is reached from its front.

namespace Toolwrap.Running

open Shell

-- A piece that leads from one place of a text to another.
def Leads (s : List Char) (k j : Nat) : Glob → Prop
  | .char c => s[k]? = some c ∧ j = k + 1
  | .one => k < s.length ∧ j = k + 1
  | .star => k ≤ j ∧ j ≤ s.length
  | .bracket negated members =>
    (∃ c, s[k]? = some c ∧ members.any (·.holds c) ≠ negated) ∧ j = k + 1
  | .group _ _ => False

def Reaches (s : List Char) : Pattern → Nat → Nat → Prop
  | [], k, n => k = n
  | g :: p, k, n => ∃ j, Leads s k j g ∧ Reaches s p j n

def isSimple : Glob → Bool
  | .group _ _ => false
  | _ => true

section Places

variable {s : List Char} {places : List Nat}

theorem leads_within {k j : Nat} {g : Glob} (leads : Leads s k j g) : k ≤ j ∧ j ≤ s.length := by
  cases g with
  | char c =>
    obtain ⟨found, rfl⟩ := leads
    have within := (List.getElem?_eq_some_iff.mp found).1
    omega
  | one =>
    obtain ⟨within, rfl⟩ := leads
    omega
  | star => exact leads
  | bracket negated members =>
    obtain ⟨⟨c, found, _⟩, rfl⟩ := leads
    have within := (List.getElem?_eq_some_iff.mp found).1
    omega
  | group kind alternatives => cases leads

theorem stepped_mem {g : Glob} (simple : isSimple g = true) (sorted : places.Pairwise (· < ·))
    (n : Nat) :
    n ∈ Pattern.stepped false s.toArray places g ↔ ∃ k ∈ places, Leads s k n g := by
  cases g with
  | char c =>
    simp only [Pattern.stepped, List.mem_map, List.mem_filter, Leads, Bool.false_eq_true, if_false,
      List.getElem?_toArray]
    constructor
    · rintro ⟨k, ⟨member, found⟩, rfl⟩
      refine ⟨k, member, ?_, rfl⟩
      cases there : s[k]? with
      | none => rw [there] at found; cases found
      | some d =>
        rw [there] at found
        simp only [Option.any_some, List.contains_eq_mem, List.mem_singleton, decide_eq_true_eq]
          at found
        rw [found]
    · rintro ⟨k, member, found, rfl⟩
      exact ⟨k, ⟨member, by simp [found]⟩, rfl⟩
  | one =>
    simp only [Pattern.stepped, List.mem_map, List.mem_filter, Leads, List.size_toArray,
      decide_eq_true_eq]
    constructor
    · rintro ⟨k, ⟨member, within⟩, rfl⟩
      exact ⟨k, member, within, rfl⟩
    · rintro ⟨k, member, within, rfl⟩
      exact ⟨k, ⟨member, within⟩, rfl⟩
  | star =>
    simp only [Pattern.stepped, Leads, List.size_toArray]
    cases places with
    | nil => simp
    | cons first others =>
      simp only [List.mem_map, List.mem_range]
      constructor
      · rintro ⟨d, within, rfl⟩
        exact ⟨first, List.mem_cons_self .., by omega⟩
      · rintro ⟨k, member, behind, within⟩
        have least : first ≤ k := by
          rcases List.mem_cons.mp member with rfl | later
          · exact Nat.le_refl _
          · exact Nat.le_of_lt ((List.pairwise_cons.mp sorted).1 k later)
        exact ⟨n - first, by omega, by omega⟩
  | bracket negated members =>
    simp only [Pattern.stepped, List.mem_map, List.mem_filter, Leads, Bool.false_eq_true, if_false,
      List.getElem?_toArray]
    constructor
    · rintro ⟨k, ⟨member, found⟩, rfl⟩
      refine ⟨k, member, ?_, rfl⟩
      cases there : s[k]? with
      | none => rw [there] at found; cases found
      | some d =>
        rw [there] at found
        exact ⟨d, rfl, by simpa using found⟩
    · rintro ⟨k, member, ⟨c, found, held⟩, rfl⟩
      exact ⟨k, ⟨member, by simpa [found] using held⟩, rfl⟩
  | group kind alternatives => cases simple

theorem stepped_sorted {g : Glob} (simple : isSimple g = true) (sorted : places.Pairwise (· < ·)) :
    (Pattern.stepped false s.toArray places g).Pairwise (· < ·) := by
  have next : ∀ kept : Nat → Bool, ((places.filter kept).map (· + 1)).Pairwise (· < ·) := by
    intro kept
    rw [List.pairwise_map]
    exact (sorted.filter kept).imp (by omega)
  cases g with
  | char c => exact next _
  | one => exact next _
  | star =>
    unfold Pattern.stepped
    cases places with
    | nil => exact List.Pairwise.nil
    | cons first others =>
      rw [List.pairwise_map]
      exact List.pairwise_lt_range.imp (by omega)
  | bracket negated members => exact next _
  | group kind alternatives => cases simple

-- What is reached from places are the places that the pieces lead to one by one.
theorem reached_mem {p : Pattern} (simple : p.all isSimple = true)
    (sorted : places.Pairwise (· < ·)) (n : Nat) :
    n ∈ Pattern.reached false s.toArray places p ↔ ∃ k ∈ places, Reaches s p k n := by
  induction p generalizing places with
  | nil =>
    simp only [Pattern.reached, Reaches]
    exact ⟨fun member => ⟨n, member, rfl⟩, fun ⟨k, member, same⟩ => same ▸ member⟩
  | cons g p more =>
    rw [List.all_cons, Bool.and_eq_true] at simple
    rw [Pattern.reached]
    split
    · rename_i empty
      rw [List.isEmpty_iff] at empty
      subst empty
      simp
    · rw [more simple.2 (stepped_sorted simple.1 sorted)]
      constructor
      · rintro ⟨j, member, reaches⟩
        obtain ⟨k, first, leads⟩ := (stepped_mem simple.1 sorted j).mp member
        exact ⟨k, first, j, leads, reaches⟩
      · rintro ⟨k, first, j, leads, reaches⟩
        exact ⟨j, (stepped_mem simple.1 sorted j).mpr ⟨k, first, leads⟩, reaches⟩

theorem reaches_within {p : Pattern} {k n : Nat} (start : k ≤ s.length) (reaches : Reaches s p k n) :
    k ≤ n ∧ n ≤ s.length := by
  induction p generalizing k with
  | nil =>
    obtain rfl : k = n := reaches
    omega
  | cons g p more =>
    obtain ⟨j, leads, reaches⟩ := reaches
    have first := leads_within leads
    have rest := more first.2 reaches
    omega

end Places

section Distinct

variable {ns : List Nat}

theorem foldr_mem (ns : List Nat) (n : Nat) :
    n ∈ ns.foldr (fun n rest => if rest.head? == some n then rest else n :: rest) [] ↔ n ∈ ns := by
  induction ns with
  | nil => rfl
  | cons m ns same =>
    rw [List.foldr_cons]
    split
    · rename_i first
      rw [same, List.mem_cons]
      refine ⟨Or.inr, ?_⟩
      rintro (rfl | member)
      · exact same.mp (List.mem_of_mem_head? (beq_iff_eq.mp first))
      · exact member
    · rw [List.mem_cons, List.mem_cons, same]

theorem foldr_sorted {ns : List Nat} (sorted : ns.Pairwise (· ≤ ·)) :
    (ns.foldr (fun n rest => if rest.head? == some n then rest else n :: rest) []).Pairwise
      (· < ·) := by
  induction ns with
  | nil => exact List.Pairwise.nil
  | cons m ns strictly =>
    obtain ⟨least, rest⟩ := List.pairwise_cons.mp sorted
    have strict := strictly rest
    have bounded : ∀ n ∈ ns.foldr (fun n rest => if rest.head? == some n then rest else n :: rest) [],
        m ≤ n := fun n member => least n ((foldr_mem ns n).mp member)
    rw [List.foldr_cons]
    generalize ns.foldr (fun n rest => if rest.head? == some n then rest else n :: rest) [] = folded
      at strict bounded ⊢
    split
    · exact strict
    · rename_i other
      refine List.pairwise_cons.mpr ⟨?_, strict⟩
      cases folded with
      | nil => simp
      | cons first others =>
        have apart : first ≠ m := by simpa using other
        have above := bounded first (List.mem_cons_self ..)
        have rising := (List.pairwise_cons.mp strict).1
        intro n member
        rcases List.mem_cons.mp member with rfl | later
        · omega
        · have higher := rising n later
          omega

theorem mem_distinct (n : Nat) : n ∈ Pattern.distinct ns ↔ n ∈ ns := by
  rw [Pattern.distinct, foldr_mem, List.mem_mergeSort]

theorem distinct_sorted : (Pattern.distinct ns).Pairwise (· < ·) := by
  have ordered := @List.pairwise_mergeSort Nat (fun a b => decide (a ≤ b))
    (fun a b c => by simpa using Nat.le_trans) (fun a b => by simpa using Nat.le_total a b) ns
  exact foldr_sorted (ordered.imp (by simp))

theorem head_least {ns : List Nat} {n : Nat} (sorted : ns.Pairwise (· < ·)) (member : n ∈ ns)
    (least : ∀ j ∈ ns, n ≤ j) : ns.head? = some n := by
  cases ns with
  | nil => cases member
  | cons first others =>
    have below := least first (List.mem_cons_self ..)
    rcases List.mem_cons.mp member with rfl | later
    · rfl
    · have above := (List.pairwise_cons.mp sorted).1 n later
      omega

theorem last_greatest {ns : List Nat} {n : Nat} (sorted : ns.Pairwise (· < ·)) (member : n ∈ ns)
    (greatest : ∀ j ∈ ns, j ≤ n) : ns.getLast? = some n := by
  rw [List.getLast?_eq_head?_reverse]
  cases shape : ns.reverse with
  | nil =>
    rw [List.reverse_eq_nil_iff] at shape
    rw [shape] at member
    cases member
  | cons last others =>
    have falling : (last :: others).Pairwise (· > ·) := by
      rw [← shape, List.pairwise_reverse]
      exact sorted
    have found : n ∈ last :: others := by rw [← shape, List.mem_reverse]; exact member
    have above := greatest last (by rw [← List.mem_reverse, shape]; exact List.mem_cons_self ..)
    rcases List.mem_cons.mp found with rfl | later
    · rfl
    · have below := (List.pairwise_cons.mp falling).1 n later
      omega

end Distinct

section Fitting

variable {s : List Char} {p : Pattern} (simple : p.all isSimple = true)

include simple

theorem ends_mem {k n : Nat} : n ∈ p.ends false s.toArray k ↔ Reaches s p k n := by
  rw [Pattern.ends, mem_distinct, reached_mem simple (List.pairwise_singleton ..)]
  simp

-- A text fits if the pieces lead through all of it.
theorem whole_fits (k : Nat) (start : k ≤ s.length) :
    ((p.ends false s.toArray k).getLast? == some s.length) = true ↔ Reaches s p k s.length := by
  rw [beq_iff_eq]
  constructor
  · intro last
    exact (ends_mem simple).mp (List.mem_of_mem_getLast? last)
  · intro reaches
    refine last_greatest distinct_sorted ((ends_mem simple).mpr reaches) ?_
    intro j member
    exact (reaches_within start ((ends_mem simple).mp member)).2

theorem fits_iff : p.fits false s = true ↔ Reaches s p 0 s.length :=
  whole_fits simple 0 (Nat.zero_le _)

-- What is taken away in front: up to the first or the last place that is reached.
theorem trimStart_first {n : Nat} (reaches : Reaches s p 0 n) (least : ∀ j, Reaches s p 0 j → n ≤ j) :
    p.trimStart false s = s.drop n := by
  have first : (p.ends false s.toArray 0).head? = some n :=
    head_least distinct_sorted ((ends_mem simple).mpr reaches)
      (fun j member => least j ((ends_mem simple).mp member))
  simp only [Pattern.trimStart, Bool.false_eq_true, if_false, first]

theorem trimStart_none (longest : Bool) (unreached : ∀ j, ¬ Reaches s p 0 j) :
    p.trimStart longest s = s := by
  have none_ : p.ends false s.toArray 0 = [] := by
    rw [List.eq_nil_iff_forall_not_mem]
    exact fun j member => unreached j ((ends_mem simple).mp member)
  cases longest <;> simp [Pattern.trimStart, none_]

end Fitting

section Reading

variable {s text : List Char}

-- Characters that stand for themselves in a pattern.
theorem read_plain (groups : Bool) {rest : List Marked} {fuel : Nat}
    (tame : ∀ c ∈ text, isTame c = true ∧ c ≠ '\\') (enough : text.length ≤ fuel) :
    Pattern.read groups fuel ((text.map fun c => (c, false)) ++ rest) =
      text.map .char ++ Pattern.read groups (fuel - text.length) rest := by
  induction text generalizing fuel with
  | nil => rfl
  | cons c text read =>
    obtain ⟨first, escape⟩ := tame c (List.mem_cons_self ..)
    cases fuel with
    | zero => simp at enough
    | succ fuel =>
      rw [List.map_cons, List.cons_append, List.map_cons, List.cons_append, List.length_cons,
        Nat.add_sub_add_right, ← read (fun d member => tame d (List.mem_cons_of_mem _ member))
          (Nat.le_of_succ_le_succ enough), Pattern.read]
      simp only [tame_no_group first, Option.bind_eq_bind, Option.bind_none, ite_self]
      split
      · cases first
      · cases first
      · cases first
      · exact absurd rfl escape
      · rfl

theorem reaches_plain {p : Pattern} {k n : Nat} :
    Reaches s (text.map .char ++ p) k n ↔
      text <+: s.drop k ∧ Reaches s p (k + text.length) n := by
  induction text generalizing k with
  | nil => simp
  | cons c text reached =>
    rw [List.map_cons, List.cons_append, Reaches]
    simp only [Leads]
    constructor
    · rintro ⟨j, ⟨found, rfl⟩, reaches⟩
      obtain ⟨follows, reaches⟩ := reached.mp reaches
      obtain ⟨within, there⟩ := List.getElem?_eq_some_iff.mp found
      refine ⟨?_, by rw [List.length_cons, Nat.add_comm text.length, ← Nat.add_assoc]; exact reaches⟩
      rw [List.drop_eq_getElem_cons within, there]
      exact List.cons_prefix_cons.mpr ⟨rfl, follows⟩
    · rintro ⟨follows, reaches⟩
      obtain ⟨rest, joined⟩ := follows
      have found : s[k]? = some c := by
        have front : (s.drop k)[0]? = some c := by rw [← joined]; rfl
        rw [List.getElem?_drop, Nat.add_zero] at front
        exact front
      refine ⟨k + 1, ⟨found, rfl⟩, reached.mpr ⟨⟨rest, ?_⟩, ?_⟩⟩
      · rw [← List.drop_drop, ← joined]
        rfl
      · rw [List.length_cons, Nat.add_comm text.length, ← Nat.add_assoc] at reaches
        exact reaches

theorem plain_simple : (text.map Glob.char).all isSimple = true := by
  simp [isSimple]

theorem plain_fits : Pattern.fits false (text.map .char) s = true ↔ s = text := by
  have reaches := @reaches_plain s text [] 0 s.length
  rw [List.append_nil] at reaches
  rw [fits_iff plain_simple, reaches, List.drop_zero, Nat.zero_add]
  simp only [Reaches]
  constructor
  · rintro ⟨front, same⟩
    exact (front.eq_of_length same).symm
  · rintro rfl
    exact ⟨List.prefix_refl _, rfl⟩

-- Whether a text fits a pattern without quotes.
def bareFits (pattern subject : String) : Bool :=
  (Pattern.ofMarked true (pattern.toList.map fun c => (c, false))).fits false subject.toList

variable {word subject : String} (tame : ∀ c ∈ word.toList, isTame c = true ∧ c ≠ '\\')

include tame

theorem read_word (rest : List Marked) (read : ∀ fuel, rest.length < fuel →
      Pattern.read true fuel rest = p) :
    Pattern.ofMarked true ((word.toList.map fun c => (c, false)) ++ rest) =
      word.toList.map .char ++ p := by
  rw [Pattern.ofMarked, read_plain true tame (by simp; omega), read]
  rw [List.length_append, List.length_map]
  omega

-- Text that begins nothing fits itself alone.
theorem word_fits : bareFits word subject = true ↔ subject = word := by
  have read : Pattern.ofMarked true (word.toList.map fun c => (c, false)) = word.toList.map .char := by
    have whole := read_word (p := []) tame [] (by
      intro fuel enough
      cases fuel with
      | zero => cases enough
      | succ fuel => rfl)
    rwa [List.append_nil, List.append_nil] at whole
  rw [bareFits, read, plain_fits, String.toList_inj]

-- With a star behind it, it fits all texts that begin with it.
theorem front_fits : bareFits (word ++ "*") subject = true ↔ word.toList <+: subject.toList := by
  have read : Pattern.ofMarked true ((word ++ "*").toList.map fun c => (c, false)) =
      word.toList.map .char ++ [.star] := by
    rw [String.toList_append, List.map_append]
    refine read_word tame _ ?_
    intro fuel enough
    match fuel, enough with
    | fuel + 2, _ => rfl
  have simple : (word.toList.map Glob.char ++ [Glob.star]).all isSimple = true := by
    rw [List.all_append, plain_simple]
    rfl
  rw [bareFits, read, fits_iff simple, reaches_plain, List.drop_zero, Nat.zero_add]
  constructor
  · exact fun both => both.1
  · intro front
    exact ⟨front, subject.toList.length, ⟨front.length_le, Nat.le_refl _⟩, rfl⟩

omit tame in
theorem all_fits : bareFits "*" subject = true :=
  (fits_iff (p := [.star]) rfl).mpr ⟨_, ⟨Nat.zero_le _, Nat.le_refl _⟩, rfl⟩

-- A dash with something behind it.
omit tame in
theorem dashed_fits : bareFits "-?*" subject = true ↔ ∃ c rest, subject.toList = '-' :: c :: rest := by
  have read : bareFits "-?*" subject = Pattern.fits false [.char '-', .one, .star] subject.toList := rfl
  rw [read, fits_iff rfl]
  constructor
  · rintro ⟨_, ⟨dash, rfl⟩, _, ⟨within, rfl⟩, _⟩
    match subject.toList, dash, within with
    | c :: d :: rest, dash, _ => exact ⟨d, rest, by rw [Option.some.inj dash]⟩
  · rintro ⟨c, rest, shape⟩
    rw [shape]
    exact ⟨1, ⟨rfl, rfl⟩, 2, ⟨by simp, rfl⟩, _, ⟨by simp, Nat.le_refl _⟩, rfl⟩

end Reading

theorem fitsAny_bare {E : Engine} {s : Session} (quiet : Quiet s) {patterns : List String}
    {subject : String} (free : ∀ p ∈ patterns, '~' ∉ p.toList) :
    Yields (fitsAny E subject (patterns.map bare)) s (patterns.any fun p => bareFits p subject) := by
  induction patterns with
  | nil => exact fun _ => rfl
  | cons p patterns others =>
    intro m
    have exact_ : (leaving s m).has .nocasematch = false := quiet.off (by decide)
    have read : Word.marked E (bare p) (leaving s m) =
        .ok (p.toList.map fun c => (c, false)) (leaving s m) := by
      unfold Word.marked
      rw [bind_ok (bare_expand (free p (List.mem_cons_self ..)) E _), pure_ok]
      simp [markedText]
    rw [List.map_cons, fitsAny, bind_ok get_ok, exact_, bind_ok read, List.any_cons]
    cases fits : bareFits p subject with
    | true =>
      rw [bareFits] at fits
      simp only [fits, if_true]
      rfl
    | false =>
      rw [bareFits] at fits
      simp only [fits, Bool.false_eq_true, if_false]
      exact others (fun q member => free q (List.mem_cons_of_mem _ member)) m

section Trimming

variable {front rest : List Char} {c : Char}

theorem reaches_behind {s : List Char} {n : Nat} :
    Reaches s [.star, .char c] 0 n ↔ ∃ j, s[j]? = some c ∧ n = j + 1 := by
  constructor
  · rintro ⟨j, _, _, ⟨found, rfl⟩, rfl⟩
    exact ⟨j, found, rfl⟩
  · rintro ⟨j, found, rfl⟩
    have within := (List.getElem?_eq_some_iff.mp found).1
    exact ⟨j, ⟨Nat.zero_le _, by omega⟩, _, ⟨found, rfl⟩, rfl⟩

-- What is behind the first of the characters.
theorem trim_behind (first : c ∉ front) :
    Pattern.trimStart [.star, .char c] false (front ++ c :: rest) = rest := by
  rw [trimStart_first (n := front.length + 1) rfl]
  · rw [List.drop_append, Nat.add_sub_cancel_left, List.drop_eq_nil_of_le (by simp)]
    rfl
  · exact reaches_behind.mpr ⟨front.length, by simp, rfl⟩
  · intro j reaches
    obtain ⟨k, found, rfl⟩ := reaches_behind.mp reaches
    by_cases inside : k < front.length
    · rw [List.getElem?_append_left inside] at found
      exact absurd (List.mem_of_getElem? found) first
    · omega

end Trimming

end Toolwrap.Running
