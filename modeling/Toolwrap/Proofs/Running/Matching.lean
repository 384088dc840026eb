import Mathlib.Computability.Language
import Toolwrap.Shell.Regex

-- What regular expressions match: the ways from a place lead behind the words of a
-- language, and behind all of them.

namespace Toolwrap.Running

open Shell Regex

-- An expression that matches the words of a language, wherever it stands.
structure Matches (r : Regex) (L : Language Char) : Prop where
  sound : ∀ w, ∀ v ∈ r.ways false w, ∃ m ∈ L, w.rest = m ++ v.rest ∧ v.index = w.index + m.length
  complete : ∀ w, ∀ m ∈ L, ∀ t, w.rest = m ++ t → ∃ v ∈ r.ways false w, v.index = w.index + m.length

-- What each kind of expression does with a way, and what one more of a list adds.
section Ways

variable (a b : Regex) (w : Way)

theorem ways_seq : (Regex.seq a b).ways false w =
    Way.distinct [] ((a.ways false w).flatMap (b.ways false)) := rfl

theorem ways_either : (Regex.either a b).ways false w =
    Way.distinct [] (a.ways false w ++ b.ways false w) := rfl

theorem ways_times (least : Nat) (most : Option Nat) : (Regex.times a least most).ways false w =
    upTo (a.ways false) (match most with | some m => m - least | none => w.rest.length + 1)
      ((exactly (a.ways false) least [w]).map (·.index)) (exactly (a.ways false) least [w]) := rfl

theorem ways_group (n : Nat) : (Regex.group n a).ways false w = (a.ways false w).map fun v =>
    { v with groups := (n, w.index, w.rest.take (v.index - w.index)) :: v.groups.filter fun g => g.1 != n } := rfl

theorem ways_back (n : Nat) : (Regex.back n).ways false w =
    match w.groups.find? fun g => g.1 == n with
    | some (_, _, text) => again false text w
    | none => [] := rfl

theorem ways_start : Regex.start.ways false w = if w.index == 0 then [w] else [] := rfl

theorem ways_finish : Regex.finish.ways false w = if w.rest.isEmpty then [w] else [] := rfl

theorem distinct_cons (seen : List Nat) (ws : List Way) : Way.distinct seen (w :: ws) =
    if seen.contains w.index then Way.distinct seen ws
    else w :: Way.distinct (w.index :: seen) ws := rfl

theorem upTo_succ (once : Way → List Way) (n : Nat) (seen : List Nat) (ws : List Way) :
    upTo once (n + 1) seen ws =
      if (Way.distinct seen (ws.flatMap once)).isEmpty then ws
      else upTo once n (seen ++ (Way.distinct seen (ws.flatMap once)).map (·.index))
        (Way.distinct seen (ws.flatMap once)) ++ ws := rfl

end Ways

section Distinct

variable {ws : List Way} {seen : List Nat} {v w : Way}

theorem distinct_mem (member : v ∈ Way.distinct seen ws) : v ∈ ws ∧ v.index ∉ seen := by
  induction ws generalizing seen with
  | nil => cases member
  | cons w ws kept =>
    rw [distinct_cons] at member
    split at member
    · obtain ⟨listed, new⟩ := kept member
      exact ⟨List.mem_cons_of_mem _ listed, new⟩
    · rename_i new
      rcases List.mem_cons.mp member with rfl | later
      · exact ⟨List.mem_cons_self .., by simpa using new⟩
      · obtain ⟨listed, unseen⟩ := kept later
        exact ⟨List.mem_cons_of_mem _ listed, fun there => unseen (List.mem_cons_of_mem _ there)⟩

-- Of the ways to a new place one is kept.
theorem distinct_kept (member : v ∈ ws) (new : v.index ∉ seen) :
    ∃ u ∈ Way.distinct seen ws, u.index = v.index := by
  induction ws generalizing seen with
  | nil => cases member
  | cons w ws kept =>
    rw [distinct_cons]
    rcases List.mem_cons.mp member with rfl | later
    · rw [if_neg (by simpa using new)]
      exact ⟨v, List.mem_cons_self .., rfl⟩
    · split
      · exact kept later new
      · by_cases here : v.index = w.index
        · exact ⟨w, List.mem_cons_self .., here.symm⟩
        · have unseen : v.index ∉ w.index :: seen := by
            rw [List.mem_cons]
            exact fun there => there.elim here new
          obtain ⟨u, listed, same⟩ := kept later unseen
          exact ⟨u, List.mem_cons_of_mem _ listed, same⟩

end Distinct

section Words

variable {a b : Regex} {A B : Language Char} {p : Char → Bool}

-- The words that are one character of a kind, and those of many.
def letters (p : Char → Bool) : Language Char := {m | ∃ c, p c = true ∧ m = [c]}

def runs (p : Char → Bool) : Language Char := {m | m ≠ [] ∧ ∀ c ∈ m, p c = true}

theorem rest_after {w v : Way} {m t : List Char} (matched : Matches a A) (member : v ∈ a.ways false w)
    (shape : w.rest = m ++ t) (place : v.index = w.index + m.length) : v.rest = t := by
  obtain ⟨n, _, parted, index⟩ := matched.sound w v member
  have same : n.length = m.length := by omega
  exact (List.append_inj (parted.symm.trans shape) same).2

theorem matches_empty : Matches .empty 1 := by
  refine ⟨fun w v member => ?_, fun w m nothing t shape => ?_⟩
  · obtain rfl := List.mem_singleton.mp member
    exact ⟨[], rfl, rfl, rfl⟩
  · obtain rfl : m = [] := nothing
    exact ⟨w, List.mem_singleton_self w, rfl⟩

theorem one_mem {w v : Way} (member : v ∈ one p w) :
    ∃ c, p c = true ∧ w.rest = c :: v.rest ∧ v.index = w.index + 1 := by
  unfold one at member
  split at member
  · rename_i c rest shape
    split at member
    · rename_i fits
      obtain rfl := List.mem_singleton.mp member
      exact ⟨c, fits, shape, rfl⟩
    · cases member
  · cases member

theorem one_eq {w : Way} {c : Char} {t : List Char} (fits : p c = true) (shape : w.rest = c :: t) :
    one p w = [w.next c t] := by
  unfold one
  rw [shape]
  exact if_pos fits

theorem matches_one (same : ∀ w, a.ways false w = one p w) : Matches a (letters p) := by
  refine ⟨fun w v member => ?_, fun w m ⟨c, fits, only⟩ t shape => ?_⟩
  · rw [same] at member
    obtain ⟨c, fits, shape, index⟩ := one_mem member
    exact ⟨[c], ⟨c, fits, rfl⟩, shape, index⟩
  · subst only
    rw [same, one_eq fits shape]
    exact ⟨_, List.mem_singleton_self _, rfl⟩

theorem matches_char (c : Char) : Matches (.char c) (letters (· == c)) :=
  matches_one fun _ => rfl

theorem set_ways (members : List Member) (w : Way) :
    (Regex.set false members).ways false w = one (fun c => members.any (·.holds c)) w := by
  have same : (fun d => fitsFolded false (fun d => members.any (·.holds d)) d != false) =
      fun c => members.any (·.holds c) := by
    funext d
    exact Bool.xor_false _
  exact congrArg (fun p => one p w) same

theorem matches_set (members : List Member) :
    Matches (.set false members) (letters fun c => members.any (·.holds c)) :=
  matches_one (set_ways members)

theorem matches_seq (first : Matches a A) (second : Matches b B) : Matches (.seq a b) (A * B) := by
  refine ⟨fun w v member => ?_, fun w m product t shape => ?_⟩
  · rw [ways_seq] at member
    obtain ⟨u, there, behind⟩ := List.mem_flatMap.mp (distinct_mem member).1
    obtain ⟨m, fits, before, index⟩ := first.sound w u there
    obtain ⟨n, also, after, place⟩ := second.sound u v behind
    refine ⟨m ++ n, Language.mem_mul.mpr ⟨m, fits, n, also, rfl⟩, ?_, ?_⟩
    · rw [before, after, List.append_assoc]
    · rw [place, index, List.length_append, Nat.add_assoc]
  · obtain ⟨m, fits, n, also, rfl⟩ := Language.mem_mul.mp product
    rw [List.append_assoc] at shape
    obtain ⟨u, there, index⟩ := first.complete w m fits (n ++ t) shape
    obtain ⟨v, behind, place⟩ := second.complete u n also t (rest_after first there shape index)
    obtain ⟨x, kept, same⟩ := distinct_kept (List.mem_flatMap.mpr ⟨u, there, behind⟩) (List.not_mem_nil)
    refine ⟨x, by rwa [ways_seq], ?_⟩
    rw [same, place, index, List.length_append, Nat.add_assoc]

theorem matches_either (first : Matches a A) (second : Matches b B) : Matches (.either a b) (A + B) := by
  refine ⟨fun w v member => ?_, fun w m sum t shape => ?_⟩
  · rw [ways_either] at member
    rcases List.mem_append.mp (distinct_mem member).1 with left | right
    · obtain ⟨m, fits, rest⟩ := first.sound w v left
      exact ⟨m, Or.inl fits, rest⟩
    · obtain ⟨m, fits, rest⟩ := second.sound w v right
      exact ⟨m, Or.inr fits, rest⟩
  · have found : ∃ v ∈ a.ways false w ++ b.ways false w, v.index = w.index + m.length := by
      rcases sum with left | right
      · obtain ⟨v, there, index⟩ := first.complete w m left t shape
        exact ⟨v, List.mem_append_left _ there, index⟩
      · obtain ⟨v, there, index⟩ := second.complete w m right t shape
        exact ⟨v, List.mem_append_right _ there, index⟩
    obtain ⟨v, there, index⟩ := found
    obtain ⟨x, kept, same⟩ := distinct_kept there (List.not_mem_nil)
    exact ⟨x, by rwa [ways_either], same.trans index⟩

theorem optional_ways (a : Regex) (w : Way) :
    (Regex.times a 0 (some 1)).ways false w =
      Way.distinct [w.index] (a.ways false w) ++ [w] := by
  rw [ways_times]
  change upTo (a.ways false) 1 [w.index] [w] = _
  rw [upTo_succ, List.flatMap_singleton]
  cases shape : Way.distinct [w.index] (a.ways false w) with
  | nil => rfl
  | cons v more => rfl

theorem matches_optional (matched : Matches a A) : Matches (.times a 0 (some 1)) (A + 1) := by
  refine ⟨fun w v member => ?_, fun w m sum t shape => ?_⟩
  · rw [optional_ways] at member
    rcases List.mem_append.mp member with once | none_
    · obtain ⟨m, fits, rest⟩ := matched.sound w v (distinct_mem once).1
      exact ⟨m, Or.inl fits, rest⟩
    · obtain rfl := List.mem_singleton.mp none_
      exact ⟨[], Or.inr rfl, rfl, rfl⟩
  · rw [optional_ways]
    rcases sum with fits | nothing
    · obtain ⟨v, there, index⟩ := matched.complete w m fits t shape
      by_cases stays : v.index = w.index
      · exact ⟨w, List.mem_append_right _ (List.mem_singleton_self w), by omega⟩
      · have new : v.index ∉ [w.index] := by simpa using stays
        obtain ⟨x, kept, same⟩ := distinct_kept there new
        exact ⟨x, List.mem_append_left _ kept, same.trans index⟩
    · obtain rfl : m = [] := nothing
      exact ⟨w, List.mem_append_right _ (List.mem_singleton_self w), rfl⟩

theorem optional_iff {m : List Char} : m ∈ letters p + 1 ↔ (∃ c, p c = true ∧ m = [c]) ∨ m = [] := Iff.rfl

-- A word that one character may stand in front of.
theorem optional_mul {m : List Char} :
    m ∈ (letters p + 1) * A ↔ (∃ c, p c = true ∧ ∃ k ∈ A, m = c :: k) ∨ m ∈ A := by
  rw [Language.mem_mul]
  constructor
  · rintro ⟨front, optional, k, word, rfl⟩
    rcases optional_iff.mp optional with ⟨c, fits, rfl⟩ | rfl
    · exact Or.inl ⟨c, fits, k, word, rfl⟩
    · exact Or.inr word
  · rintro (⟨c, fits, k, word, rfl⟩ | word)
    · exact ⟨[c], optional_iff.mpr (Or.inl ⟨c, fits, rfl⟩), k, word, rfl⟩
    · exact ⟨[], optional_iff.mpr (Or.inr rfl), m, word, rfl⟩

theorem upTo_sound {n : Nat} {seen : List Nat} {ws : List Way} {u : Way}
    (member : u ∈ upTo (one p) n seen ws) :
    ∃ v ∈ ws, ∃ m, (∀ c ∈ m, p c = true) ∧ v.rest = m ++ u.rest ∧ u.index = v.index + m.length := by
  induction n generalizing seen ws with
  | zero => exact ⟨u, member, [], nofun, rfl, rfl⟩
  | succ n further =>
    have here : u ∈ ws → ∃ v ∈ ws, ∃ m, (∀ c ∈ m, p c = true) ∧ v.rest = m ++ u.rest ∧
        u.index = v.index + m.length := fun there => ⟨u, there, [], nofun, rfl, rfl⟩
    rw [upTo_succ] at member
    split at member
    · exact here member
    · rcases List.mem_append.mp member with more | there
      · obtain ⟨x, next, m, fits, shape, index⟩ := further more
        obtain ⟨v, listed, stepped⟩ := List.mem_flatMap.mp (distinct_mem next).1
        obtain ⟨c, first, before, place⟩ := one_mem stepped
        refine ⟨v, listed, c :: m, ?_, ?_, ?_⟩
        · intro d inside
          rcases List.mem_cons.mp inside with rfl | later
          · exact first
          · exact fits d later
        · rw [before, shape]
          rfl
        · rw [index, place, List.length_cons]
          omega
      · exact here there

theorem upTo_holds {n : Nat} {seen : List Nat} {ws : List Way} {w : Way} {once : Way → List Way}
    (member : w ∈ ws) : w ∈ upTo once n seen ws := by
  cases n with
  | zero => exact member
  | succ n =>
    rw [upTo_succ]
    split
    · exact member
    · exact List.mem_append_right _ member

theorem upTo_complete {n : Nat} {seen : List Nat} {v : Way} {m t : List Char} (few : m.length ≤ n)
    (fits : ∀ c ∈ m, p c = true) (shape : v.rest = m ++ t) (behind : ∀ i ∈ seen, i ≤ v.index) :
    ∃ u ∈ upTo (one p) n seen [v], u.index = v.index + m.length := by
  induction m generalizing n seen v with
  | nil => exact ⟨v, upTo_holds (List.mem_singleton_self v), rfl⟩
  | cons c m further =>
    cases n with
    | zero => cases few
    | succ n =>
      have stepped : one p v = [v.next c (m ++ t)] := one_eq (fits c (List.mem_cons_self ..)) shape
      have new : (seen.contains (v.next c (m ++ t)).index) = false := by
        rw [List.contains_eq_mem, decide_eq_false_iff_not]
        exact fun there => Nat.not_succ_le_self _ (behind _ there)
      have more : Way.distinct seen ([v].flatMap (one p)) = [v.next c (m ++ t)] := by
        rw [List.flatMap_singleton, stepped, distinct_cons, new]
        rfl
      obtain ⟨u, there, index⟩ := @further n (seen ++ [v.index + 1]) (v.next c (m ++ t))
        (Nat.le_of_succ_le_succ few) (fun d later => fits d (List.mem_cons_of_mem _ later)) rfl (by
          intro i listed
          rcases List.mem_append.mp listed with old | last
          · exact Nat.le_succ_of_le (behind i old)
          · exact Nat.le_of_eq (List.mem_singleton.mp last))
      refine ⟨u, ?_, ?_⟩
      · rw [upTo_succ]
        simp only [more, List.isEmpty_cons, Bool.false_eq_true, if_false]
        exact List.mem_append_left _ there
      · rw [index, List.length_cons]
        change v.index + 1 + m.length = _
        omega

theorem matches_runs (same : ∀ w, a.ways false w = one p w) : Matches (.times a 1 none) (runs p) := by
  have first : a.ways false = one p := funext same
  have once : ∀ w, exactly (one p) 1 [w] = one p w := by
    intro w
    rw [exactly, exactly, List.flatMap_singleton, one]
    split
    · split <;> rfl
    · rfl
  refine ⟨fun w v member => ?_, fun w m ⟨filled, fits⟩ t shape => ?_⟩
  · rw [ways_times, first, once] at member
    obtain ⟨u, there, m, fits, shape, index⟩ := upTo_sound member
    obtain ⟨c, holds, before, place⟩ := one_mem there
    refine ⟨c :: m, ⟨List.cons_ne_nil _ _, ?_⟩, ?_, ?_⟩
    · intro d inside
      rcases List.mem_cons.mp inside with rfl | later
      · exact holds
      · exact fits d later
    · rw [before, shape]
      rfl
    · rw [index, place, List.length_cons]
      omega
  · cases m with
    | nil => exact absurd rfl filled
    | cons c m =>
      have stepped : one p w = [w.next c (m ++ t)] := one_eq (fits c (List.mem_cons_self ..)) shape
      have few : m.length ≤ w.rest.length + 1 := by
        rw [shape]
        simp
        omega
      obtain ⟨u, there, index⟩ := @upTo_complete p (w.rest.length + 1) [w.index + 1] (w.next c (m ++ t)) m t few
        (fun d later => fits d (List.mem_cons_of_mem _ later)) rfl (by
          intro i listed
          exact Nat.le_of_eq (List.mem_singleton.mp listed))
      refine ⟨u, ?_, ?_⟩
      · rw [ways_times, first, once, stepped]
        exact there
      · rw [index, List.length_cons]
        change w.index + 1 + m.length = _
        omega

theorem matches_group (n : Nat) (matched : Matches a A) : Matches (.group n a) A := by
  refine ⟨fun w v member => ?_, fun w m fits t shape => ?_⟩
  · rw [ways_group] at member
    obtain ⟨u, there, rfl⟩ := List.mem_map.mp member
    exact matched.sound w u there
  · obtain ⟨u, there, index⟩ := matched.complete w m fits t shape
    rw [ways_group]
    exact ⟨_, List.mem_map_of_mem there, index⟩

end Words

-- What a group matched, and that other parts of an expression leave it as it is.
section Groups

-- Expressions without groups.
def isUngrouped : Regex → Bool
  | .seq a b => isUngrouped a && isUngrouped b
  | .either a b => isUngrouped a && isUngrouped b
  | .times a _ _ => isUngrouped a
  | .group _ _ => false
  | _ => true

def textOf (v : Way) (n : Nat) : Option (List Char) := (v.groups.find? fun g => g.1 == n).map (·.2.2)

theorem group_text {n : Nat} {a : Regex} {w v : Way} (member : v ∈ (Regex.group n a).ways false w) :
    textOf v n = some (w.rest.take (v.index - w.index)) := by
  rw [ways_group] at member
  obtain ⟨u, _, rfl⟩ := List.mem_map.mp member
  rw [textOf, List.find?_cons_of_pos (by simp)]
  rfl

theorem group_other {n k : Nat} {a : Regex} {w v : Way} (other : k ≠ n)
    (kept : ∀ u ∈ a.ways false w, textOf u k = textOf w k) (member : v ∈ (Regex.group n a).ways false w) :
    textOf v k = textOf w k := by
  rw [ways_group] at member
  obtain ⟨u, there, rfl⟩ := List.mem_map.mp member
  rw [← kept u there, textOf, List.find?_cons_of_neg (by simpa using other.symm), textOf]
  congr 1
  rw [List.find?_filter]
  congr 1
  funext g
  by_cases same : g.1 = k
  · simp [same, other]
  · simp [same]

variable {once : Way → List Way} {gs : List (Nat × Nat × List Char)}
  (kept : ∀ w, ∀ v ∈ once w, v.groups = w.groups)

include kept

theorem exactly_groups {n : Nat} {ws : List Way} (same : ∀ w ∈ ws, w.groups = gs) :
    ∀ v ∈ exactly once n ws, v.groups = gs := by
  induction n generalizing ws with
  | zero => exact same
  | succ n further =>
    rw [exactly]
    refine further fun v member => ?_
    obtain ⟨w, listed, stepped⟩ := List.mem_flatMap.mp (distinct_mem member).1
    rw [kept w v stepped, same w listed]

theorem upTo_groups {n : Nat} {seen : List Nat} {ws : List Way} (same : ∀ w ∈ ws, w.groups = gs) :
    ∀ v ∈ upTo once n seen ws, v.groups = gs := by
  induction n generalizing seen ws with
  | zero => exact same
  | succ n further =>
    intro v member
    rw [upTo_succ] at member
    split at member
    · exact same v member
    · rcases List.mem_append.mp member with more | there
      · refine further (fun x next => ?_) v more
        obtain ⟨w, listed, stepped⟩ := List.mem_flatMap.mp (distinct_mem next).1
        rw [kept w x stepped, same w listed]
      · exact same v there

omit kept

theorem one_groups {p : Char → Bool} {w v : Way} (member : v ∈ one p w) : v.groups = w.groups := by
  unfold one at member
  split at member
  · split at member
    · obtain rfl := List.mem_singleton.mp member
      rfl
    · cases member
  · cases member

theorem again_groups {cs : List Char} {w v : Way} (member : v ∈ again false cs w) :
    v.groups = w.groups := by
  induction cs generalizing w with
  | nil =>
    obtain rfl := List.mem_singleton.mp member
    rfl
  | cons c cs further =>
    rw [again] at member
    split at member
    · split at member
      · exact (further member).trans rfl
      · cases member
    · cases member

theorem held_groups {b : Bool} {w v : Way} (member : v ∈ (if b then [w] else [])) :
    v.groups = w.groups := by
  cases b with
  | true =>
    obtain rfl := List.mem_singleton.mp member
    rfl
  | false => cases member

-- One case for each kind of expression.
theorem ungrouped_groups {r : Regex} (none_ : isUngrouped r = true) {w v : Way}
    (member : v ∈ r.ways false w) : v.groups = w.groups := by
  induction r generalizing w v with
  | char c => exact one_groups member
  | any => exact one_groups member
  | set negated members => exact one_groups member
  | start => exact held_groups member
  | finish => exact held_groups member
  | empty =>
    obtain rfl := List.mem_singleton.mp member
    rfl
  | edge begins ends => exact held_groups member
  | noEdge => exact held_groups member
  | seq a b first second =>
    obtain ⟨left, right⟩ := Bool.and_eq_true_iff.mp none_
    rw [ways_seq] at member
    obtain ⟨u, there, behind⟩ := List.mem_flatMap.mp (distinct_mem member).1
    exact (second right behind).trans (first left there)
  | either a b first second =>
    obtain ⟨left, right⟩ := Bool.and_eq_true_iff.mp none_
    rw [ways_either] at member
    rcases List.mem_append.mp (distinct_mem member).1 with there | there
    · exact first left there
    · exact second right there
  | times a least most inner =>
    rw [ways_times] at member
    have kept : ∀ u, ∀ x ∈ a.ways false u, x.groups = u.groups := fun u x stepped => inner none_ stepped
    refine upTo_groups kept (exactly_groups kept ?_) v member
    rintro u listed
    rw [List.mem_singleton.mp listed]
  | group n a inner => cases none_
  | back n =>
    rw [ways_back] at member
    split at member
    · exact again_groups member
    · cases member

end Groups

-- Where an expression that begins at the start of a text is found in it.
section Searching

variable {r : Regex} {s : List Char} {m : Match}

theorem longest_mem {ws : List Way} {w : Way} (found : longest ws = some w) : w ∈ ws := by
  induction ws generalizing w with
  | nil => cases found
  | cons u ws inner =>
    rw [longest] at found
    split at found
    · rename_i v rest
      split at found
      · obtain rfl := Option.some.inj found
        exact List.mem_cons_of_mem _ (inner rest)
      · obtain rfl := Option.some.inj found
        exact List.mem_cons_self ..
    · obtain rfl := Option.some.inj found
      exact List.mem_cons_self ..

theorem longest_some {ws : List Way} (filled : ws ≠ []) : ∃ w, longest ws = some w := by
  cases ws with
  | nil => exact absurd rfl filled
  | cons u ws =>
    rw [longest]
    split
    · split <;> exact ⟨_, rfl⟩
    · exact ⟨_, rfl⟩

theorem searchFrom_late (anchored : ∀ w, w.index ≠ 0 → r.ways false w = []) {index : Nat}
    (late : index ≠ 0) (before : Option Char) : searchFrom false r index before s = none := by
  induction s generalizing index before with
  | nil => rw [searchFrom, anchored _ late]; rfl
  | cons c s further =>
    rw [searchFrom, anchored _ late]
    exact further (Nat.succ_ne_zero index) (some c)

theorem search_anchored (anchored : ∀ w, w.index ≠ 0 → r.ways false w = []) :
    search false r s = searchFrom.found 0 s (r.ways false ⟨0, none, s, []⟩) := by
  unfold search
  cases s with
  | nil => rfl
  | cons c s =>
    rw [searchFrom]
    split
    · rename_i found
      exact found.symm
    · rename_i absent
      rw [searchFrom_late anchored Nat.one_ne_zero, absent]

-- An expression that matches the words of a language at the start of a text alone.
structure Begins (r : Regex) (L : Language Char) : Prop where
  sound : ∀ w, ∀ v ∈ r.ways false w,
    w.index = 0 ∧ ∃ m ∈ L, w.rest = m ++ v.rest ∧ v.index = w.index + m.length
  complete : ∀ w, w.index = 0 → ∀ m ∈ L, ∀ t, w.rest = m ++ t →
    ∃ v ∈ r.ways false w, v.index = w.index + m.length

variable {a b : Regex} {A B : Language Char}

theorem seq_mem {w v : Way} (member : v ∈ (Regex.seq a b).ways false w) :
    ∃ u ∈ a.ways false w, v ∈ b.ways false u := by
  rw [ways_seq] at member
  exact List.mem_flatMap.mp (distinct_mem member).1

theorem begins_start : Begins (.seq .empty .start) 1 := by
  have only : ∀ w v : Way, v ∈ (Regex.seq .empty .start).ways false w → w.index = 0 ∧ v = w := by
    intro w v member
    obtain ⟨u, there, here⟩ := seq_mem member
    obtain rfl := List.mem_singleton.mp there
    rw [ways_start] at here
    split at here
    · rename_i first
      exact ⟨by simpa using first, List.mem_singleton.mp here⟩
    · cases here
  refine ⟨fun w v member => ?_, fun w first m nothing t shape => ?_⟩
  · obtain ⟨first, rfl⟩ := only w v member
    exact ⟨first, [], rfl, rfl, rfl⟩
  · obtain rfl : m = [] := nothing
    have there : w ∈ ([w].flatMap (Regex.start.ways false)) := by
      rw [List.flatMap_singleton, ways_start, first]
      exact List.mem_singleton_self w
    obtain ⟨x, kept, same⟩ := distinct_kept there List.not_mem_nil
    exact ⟨x, by rwa [ways_seq], same⟩

theorem begins_after {w v : Way} {m t : List Char} (begins : Begins a A) (member : v ∈ a.ways false w)
    (shape : w.rest = m ++ t) (place : v.index = w.index + m.length) : v.rest = t := by
  obtain ⟨_, n, _, parted, index⟩ := begins.sound w v member
  have same : n.length = m.length := by omega
  exact (List.append_inj (parted.symm.trans shape) same).2

theorem begins_seq (first : Begins a A) (second : Matches b B) : Begins (.seq a b) (A * B) := by
  refine ⟨fun w v member => ?_, fun w start m product t shape => ?_⟩
  · obtain ⟨u, there, behind⟩ := seq_mem member
    obtain ⟨start, m, fits, before, index⟩ := first.sound w u there
    obtain ⟨n, also, after, place⟩ := second.sound u v behind
    refine ⟨start, m ++ n, Language.mem_mul.mpr ⟨m, fits, n, also, rfl⟩, ?_, ?_⟩
    · rw [before, after, List.append_assoc]
    · rw [place, index, List.length_append, Nat.add_assoc]
  · obtain ⟨m, fits, n, also, rfl⟩ := Language.mem_mul.mp product
    rw [List.append_assoc] at shape
    obtain ⟨u, there, index⟩ := first.complete w start m fits (n ++ t) shape
    obtain ⟨v, behind, place⟩ := second.complete u n also t (begins_after first there shape index)
    obtain ⟨x, kept, same⟩ := distinct_kept (List.mem_flatMap.mpr ⟨u, there, behind⟩) List.not_mem_nil
    refine ⟨x, by rwa [ways_seq], ?_⟩
    rw [same, place, index, List.length_append, Nat.add_assoc]

theorem finish_mem {w v : Way} (member : v ∈ (Regex.seq a .finish).ways false w) :
    v ∈ a.ways false w ∧ v.rest = [] := by
  obtain ⟨u, there, finish⟩ := seq_mem member
  rw [ways_finish] at finish
  split at finish
  · rename_i empty
    obtain rfl := List.mem_singleton.mp finish
    exact ⟨there, List.isEmpty_iff.mp empty⟩
  · cases finish

section Whole

variable (begins : Begins a A)

include begins

theorem begins_anchored (w : Way) (late : w.index ≠ 0) : (Regex.seq a .finish).ways false w = [] := by
  refine List.eq_nil_iff_forall_not_mem.mpr fun v member => ?_
  exact late (begins.sound w v (finish_mem member).1).1

theorem whole_word {w : Way} (way : w ∈ a.ways false ⟨0, none, s, []⟩) (nothing : w.rest = []) :
    s ∈ A ∧ w.index = s.length := by
  obtain ⟨_, k, fits, parted, place⟩ := begins.sound _ w way
  rw [nothing, List.append_nil] at parted
  change s = k at parted
  subst parted
  exact ⟨fits, by omega⟩

-- A whole text is found if it is a word, by a way that leaves nothing of it.
theorem whole_found (word : s ∈ A) :
    ∃ m, search false (.seq a .finish) s = some m ∧ m.text = s ∧
      ∃ w ∈ a.ways false ⟨0, none, s, []⟩, w.rest = [] ∧ m.groups = w.groups := by
  obtain ⟨u, there, index⟩ := begins.complete ⟨0, none, s, []⟩ rfl s word [] (List.append_nil s).symm
  have finish : u ∈ Regex.finish.ways false u := by
    rw [ways_finish, begins_after begins there (List.append_nil s).symm index]
    exact List.mem_singleton_self u
  obtain ⟨x, kept, _⟩ := distinct_kept (List.mem_flatMap.mpr ⟨u, there, finish⟩) List.not_mem_nil
  have filled : (Regex.seq a .finish).ways false ⟨0, none, s, []⟩ ≠ [] := by
    rw [ways_seq]
    exact List.ne_nil_of_mem kept
  obtain ⟨w, found⟩ := longest_some filled
  obtain ⟨way, nothing⟩ := finish_mem (longest_mem found)
  refine ⟨⟨0, s.take (w.index - 0), w.before, w.rest, w.groups⟩, ?_, ?_, w, way, nothing, rfl⟩
  · rw [search_anchored (begins_anchored begins), searchFrom.found, found]
    rfl
  · change s.take (w.index - 0) = s
    rw [(whole_word begins way nothing).2]
    exact List.take_length

theorem whole_absent (other : s ∉ A) : search false (.seq a .finish) s = none := by
  have nowhere : (Regex.seq a .finish).ways false ⟨0, none, s, []⟩ = [] := by
    refine List.eq_nil_iff_forall_not_mem.mpr fun v member => other ?_
    obtain ⟨way, nothing⟩ := finish_mem member
    exact (whole_word begins way nothing).1
  rw [search_anchored (begins_anchored begins), nowhere]
  rfl

end Whole

-- An expression that begins with the start of a text is found where a word stands in front.
theorem begins_found (begins : Begins a A) : (search false a s).isSome = true ↔ ∃ m ∈ A, m <+: s := by
  have anchored : ∀ w, w.index ≠ 0 → a.ways false w = [] := fun w late =>
    List.eq_nil_iff_forall_not_mem.mpr fun v member => late (begins.sound w v member).1
  rw [search_anchored anchored]
  constructor
  · intro found
    have filled : a.ways false ⟨0, none, s, []⟩ ≠ [] := by
      intro empty
      rw [empty] at found
      cases found
    obtain ⟨v, member⟩ := List.exists_mem_of_ne_nil _ filled
    obtain ⟨-, m, word, parted, -⟩ := begins.sound _ v member
    exact ⟨m, word, v.rest, parted.symm⟩
  · rintro ⟨m, word, rest, parted⟩
    obtain ⟨v, member, -⟩ := begins.complete ⟨0, none, s, []⟩ rfl m word rest parted.symm
    obtain ⟨w, found⟩ := longest_some (List.ne_nil_of_mem member)
    rw [searchFrom.found, found]
    rfl

end Searching

end Toolwrap.Running
