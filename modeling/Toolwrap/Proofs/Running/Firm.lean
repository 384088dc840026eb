import Toolwrap.Proofs.Running.Pieces
import Toolwrap.Proofs.Running.Translating

-- Texts that are what their bytes write: no loose bytes in them make up a character. Writing such
-- a text does not change it, and it can be taken apart and put together at any of the first 128
-- characters, since their bytes belong to no other character.

namespace Toolwrap.Running

open Shell Text

def Firm (cs : List Char) : Prop := ofBytes (bytes cs) = cs

section Apart

variable {b : Nat} {rest ys : List Nat}

theorem tails_apart (few : b < 128) (k : Nat) : ((rest ++ b :: ys).take k).takeWhile isTail = (rest.take k).takeWhile isTail := by
  have stops : isTail b = false := by
    unfold isTail
    simp only [Bool.and_eq_false_iff, decide_eq_false_iff_not]
    exact Or.inl (by omega)
  induction rest generalizing k with
  | nil =>
    cases k with
    | zero => rfl
    | succ k => simp [stops]
  | cons a rest same =>
    cases k with
    | zero => rfl
    | succ k => simp only [List.cons_append, List.take_succ_cons, List.takeWhile_cons, same]

theorem firstOf_apart (few : b < 128) (a : Nat) : firstOf a (rest ++ b :: ys) = firstOf a rest := by
  unfold firstOf
  rw [tails_apart few]

-- What two or three bytes write takes two of them, or three if the third is there.
theorem short_size {a x : Nat} {y? : Option Nat} {found : Char × Nat} (here : firstOf.short a x y? = some found) :
    found.2 = 2 ∨ y?.isSome ∧ found.2 = 3 := by
  unfold firstOf.short at here
  split at here
  · obtain ⟨c, _, rfl⟩ := Option.map_eq_some_iff.mp here
    exact Or.inl rfl
  · split at here
    · cases y? with
      | none => cases here
      | some y =>
        rw [Option.bind_eq_bind, Option.bind_some] at here
        obtain ⟨c, _, rfl⟩ := Option.map_eq_some_iff.mp here
        exact Or.inr ⟨rfl, rfl⟩
    · cases here

theorem getD_within {found : Option (Char × Nat)} {c : Char} {n : Nat} (sizes : ∀ e, found = some e → e.2 - 1 ≤ n) :
    (found.getD (c, 1)).2 - 1 ≤ n := by
  cases found with
  | none => exact Nat.zero_le _
  | some e => exact sizes e rfl

-- A character takes no more bytes than there are.
theorem firstOf_within (a : Nat) (rest : List Nat) : (firstOf a rest).2 - 1 ≤ rest.length := by
  have listed : ((rest.take 3).takeWhile isTail).length ≤ rest.length :=
    (List.takeWhile_sublist _).length_le.trans (List.length_take_le' ..)
  unfold firstOf
  split
  · exact Nat.zero_le _
  · generalize (rest.take 3).takeWhile isTail = tails at listed
    refine getD_within fun e here => ?_
    rcases tails with _ | ⟨x, _ | ⟨y, _ | ⟨z, more⟩⟩⟩ <;> dsimp only at here <;>
      simp only [List.length_cons, List.length_nil] at listed
    · cases here
    · rcases short_size here with two | ⟨three, _⟩
      · omega
      · cases three
    · rcases short_size here with two | ⟨_, three⟩ <;> omega
    · split at here
      · obtain ⟨c, _, rfl⟩ := Option.map_eq_some_iff.mp here
        dsimp only
        omega
      · rcases short_size here with two | ⟨_, three⟩ <;> omega

theorem ofBytesFrom_drop (k : Nat) (bs : List Nat) : ofBytesFrom k bs = ofBytes (bs.drop k) := by
  induction k generalizing bs with
  | zero => rfl
  | succ k dropped =>
    cases bs with
    | nil => rfl
    | cons b bs => rw [ofBytesFrom, dropped, List.drop_succ_cons]

theorem ofBytes_cons (a : Nat) (rest : List Nat) :
    ofBytes (a :: rest) = (firstOf a rest).1 :: ofBytes (rest.drop ((firstOf a rest).2 - 1)) := by
  rw [ofBytes, ofBytesFrom]
  exact congrArg _ (ofBytesFrom_drop ..)

theorem ofBytes_apart (few : b < 128) (xs ys : List Nat) :
    ofBytes (xs ++ b :: ys) = ofBytes xs ++ Char.ofNat b :: ofBytes ys := by
  have counted : ∀ size, ∀ xs : List Nat, xs.length = size →
      ofBytes (xs ++ b :: ys) = ofBytes xs ++ Char.ofNat b :: ofBytes ys := by
    intro size
    induction size using Nat.strong_induction_on with
    | _ size shorter =>
      intro xs long
      cases xs with
      | nil =>
        have one : firstOf b ys = (Char.ofNat b, 1) := by
          unfold firstOf
          rw [if_pos few]
        rw [List.nil_append, ofBytes_cons, one]
        rfl
      | cons a rest =>
        have within := firstOf_within a rest
        rw [List.length_cons] at long
        rw [List.cons_append, ofBytes_cons, ofBytes_cons, firstOf_apart few, List.drop_append_of_le_length within,
          shorter _ (by rw [List.length_drop]; omega) _ rfl, List.cons_append]
  exact counted xs.length xs rfl

end Apart

section Firm

variable {c : Char} {a b cs piece : List Char}

theorem firm_ascii (ascii : ∀ d ∈ cs, isAscii d = true) : Firm cs := by
  unfold Firm
  rw [bytes_ascii ascii, ofBytes_ascii ascii]

theorem bytes_apart (ascii : isAscii c = true) :
    bytes (a ++ c :: b) = bytes a ++ c.toNat :: bytes b := by
  have one : bytesOf c = [c.toNat] := by
    have alone := @bytes_ascii [c] fun d member => List.mem_singleton.mp member ▸ ascii
    simpa [bytes] using alone
  unfold bytes
  rw [List.flatMap_append, List.flatMap_cons, one]
  rfl

theorem firm_parts (ascii : isAscii c = true) :
    ofBytes (bytes (a ++ c :: b)) = ofBytes (bytes a) ++ c :: ofBytes (bytes b) := by
  rw [bytes_apart ascii, ofBytes_apart (ascii_below ascii), Char.ofNat_toNat]

theorem firm_join (first : Firm a) (ascii : isAscii c = true) (second : Firm b) : Firm (a ++ c :: b) := by
  unfold Firm at first second ⊢
  rw [firm_parts ascii, first, second]

theorem toNat_ofNat (n : Nat) : (Char.ofNat n).toNat = if n.isValidChar then n else 0 := by
  unfold Char.ofNat
  by_cases valid : n.isValidChar
  · rw [dif_pos valid, if_pos valid]
    rfl
  · rw [dif_neg valid, if_neg valid]
    rfl

section Small

variable {d : Char}

theorem above_apart (ascii : isAscii d = true) (solid : d ≠ '\x00') {n : Nat} (high : 128 ≤ n) : Char.ofNat n ≠ d := by
  have below := ascii_below ascii
  rintro rfl
  rw [toNat_ofNat] at below
  by_cases valid : n.isValidChar
  · rw [if_pos valid] at below
    omega
  · refine solid (Char.toNat_inj.mp ?_)
    rw [toNat_ofNat, if_neg valid]
    rfl

theorem scalar_apart (ascii : isAscii d = true) (solid : d ≠ '\x00') {least n : Nat} {e : Char} (high : 128 ≤ least)
    (here : scalar? least n = some e) : e ≠ d := by
  unfold scalar? at here
  split at here
  · cases here
  · rename_i inside
    simp only [Bool.or_eq_true, decide_eq_true_eq, not_or, Nat.not_lt] at inside
    obtain rfl := Option.some.inj here
    exact above_apart ascii solid (Nat.le_trans high inside.1.1)

theorem short_apart (ascii : isAscii d = true) (solid : d ≠ '\x00') {a x : Nat} {y? : Option Nat} {e : Char × Nat}
    (here : firstOf.short a x y? = some e) : e.1 ≠ d := by
  unfold firstOf.short at here
  split at here
  · obtain ⟨c, scalar, rfl⟩ := Option.map_eq_some_iff.mp here
    exact scalar_apart ascii solid (Nat.le_refl 128) scalar
  · split at here
    · cases y? with
      | none => cases here
      | some y =>
        rw [Option.bind_eq_bind, Option.bind_some] at here
        obtain ⟨c, scalar, rfl⟩ := Option.map_eq_some_iff.mp here
        exact scalar_apart ascii solid (show 128 ≤ 0x800 by decide) scalar
    · cases here

-- A byte below 128 is the character itself wherever it stands.
theorem small_first (ascii : isAscii d = true) (solid : d ≠ '\x00') {x : Nat} {rest : List Nat}
    (same : (firstOf x rest).1 = d) : x = d.toNat := by
  unfold firstOf at same
  split at same
  · rename_i small
    rw [← same, toNat_ofNat, if_pos (Or.inl (by omega))]
  · exfalso
    generalize (rest.take 3).takeWhile isTail = tails at same
    have others : ∀ found : Option (Char × Nat), (∀ e, found = some e → e.1 ≠ d) →
        (found.getD (loose x, 1)).1 ≠ d := by
      intro found apart
      cases found with
      | none => exact above_apart ascii solid (Nat.le_trans (show 128 ≤ looseBase by decide) (Nat.le_add_right ..))
      | some e => exact apart e rfl
    refine others _ (fun e here => ?_) same
    rcases tails with _ | ⟨y, _ | ⟨z, _ | ⟨w, more⟩⟩⟩ <;> dsimp only at here
    · cases here
    · exact short_apart ascii solid here
    · exact short_apart ascii solid here
    · split at here
      · obtain ⟨c, scalar, rfl⟩ := Option.map_eq_some_iff.mp here
        exact scalar_apart ascii solid (show 128 ≤ 0x10000 by decide) scalar
      · exact short_apart ascii solid here

end Small

theorem small_listed (ascii : isAscii c = true) (solid : c ≠ '\x00') {bs : List Nat} (member : c ∈ ofBytes bs) :
    c.toNat ∈ bs := by
  have counted : ∀ size, ∀ bs : List Nat, bs.length = size → c ∈ ofBytes bs → c.toNat ∈ bs := by
    intro size
    induction size using Nat.strong_induction_on with
    | _ size shorter =>
      intro bs long member
      cases bs with
      | nil => cases member
      | cons x rest =>
        rw [ofBytes_cons] at member
        rcases List.mem_cons.mp member with here | later
        · rw [small_first ascii solid here.symm]
          exact List.mem_cons_self ..
        · rw [List.length_cons] at long
          have found := shorter _ (by rw [List.length_drop]; omega) _ rfl later
          exact List.mem_cons_of_mem _ (List.mem_of_mem_drop found)
  exact counted bs.length bs rfl member

theorem small_written (ascii : isAscii c = true) (member : c.toNat ∈ bytes cs) : c ∈ cs := by
  have below := ascii_below ascii
  obtain ⟨d, inside, byte⟩ := List.mem_flatMap.mp member
  have same : c.toNat = d.toNat := by
    unfold bytesOf at byte
    split at byte
    · rename_i x found
      unfold looseByte? at found
      split at found
      · rename_i range
        simp only [Bool.and_eq_true, decide_eq_true_eq] at range
        obtain rfl := Option.some.inj found
        rw [List.mem_singleton] at byte
        unfold looseBase at range byte
        omega
      · cases found
    · unfold utf8 at byte
      split at byte
      · exact List.mem_singleton.mp byte
      · split at byte
        · simp only [List.mem_cons, List.not_mem_nil, or_false] at byte
          omega
        · split at byte <;> simp only [List.mem_cons, List.not_mem_nil, or_false] at byte <;> omega
  exact Char.toNat_inj.mp same ▸ inside

-- A firm text is firm on both sides of the first place where a character stands.
theorem firm_first (ascii : isAscii c = true) (solid : c ≠ '\x00') (free : c ∉ a) (firm : Firm (a ++ c :: b)) :
    Firm a ∧ Firm b := by
  have unwritten : c ∉ ofBytes (bytes a) := fun member =>
    free (small_written ascii (small_listed ascii solid member))
  unfold Firm at firm
  rw [firm_parts ascii] at firm
  have pieces := congrArg (Chars.splitAt c) firm
  rw [splitAt_append, splitAt_append, splitAt_absent unwritten, splitAt_absent free] at pieces
  have front : ofBytes (bytes a) = a := (List.cons.inj pieces).1
  rw [front, List.append_cancel_left_eq] at firm
  exact ⟨front, (List.cons.inj firm).2⟩

theorem firm_pieces (ascii : isAscii c = true) (solid : c ≠ '\x00') (firm : Firm cs)
    (member : piece ∈ Chars.splitAt c cs) : Firm piece := by
  induction cs using @pieces_induction c with
  | last whole free =>
    rw [splitAt_absent free, List.mem_singleton] at member
    exact member ▸ firm
  | next front rest free goes =>
    rw [splitAt_append, splitAt_absent free, List.mem_append, List.mem_singleton] at member
    obtain ⟨first, second⟩ := firm_first ascii solid free firm
    rcases member with rfl | later
    · exact first
    · exact goes second later

-- Writing a firm text at the front of a text that is kept does not change it.
theorem joinTexts_firm {out : String} (firm : Firm out.toList) : Session.joinTexts "" out = out := by
  unfold Session.joinTexts
  rw [String.empty_append]
  split
  · rename_i some_
    unfold mended
    rw [if_pos some_, firm, String.ofList_toList]
  · rfl

end Firm

end Toolwrap.Running
