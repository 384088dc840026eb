import Toolwrap.Proofs.Mounting.Functions
import Toolwrap.Proofs.Mounting.Paths
import Toolwrap.Proofs.Running.Counting
import Toolwrap.Proofs.Running.Lines
import Toolwrap.Proofs.Running.Rounds
import Toolwrap.Proofs.Running.Trimming

-- The names to which the pieces of a path lead: what one piece does to the array of them, and
-- from it, what all pieces do one after the other.

namespace Toolwrap.Mounting

open Shell Running

-- A session in which names have been collected, which differs from another in its variables.
structure Stage (e t : Session) (names : Place) : Prop where
  same : ∃ scopes status, t = { e with scopes, status }
  parted : t.value? "IFS" = some "/"
  lists : Lists t "outp" names
  plain : ∀ x ∈ ["IFS", "outp", "len", "i"], Ordinarily t x
  flat : ∀ x ∈ ["len", "i"], Flat t x

section Stages

variable {e t : Session} {names others : Place} {x value : String}

theorem Stage.quiet (stage : Stage e t names) (quiet : Quiet e) : Quiet t := by
  obtain ⟨_, _, rfl⟩ := stage.same
  exact quiet

theorem Stage.left (stage : Stage e t names) (status : Nat) : Stage e { t with status } names := by
  obtain ⟨⟨scopes, _, rfl⟩, parted, lists, plain, flat⟩ := stage
  exact ⟨⟨scopes, status, rfl⟩, parted, lists, plain, flat⟩

theorem lists_given (other : x ≠ "outp") (lists : Lists t "outp" names) : Lists (given t x value) "outp" names := by
  obtain ⟨v, found, content⟩ := lists
  refine ⟨v, ?_, content⟩
  rw [given, find_put, if_neg (Ne.symm other), found]

theorem Stage.counted (stage : Stage e t names) (counter : x ∈ ["len", "i"]) : Stage e (given t x value) names := by
  obtain ⟨⟨scopes, status, rfl⟩, parted, lists, plain, flat⟩ := stage
  have apart : ∀ y ∈ ["len", "i"], y ≠ "outp" ∧ y ≠ "IFS" := by decide
  refine ⟨⟨_, status, rfl⟩, ?_, lists_given (apart x counter).1 lists, fun y member => given_ordinarily (plain y member),
    fun y member => given_flat (flat y member)⟩
  rw [given_value, if_neg (Ne.symm (apart x counter).2), parted]

theorem Stage.listed (stage : Stage e t names) : Stage e (listing t "outp" others) others := by
  obtain ⟨⟨scopes, status, rfl⟩, parted, lists, plain, flat⟩ := stage
  have apart : ∀ y ∈ ["len", "i"], y ≠ "outp" := by decide
  refine ⟨⟨_, status, rfl⟩, ?_, listing_lists, fun y member => listing_ordinarily (plain y member), fun y member v found => ?_⟩
  · unfold Session.value?
    rw [listing_find, if_neg (by decide)]
    exact parted
  · rw [listing_find, if_neg (apart y member)] at found
    exact flat y member v found

end Stages

section Pieces

variable {E : Engine} {e t : Session} {names front : Place} {piece last : String} {n : Nat} (quiet : Quiet e)
  (stage : Stage e t names)

-- The patterns of the three branches.
theorem kept_fits (calm : Quiet t) :
    Yields (fitsAny E piece [[.single ""], bare "."]) t (decide (piece = "" ∨ piece = ".")) := by
  have dot := @fitsAny_bare E t calm ["."] piece (by decide)
  have either := @fitsAny_single E t piece "" _ _ calm dot
  have same : (decide (piece = "") || ["."].any fun p => bareFits p piece) = decide (piece = "" ∨ piece = ".") := by
    have fits := @word_fits "." piece (List.all_iff_forall_prop.mp (by decide))
    rw [Bool.eq_iff_iff]
    simp [fits]
  rwa [same] at either

theorem back_fits (calm : Quiet t) : Yields (fitsAny E piece [bare ".."]) t (decide (piece = "..")) := by
  have dots := @fitsAny_bare E t calm [".."] piece (by decide)
  have same : ([".."].any fun p => bareFits p piece) = decide (piece = "..") := by
    have fits := @word_fits ".." piece (List.all_iff_forall_prop.mp (by decide))
    rw [Bool.eq_iff_iff]
    simp [fits]
  rwa [same] at dots

theorem any_fits (calm : Quiet t) : Yields (fitsAny E piece [bare "*"]) t true := by
  have all := @fitsAny_bare E t calm ["*"] piece (by decide)
  rwa [List.any_cons, all_fits, Bool.true_or] at all

theorem counter_stands {x value : String} (counter : x ∈ ["len", "i"]) (plain : Ordinarily t x)
    (held : t.value? x = some value) : Stands t x (some value) := by
  have own : ∀ y ∈ ["len", "i"], isOwn y = true := by decide
  rw [← held]
  exact stands_own (own x counter) plain

theorem Stage.stands (stage : Stage e t names) {x value : String} (counter : x ∈ ["len", "i"])
    (held : t.value? x = some value) : Stands t x (some value) := by
  have plain : ∀ y ∈ ["len", "i"], y ∈ ["IFS", "outp", "len", "i"] := by decide
  exact counter_stands counter (stage.plain x (plain x counter)) held

theorem someLeft_comesTo {k : Nat} (calm : Quiet t) (held : Stands t "len" (some (toString k))) (small : k < 2 ^ 63)
    (sheltered : t.shielded = true) : ComesTo (someLeft.run E) t (.ok () { t with status := if k = 0 then 1 else 0 }) := by
  have read : Arithmetic.read false "len != 0" =
      ⟨.binary .differ (.name ⟨"len", none⟩) (.number 0) "0", none⟩ := by decide
  have valued : Yields ((Arithmetic.Expr.binary .differ (.name ⟨"len", none⟩) (.number 0) "0").value
      (Arithmetic.valueOfText "((: " 1023) (Arithmetic.failWith "((: " "len != 0")) t (Arithmetic.truth ((k : Int) != 0)) :=
    (name_value held (valueOfText_numeral calm "((: " 1022 small)).bind (yields_pure.bind yields_pure)
  have asked := arith_comesTo (E := E) calm (spells_text "len != 0") (calculate_read calm read valued) sheltered
  have same : (if Arithmetic.truth ((k : Int) != 0) = 0 then 1 else 0) = if k = 0 then 1 else 0 := by
    by_cases zero : k = 0 <;> simp [zero, Arithmetic.truth]
  rwa [same] at asked

def lastOnly (k : Nat) : Known := fun x => if x = "len" then some (k + 1) else none

theorem dropLast_spells {k : Nat} (calm : Quiet t) (held : Stands t "len" (some (toString (k + 1)))) (small : k + 1 < 2 ^ 63) :
    Spells E t [.text "outp[", .arith [.text "len - 1"], .text "]"] (itemWord "outp" k) := by
  have knows : Knows t (lastOnly k) := by
    intro x n found
    unfold lastOnly at found
    split at found
    · rename_i named
      rw [named, ← Option.some.inj found]
      exact held
    · cases found
  have read : Arithmetic.read false "len - 1" = ⟨.binary .sub (.name ⟨"len", none⟩) (.number 1) "1", none⟩ := by
    decide +kernel
  have length : reckoned? (lastOnly k) (.name ⟨"len", none⟩) = some (k + 1) := name_exact (if_pos rfl) small
  have one : reckoned? (lastOnly k) (.number 1) = some 1 := number_exact (by decide)
  have taken : operated .sub (k + 1) 1 = some k := subtracted small (Nat.le_add_left 1 k)
  have exactly : Exactly (lastOnly k) "len - 1" k := ⟨_, read, binary_exact "1" length one taken⟩
  have computed := reckons_values (E := E) calm ⟨_, _, knows, spells_text "len - 1", exactly⟩
  have shape : itemWord "outp" k = "outp[" ++ (toString k ++ "]") := by
    rw [← String.toList_inj, itemWord_chars]
    simp
  rw [shape]
  exact spells_cons (spells_text _) (spells_cons (values_spells computed) (spells_text _))

include quiet stage

theorem counting_comesTo : ComesTo (counting.run E) t (.ok () { given t "len" (toString names.length) with status := 0 }) := by
  have calm := stage.quiet quiet
  refine assign_comesTo calm (by decide) (stage.plain "len" (by decide)) (stage.flat "len" (by decide)) ?_
  exact values_valueText (count_values calm (by decide) (stage.plain "outp" (by decide)) stage.lists) nofun

-- A round of the loop, from what the branches come to once the piece is at hand.
theorem round_ran {line : Nat} {r : Ending Bool} (ran : Yields (Word.text E (quotedRef "i")) (given t "i" piece) piece →
      ComesTo (loopRound (runScript E [.located n (pieceCase n)])) (given t "i" piece) r) :
    ComesTo (forRound E "i" (quotedItems "parr") [.located n (pieceCase n)] line piece) t r := by
  have calm := stage.quiet quiet
  have began : Quiet (given t "i" piece) := calm
  have counted : Stage e (given t "i" piece) names := stage.counted (by decide)
  have holds : (given t "i" piece).value? "i" = some piece := by rw [given_value, if_pos rfl]
  refine round_comesTo calm (store_gives (by decide) (stage.plain "i" (by decide)) (stage.flat "i" (by decide))) (ran ?_)
  exact double_text (value_spells began (counted.stands (by decide) holds))

theorem kept_round (looping : e.loops ≠ 0) (kept : piece = "" ∨ piece = ".") (line : Nat) :
    ComesTo (forRound E "i" (quotedItems "parr") [.located n (pieceCase n)] line piece) t
      (.ok true { given t "i" piece with status := 0 }) := by
  have calm : Quiet (given t "i" piece) := stage.quiet quiet
  have inside : (given t "i" piece).loops ≠ 0 := by
    obtain ⟨_, _, rfl⟩ := stage.same
    exact looping
  have fits := @kept_fits E (given t "i" piece) piece calm
  rw [decide_eq_true kept] at fits
  refine round_ran quiet stage fun text => loopRound_continued (script_one calm (located_comesTo n ?_))
  refine case_comesTo calm text (branch_taken fits (List.cons_ne_nil _ _) ?_)
  exact script_one calm (located_comesTo _ (continue_comesTo calm inside))

variable (other : ¬ (piece = "" ∨ piece = "."))

include other

theorem placed_round (down : piece ≠ "..") (small : names.length < 2 ^ 63) (line : Nat) :
    ComesTo (forRound E "i" (quotedItems "parr") [.located n (pieceCase n)] line piece) t
      (.ok true { listing (given (given t "i" piece) "len" (toString names.length)) "outp" (names ++ [piece]) with
        status := 0 }) := by
  let u : Session := { given (given t "i" piece) "len" (toString names.length) with status := 0 }
  have calm : Quiet (given t "i" piece) := stage.quiet quiet
  have after : Quiet u := calm
  have first := @kept_fits E (given t "i" piece) piece calm
  have second := @back_fits E (given t "i" piece) piece calm
  rw [decide_eq_false other] at first
  rw [decide_eq_false down] at second
  have started : Stage e (given t "i" piece) names := stage.counted (by decide)
  have counted : Stage e u names := (started.counted (by decide)).left 0
  have holds : u.value? "i" = some piece := by
    change (given (given t "i" piece) "len" (toString names.length)).value? "i" = _
    rw [given_value, if_neg (by decide), given_value, if_pos rfl]
  have counts : u.value? "len" = some (toString names.length) := by
    change (given (given t "i" piece) "len" (toString names.length)).value? "len" = _
    rw [given_value, if_pos rfl]
  refine round_ran quiet stage fun text => loopRound_ok (script_one calm (located_comesTo n ?_))
  refine case_comesTo calm text (branch_skipped first (branch_skipped second (branch_taken (any_fits calm) (List.cons_ne_nil _ _) ?_)))
  refine script_cons calm (located_comesTo _ (counting_comesTo quiet started)) (script_one after (located_comesTo _ ?_))
  exact placed_comesTo after (by decide) (counted.plain "outp" (by decide)) counted.lists small
    (counted.stands (by decide) counts) (double_valueText (value_spells after (counted.stands (by decide) holds)))

-- Two dots take the last name away, if there is one.
theorem back_round (up : piece = "..") {r : Session}
    (ran : ComesTo ((Command.ifThen [.located (n + 4) someLeft] [.located (n + 5) dropLast] []).run E)
      { given (given t "i" piece) "len" (toString names.length) with status := 0 } (.ok () r)) (line : Nat) :
    ComesTo (forRound E "i" (quotedItems "parr") [.located n (pieceCase n)] line piece) t (.ok true r) := by
  have calm : Quiet (given t "i" piece) := stage.quiet quiet
  have after : Quiet { given (given t "i" piece) "len" (toString names.length) with status := 0 } := calm
  have first := @kept_fits E (given t "i" piece) piece calm
  have second := @back_fits E (given t "i" piece) piece calm
  rw [decide_eq_false other] at first
  rw [decide_eq_true up] at second
  have started : Stage e (given t "i" piece) names := stage.counted (by decide)
  refine round_ran quiet stage fun text => loopRound_ok (script_one calm (located_comesTo n ?_))
  refine case_comesTo calm text (branch_skipped first (branch_taken second (List.cons_ne_nil _ _) ?_))
  exact script_cons calm (located_comesTo _ (counting_comesTo quiet started)) (script_one after (located_comesTo _ ran))

end Pieces

section Loop

variable {E : Engine} {e t : Session} {names : Place} {piece : String} {n : Nat} (quiet : Quiet e) (looping : e.loops ≠ 0)

include quiet

theorem back_comesTo (stage : Stage e t names) (counts : t.value? "len" = some (toString names.length))
    (small : names.length < 2 ^ 63) :
    ∃ r, ComesTo ((Command.ifThen [.located (n + 4) someLeft] [.located (n + 5) dropLast] []).run E) t (.ok () r) ∧
      Stage e r names.dropLast := by
  let u : Session := { t with shielded := true }
  have calm : Quiet t := stage.quiet quiet
  have held : Stands u "len" (some (toString names.length)) :=
    counter_stands (t := u) (by decide) (stage.plain "len" (by decide)) counts
  have asked : ComesTo (runScript E [.located (n + 4) someLeft]) u
      (.ok () { u with status := if names.length = 0 then 1 else 0 }) :=
    script_one calm (located_comesTo _ (someLeft_comesTo calm held small rfl))
  obtain none_ | ⟨front, last, rfl⟩ := List.eq_nil_or_concat names
  · have missed : ({ u with status := if names.length = 0 then 1 else 0 } : Session).status ≠ 0 := by
      rw [none_]
      exact Nat.one_ne_zero
    refine ⟨_, if_skips asked missed, ?_⟩
    rw [none_] at stage ⊢
    exact stage.left 0
  · rw [List.concat_eq_append] at stage counts small asked ⊢
    let w : Session := { t with status := if (front ++ [last]).length = 0 then 1 else 0 }
    have staged : Stage e w (front ++ [last]) := stage.left _
    have after : Quiet w := calm
    have zero : ({ u with status := if (front ++ [last]).length = 0 then 1 else 0 } : Session).status = 0 :=
      if_neg (by simp)
    have short : front.length + 1 < 2 ^ 63 := by simpa using small
    have length : w.value? "len" = some (toString (front.length + 1)) := by
      rw [List.length_append, List.length_singleton] at counts
      exact counts
    have dropped := dropped_comesTo (E := E) after (by decide) (staged.plain "outp" (by decide)) staged.lists
      (Nat.lt_of_succ_lt short) (dropLast_spells after (staged.stands (by decide) length) short)
    refine ⟨_, if_holds asked zero (script_one after (located_comesTo _ dropped)), ?_⟩
    rw [List.dropLast_concat]
    exact staged.listed.left 0

include looping

-- What one piece does to the names.
theorem piece_round (stage : Stage e t names) (small : names.length < 2 ^ 63) (piece : String) :
    ∃ r, (∀ line, ComesTo (forRound E "i" (quotedItems "parr") [.located n (pieceCase n)] line piece) t (.ok true r)) ∧
      Stage e r (stepped names piece) := by
  unfold stepped
  split
  · rename_i kept
    exact ⟨_, kept_round quiet stage looping kept, (stage.counted (by decide)).left 0⟩
  · rename_i other
    have started : Stage e (given t "i" piece) names := stage.counted (by decide)
    have counted : Stage e { given (given t "i" piece) "len" (toString names.length) with status := 0 } names :=
      (started.counted (by decide)).left 0
    split
    · rename_i up
      have counts : (given (given t "i" piece) "len" (toString names.length)).value? "len" = some (toString names.length) := by
        rw [given_value, if_pos rfl]
      obtain ⟨r, ran, staged⟩ := @back_comesTo E e _ names n quiet counted counts small
      exact ⟨r, back_round quiet stage other up ran, staged⟩
    · rename_i down
      exact ⟨_, placed_round quiet stage other down small, (counted.listed).left 0⟩

-- What all pieces do, one after the other.
theorem pieces_rounds (stage : Stage e t names) {pieces : List String} (small : names.length + pieces.length < 2 ^ 63) :
    ∃ r, (∀ line, ComesTo (loopOver (forRound E "i" (quotedItems "parr") [.located n (pieceCase n)] line) pieces) t (.ok () r)) ∧
      Stage e r (pieces.foldl stepped names) := by
  induction pieces generalizing t names with
  | nil => exact ⟨t, fun _ => over_nil, stage⟩
  | cons piece pieces more =>
    rw [List.length_cons] at small
    obtain ⟨r, ran, staged⟩ := @piece_round E e t names n quiet looping stage (by omega) piece
    have longer : (stepped names piece).length ≤ names.length + 1 := by
      unfold stepped
      split
      · omega
      · split
        · rw [List.length_dropLast]
          omega
        · rw [List.length_append, List.length_singleton]
    obtain ⟨u, went, last⟩ := more staged (by omega)
    exact ⟨u, fun line => over_goes (ran line) (went line), last⟩

end Loop

end Toolwrap.Mounting
