import Toolwrap.Proofs.Running.Calculating
import Toolwrap.Proofs.Running.Locals

-- Loops that count with a variable: what sums come to that change it, and what a loop comes
-- to whose parts are such sums.

namespace Toolwrap.Running

open Shell

deriving instance DecidableEq for Arithmetic.Expr, Arithmetic.Reading

section Sums

variable {s t : Session} {x text : String} {e : Arithmetic.Expr} {n step : Int} {read : String → Run Int}
  {fail : Arithmetic.Fault → Run Int}

theorem assign_value {behind : String} (found : Yields (e.value read fail) s n)
    (stored : Gives (Arithmetic.store (.whole x) n) s () t) :
    Gives ((Arithmetic.Expr.assign ⟨x, none⟩ none e behind).value read fail) s n t := by
  intro m
  rw [Arithmetic.Expr.value, bind_ok (found m)]
  exact bind_ok (stored m)

-- A step behind a variable gives what was in it before.
theorem step_value (stands : Stands s x (some text)) (found : Yields (read text) s n)
    (stored : Gives (Arithmetic.store (.whole x) (Arithmetic.wrap (n + step))) s () t) :
    Gives ((Arithmetic.Expr.step ⟨x, none⟩ step true).value read fail) s n t := by
  intro m
  rw [Arithmetic.Expr.value]
  change (do
    let old ← Arithmetic.Expr.value.held read (.whole x)
    Arithmetic.store (.whole x) (Arithmetic.wrap (old + step))
    return if true = true then old else Arithmetic.wrap (old + step) : Run Int) (leaving s m) = _
  rw [bind_ok (held_yields stands found m), bind_ok (stored m)]
  rfl

-- A counter that has been counted down is one below zero.
theorem counter_value (quiet : Quiet s) (lead : String) (depth : Nat) (low : -1 ≤ n) (small : n < 2 ^ 63) :
    Yields (Arithmetic.valueOfText lead (depth + 1) (toString n)) s n := by
  rcases Int.lt_or_le n 0 with below | natural
  · obtain rfl : n = -1 := by omega
    have minus : Arithmetic.read false "-1" = ⟨.unary .minus (.number 1), none⟩ := by decide
    exact valueOfText_read quiet lead depth minus fun _ => rfl
  · obtain ⟨k, rfl⟩ := Int.eq_ofNat_of_zero_le natural
    exact valueOfText_numeral quiet lead depth (by omega)

theorem within_summed {c : Session} {marks : String → Bool} {held : Held} {k : Content} {status : Nat}
    (own : isOwn x = true) (there : held.lookup x = some k) (flat : k.isArray = false) :
    Gives (Arithmetic.store (.whole x) n) (within c marks held status) ()
      (within c marks (kept held x (.text (toString n))) status) := by
  have plain : Ordinarily (within c marks held status) x := within_ordinarily there
  have free : Flat (within c marks held status) x := within_flat there flat
  rw [← within_given there]
  intro m
  unfold Arithmetic.store
  change (Arithmetic.needFree x >>= fun _ => modify fun s => Arithmetic.Spot.store s (toString n) (.whole x)) _ = _
  rw [bind_ok (needFree_yields own plain m), modify_ok, Arithmetic.Spot.store,
    resolved_self (s := leaving (within c marks held status) m) plain,
    setText_flat (s := leaving (within c marks held status) m) free]
  rfl

end Sums

section Loops

variable {E : Engine} {s t u : Session} {start cond next expr : List Part} {body : Script} {text : String}
  {n : Int} {last : Nat} {b : Bool}

-- An expression of a loop, which is told of and then computed.
def asked (E : Engine) (expr : List Part) : Run (Option Bool) := do
  if !expr.isEmpty then Run.begin_ E (.arith [.text (spelledExpr expr)])
  truthIfAny? E expr

-- A round of a loop: the status that it gives on, or nothing if the loop is over.
def countRound (E : Engine) (cond next : List Part) (body : Script) (last : Nat) : Run (Option Nat) := do
  match ← asked E cond with
  | none =>
    Run.setStatus 1
    return none
  | some false =>
    Run.setStatus last
    return none
  | some true =>
    let more ← loopRound (runScript E body)
    if !more then return none
    let code := (← get).status
    match ← asked E next with
    | none =>
      Run.setStatus 1
      return none
    | some _ => return some code

theorem run_forArith : (Command.forArith start cond next body).run E = inLoop (do
    match ← asked E start with
    | none => Run.setStatus 1
    | some _ => loopWhile (countRound E cond next body) E.rounds 0) := by
  rw [Command.run]
  rfl

theorem mem_dropWhile {p : Char → Bool} {c : Char} {cs : List Char} (inside : c ∈ cs) (stays : p c = false) :
    c ∈ cs.dropWhile p := by
  rw [← List.takeWhile_append_dropWhile (p := p) (l := cs)] at inside
  rcases List.mem_append.mp inside with front | behind
  · have skipped := List.all_eq_true.mp List.all_takeWhile c front
    rw [stays] at skipped
    cases skipped
  · exact behind

theorem strip_filled {text : String} (solid : ∃ c ∈ text.toList, Text.isBlank c = false) :
    (Text.strip text).isEmpty = false := by
  obtain ⟨c, inside, stays⟩ := solid
  have there : c ∈ (Text.strip text).toList := by
    rw [Text.strip, String.toList_ofList, Text.Chars.strip, Text.Chars.stripRight, List.mem_reverse]
    exact mem_dropWhile (List.mem_reverse.mpr (mem_dropWhile inside stays)) stays
  cases empty : (Text.strip text).isEmpty with
  | false => rfl
  | true =>
    rw [String.isEmpty_iff.mp empty] at there
    cases there

theorem asked_comesTo (quiet : Quiet s) (filled : expr ≠ []) (spelled : Spells E s expr text)
    (solid : ∃ c ∈ text.toList, Text.isBlank c = false) (valued : Gives (Arithmetic.calculate "((: " text) s n t) :
    ComesTo (asked E expr) s (.ok (some (n != 0)) t) := by
  have some_ : expr.isEmpty = false := List.isEmpty_eq_false_iff.mpr filled
  have shown := strip_filled solid
  have computed : Gives (truthIfAny? E expr) s (some (n != 0)) t := by
    intro m
    obtain ⟨pieces, ran, _, joined⟩ := spelled
    unfold truthIfAny?
    rw [some_]
    simp only [Bool.false_eq_true, if_false]
    rw [bind_ok (ran m), fragmentText_kept joined, shown]
    simp only [Bool.false_eq_true, if_false]
    rw [bind_ok (quiet.trace E _ m), bind_ok (attempt_gives valued m)]
    rfl
  unfold asked
  rw [some_]
  exact (quiet.begins E _).bind computed.comesTo

theorem count_over (ended : ComesTo (asked E cond) s (.ok (some false) t)) :
    ComesTo (countRound E cond next body last) s (.ok none { t with status := last % 256 }) := by
  unfold countRound
  exact ended.bind fun m => ⟨m, rfl⟩

theorem count_goes (goesOn : ComesTo (asked E cond) s (.ok (some true) s))
    (ran : ComesTo (runScript E body) s (.ok () t)) (stepped : ComesTo (asked E next) t (.ok (some b) u)) :
    ComesTo (countRound E cond next body last) s (.ok (some t.status) u) := by
  unfold countRound
  refine goesOn.bind ((loopRound_ok ran).bind ?_)
  intro m
  obtain ⟨k, told⟩ := stepped m
  refine ⟨k, ?_⟩
  simp only [Bool.not_true, Bool.false_eq_true, if_false]
  rw [bind_ok get_ok, bind_ok told]
  rfl

theorem for_comesTo (started : ComesTo (asked E start) { s with loops := s.loops + 1 } (.ok (some b) t))
    (looped : ComesTo (loopWhile (countRound E cond next body) E.rounds 0) t (.ok () u)) :
    ComesTo ((Command.forArith start cond next body).run E) s (.ok () { u with loops := u.loops - 1 }) := by
  rw [run_forArith]
  exact inLoop_ok (started.bind looped)

end Loops

end Toolwrap.Running
