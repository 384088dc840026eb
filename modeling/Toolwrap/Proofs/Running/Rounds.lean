import Toolwrap.Proofs.Running.Builtins
import Toolwrap.Proofs.Running.Calculating

-- Loops over words, from what one round comes to, and conditions that are sums.

namespace Toolwrap.Running

open Shell

section Over

variable {s t : Session} {step : String → Run Bool} {v : String} {values : List String} {r : Ending Unit} {stop : Stop}

theorem over_nil : ComesTo (loopOver step []) s (.ok () s) := comesTo_pure

theorem over_goes (one : ComesTo (step v) s (.ok true t)) (more : ComesTo (loopOver step values) t r) :
    ComesTo (loopOver step (v :: values)) s r := one.bind more

theorem over_stops (one : ComesTo (step v) s (.error stop t)) :
    ComesTo (loopOver step (v :: values)) s (.error stop t) := one.bind_error

end Over

section Rounds

variable {E : Engine} {s t u : Session} {x v : String} {w : Word} {body : Script} {values : List String} {line : Nat}
  {r : Ending Unit} {stop : Stop}

-- A round of a loop over the fields of a word, which is run in a line.
def forRound (E : Engine) (x : String) (w : Word) (body : Script) (line : Nat) (v : String) : Run Bool := do
  modify fun s => { s with line }
  Run.begin_ E (.forIn x (some [w]) [])
  traceFull E fun _ => "for " ++ x ++ " in " ++ " ".intercalate (inlineWords [w])
  if ← Assign.trySetText x v then loopRound (runScript E body)
  else
    if (← get).isPlain then throw (.exit 2)
    Run.setStatus 1
    return false

theorem run_forIn (named : isName x = true) : (Command.forIn x (some [w]) body).run E = (do
    let values ← List.flatten <$> [w].mapM (Word.fields E)
    if values.isEmpty then Run.setStatus 0
    let line := (← get).line
    inLoop (loopOver (forRound E x w body line) values)) := by
  rw [Command.run, named]
  rfl

theorem round_comesTo {r : Ending Bool} (quiet : Quiet s) (stored : Gives (Assign.store (.whole x) false v) s () t)
    (ran : ComesTo (loopRound (runScript E body)) t r) : ComesTo (forRound E x w body line v) s r := by
  have given_ : ∀ m, Assign.trySetText x v (leaving s m) = .ok true (leaving t m) := by
    intro m
    unfold Assign.trySetText
    exact Eq.trans (bind_ok (tryCatch_ok (Eq.trans (bind_ok (stored m)) rfl))) rfl
  intro m
  obtain ⟨n, told⟩ := quiet.begins E (.forIn x (some [w]) []) { m with line }
  obtain ⟨k, went⟩ := ran n
  refine ⟨k, ?_⟩
  unfold forRound
  refine (bind_ok (modify_ok _)).trans ((bind_ok told).trans ((bind_ok (quiet.traceFull E _ n)).trans ?_))
  exact (bind_ok (given_ n)).trans went

theorem loopRound_continued {work : Run Unit} (left : ComesTo work s (.error (.continued 1) t)) :
    ComesTo (loopRound work) s (.ok true t) := by
  intro m
  obtain ⟨n, ran⟩ := left m
  refine ⟨n, ?_⟩
  rw [loopRound_eq, ran]
  rfl

theorem loopRound_returned {work : Run Unit} {code : Nat} (left : ComesTo work s (.error (.returned code) t)) :
    ComesTo (loopRound work) s (.error (.returned code) t) := by
  intro m
  obtain ⟨n, ran⟩ := left m
  refine ⟨n, ?_⟩
  rw [loopRound_eq, ran]
  rfl

-- Without words, the status is zero.
def entered (s : Session) (values : List String) : Session :=
  { s with loops := s.loops + 1, status := if values.isEmpty then 0 else s.status }

def leftLoop : Ending Unit → Ending Unit
  | .ok a t => .ok a { t with loops := t.loops - 1 }
  | .error stop t => .error stop { t with loops := t.loops - 1 }

theorem forIn_comesTo (named : isName x = true) (fields : Yields (Word.fields E w) s values)
    (looped : ∀ line, ComesTo (loopOver (forRound E x w body line) values) (entered s values) r) :
    ComesTo ((Command.forIn x (some [w]) body).run E) s (leftLoop r) := by
  have all : ∀ m, (List.flatten <$> [w].mapM (Word.fields E)) (leaving s m) = .ok values (leaving s m) := by
    intro m
    refine (map_ok (a := [values]) (t := leaving s m) ?_).trans ?_
    · rw [List.mapM_cons, bind_ok (fields m)]
      rfl
    · rw [List.flatten_cons, List.flatten_nil, List.append_nil]
  have inside : ∀ line, ComesTo (inLoop (loopOver (forRound E x w body line) values))
      { s with status := if values.isEmpty then 0 else s.status } (leftLoop r) := by
    intro line
    cases r with
    | ok a t => exact inLoop_ok (looped line)
    | error stop t => exact inLoop_error (looped line)
  intro m
  obtain ⟨n, ran⟩ := inside m.line m
  refine ⟨n, ?_⟩
  rw [run_forIn named, bind_ok (all m)]
  cases none_ : values.isEmpty with
  | true =>
    rw [none_] at ran
    exact ran
  | false =>
    rw [none_] at ran
    exact ran

end Rounds

section Going

variable {E : Engine} {s t : Session}

theorem continue_comesTo (quiet : Quiet s) (inside : s.loops ≠ 0) :
    ComesTo ((say ["continue"]).run E) s (.error (.continued 1) { s with status := 0 }) := by
  refine builtin_error Builtin.continue_ quiet (reads_bare "continue" (by decide) (by decide) reads_nil)
    (by decide) rfl (by decide) ?_ rfl
  intro m
  have looping : ((leaving s m).loops == 0) = false := beq_eq_false_iff_ne.mpr inside
  refine ⟨m, ?_⟩
  unfold Builtin.continue_ Builtin.leaveLoops
  rw [bind_ok get_ok, looping]
  rfl

theorem run_arith (expr : List Part) : (Command.arith expr).run E = (do
    Run.begin_ E (.arith expr)
    Run.setStatus (if (← truth? E expr) == some true then 0 else 1)
    Run.keepPipe
    Run.check E) := by
  rw [Command.run]

-- A sum as a condition: it holds if it is not zero.
theorem arith_comesTo {expr : List Part} {text : String} {n : Int} (quiet : Quiet s) (spelled : Spells E s expr text)
    (valued : Yields (Arithmetic.calculate "((: " text) s n) (sheltered : s.shielded = true) :
    ComesTo ((Command.arith expr).run E) s (.ok () { s with status := if n = 0 then 1 else 0 }) := by
  obtain ⟨pieces, ran, -, joined⟩ := spelled
  have asked : Yields (truth? E expr) s (some (n != 0)) := by
    intro m
    unfold truth?
    rw [bind_ok (ran m), fragmentText_kept joined, bind_ok (quiet.trace E _ m), bind_ok (attempt_gives valued m)]
    rfl
  have answered : (if (some (n != 0) == some true) = true then 0 else 1) % 256 = if n = 0 then 1 else 0 := by
    by_cases zero : n = 0 <;> simp [zero]
  have left := @answer_left E s (if (some (n != 0) == some true) = true then 0 else 1) quiet (Or.inr (Or.inl sheltered))
  rw [answered] at left
  rw [run_arith]
  exact (quiet.begins E _).bind (asked.comesTo.bind left)

end Going

end Toolwrap.Running
