import Toolwrap.Proofs.Running.Commands

-- What the compound commands come to in a quiet session, from what their parts come
-- to: scripts, conditions, loops, branches of a case and calls of functions.

namespace Toolwrap.Running

open Shell

section Scripts

variable {E : Engine} {s t u : Session} {c : Command} {rest : Script} {r : Ending Unit} {stop : Stop}

theorem script_nil : ComesTo (runScript E []) s (.ok () s) := by
  rw [runScript_nil]
  exact comesTo_pure

theorem script_cons (quiet : Quiet s) (first : ComesTo (c.run E) s (.ok () t))
    (more : ComesTo (runScript E rest) t r) : ComesTo (runScript E (c :: rest)) s r := by
  intro m
  have awake : (leaving s m).has .noexec = false := quiet.off (by decide)
  rw [runScript_cons, bind_ok get_ok, awake]
  exact (first.bind more) m

theorem script_stops (quiet : Quiet s) (first : ComesTo (c.run E) s (.error stop t)) :
    ComesTo (runScript E (c :: rest)) s (.error stop t) := by
  intro m
  have awake : (leaving s m).has .noexec = false := quiet.off (by decide)
  rw [runScript_cons, bind_ok get_ok, awake]
  exact first.bind_error m

theorem script_one (quiet : Quiet s) (only : ComesTo (c.run E) s r) :
    ComesTo (runScript E [c]) s r := by
  cases r with
  | ok a t => exact script_cons quiet only script_nil
  | error stop t => exact script_stops quiet only

theorem runScript_append (E : Engine) (first second : Script) :
    runScript E (first ++ second) = (do
      runScript E first
      runScript E second) := by
  induction first with
  | nil =>
    rw [runScript_nil, List.nil_append]
    rfl
  | cons c rest joined =>
    funext s
    rw [List.cons_append, runScript_cons, bind_ok get_ok]
    cases asleep : s.has .noexec with
    | false =>
      have awake : runScript E (c :: rest) s = (c.run E >>= fun _ => runScript E rest) s := by
        rw [runScript_cons, bind_ok get_ok, asleep]
        rfl
      simp only [Bool.not_false, if_true, joined]
      rw [← bind_assoc]
      simp only [bind, EStateM.bind] at awake ⊢
      rw [← awake]
    | true =>
      have ended : runScript E (c :: rest) s = .ok () s := by
        rw [runScript_cons, bind_ok get_ok, asleep]
        rfl
      simp only [Bool.not_true, Bool.false_eq_true, if_false]
      refine (Eq.trans (bind_ok ended) ?_).symm
      · cases second with
        | nil => rw [runScript_nil]
        | cons d others =>
          rw [runScript_cons, bind_ok get_ok, asleep]
          rfl

theorem script_append {first second : Script} (done : ComesTo (runScript E first) s (.ok () t))
    (more : ComesTo (runScript E second) t r) : ComesTo (runScript E (first ++ second)) s r := by
  rw [runScript_append]
  exact done.bind more

end Scripts

section Conditions

variable {E : Engine} {s t u : Session} {c : Command} {cond body orelse : Script} {r : Ending Unit}

theorem shielded_ok {α : Type} {work : Run α} {a : α}
    (done : ComesTo work { s with shielded := true } (.ok a t)) :
    ComesTo (Run.shielded work) s (.ok a { t with shielded := s.shielded }) := by
  intro m
  obtain ⟨n, ran⟩ := done m
  refine ⟨n, ?_⟩
  unfold Run.shielded
  rw [bind_ok get_ok, bind_ok (modify_ok _)]
  exact finally_ok ran rfl

theorem shielded_error {α : Type} {work : Run α} {stop : Stop}
    (failed : ComesTo work { s with shielded := true } (.error stop t)) :
    ComesTo (Run.shielded work) s (.error stop { t with shielded := s.shielded }) := by
  intro m
  obtain ⟨n, ran⟩ := failed m
  refine ⟨n, ?_⟩
  unfold Run.shielded
  rw [bind_ok get_ok, bind_ok (modify_ok _)]
  exact finally_error ran rfl

-- A condition that holds leads to the body, any other one to what is run else.
theorem if_holds (asked : ComesTo (runScript E cond) { s with shielded := true } (.ok () t))
    (zero : t.status = 0) (then_ : ComesTo (runScript E body) { t with shielded := s.shielded } r) :
    ComesTo ((Command.ifThen cond body orelse).run E) s r := by
  rw [run_ifThen]
  refine (shielded_ok asked).bind ?_
  intro m
  rw [bind_ok get_ok, show (leaving { t with shielded := s.shielded } m).status = 0 from zero]
  exact then_ m

theorem if_fails (asked : ComesTo (runScript E cond) { s with shielded := true } (.ok () t))
    (nonzero : t.status ≠ 0)
    (else_ : ComesTo (runScript E orelse)
      { t with shielded := s.shielded, status := if orelse.isEmpty then 0 else t.status } r) :
    ComesTo ((Command.ifThen cond body orelse).run E) s r := by
  rw [run_ifThen]
  refine (shielded_ok asked).bind ?_
  intro m
  have failed : ((leaving { t with shielded := s.shielded } m).status == 0) = false :=
    beq_eq_false_iff_ne.mpr nonzero
  rw [bind_ok get_ok, failed]
  simp only [Bool.false_eq_true, if_false]
  cases empty : orelse.isEmpty with
  | true =>
    rw [empty] at else_
    exact else_ m
  | false =>
    rw [empty] at else_
    exact else_ m

-- Without anything to be run else, a condition that fails leaves the status zero.
theorem if_skips (asked : ComesTo (runScript E cond) { s with shielded := true } (.ok () t))
    (nonzero : t.status ≠ 0) :
    ComesTo ((Command.ifThen cond body []).run E) s
      (.ok () { t with shielded := s.shielded, status := 0 }) :=
  if_fails asked nonzero script_nil

theorem not_comesTo (asked : ComesTo (c.run E) { s with shielded := true } (.ok () t)) :
    ComesTo ((Command.not c).run E) s
      (.ok () { t with shielded := s.shielded, status := if t.status = 0 then 1 else 0 }) := by
  rw [run_not]
  refine (shielded_ok asked).bind ?_
  intro m
  refine ⟨m, ?_⟩
  rw [bind_ok get_ok]
  unfold Run.setStatus
  rw [modify_ok]
  by_cases zero : t.status = 0 <;> simp [leaving, zero] <;> rfl

end Conditions

section Loops

variable {E : Engine} {s t u : Session} {cond body : Script} {r : Ending Unit} {stop : Stop}

-- A round of a loop: the status that it gives on, or nothing if the loop is over.
def whileRound (E : Engine) (untilTrue : Bool) (cond body : Script) (last : Nat) : Run (Option Nat) := do
  let goesOn ← loopRound (Run.shielded (runScript E cond))
  if !goesOn then return none
  if ((← get).status == 0) == untilTrue then
    Run.setStatus last
    return none
  let more ← loopRound (runScript E body)
  let s ← get
  return if more then some s.status else none

theorem run_whileLoop (E : Engine) (untilTrue : Bool) (cond body : Script) :
    (Command.whileLoop untilTrue cond body).run E =
      inLoop (loopWhile (whileRound E untilTrue cond body) E.rounds 0) := by
  rw [Command.run]
  rfl

-- Leaving a loop, or a round of it, is over where the loop is the one that is meant.
theorem loopRound_eq (work : Run Unit) (s : Session) :
    loopRound work s = match work s with
      | .ok () t => .ok true t
      | .error (.broke levels) t =>
        if levels ≤ 1 then .ok false t else .error (.broke (levels - 1)) t
      | .error (.continued levels) t =>
        if levels ≤ 1 then .ok true t else .error (.continued (levels - 1)) t
      | .error stop t => .error stop t := by
  simp only [loopRound, bind, tryCatch, tryCatchThe, MonadExceptOf.tryCatch]
  delta EStateM.tryCatch
  simp only [EStateM.bind]
  cases work s with
  | ok a t => rfl
  | error stop t =>
    cases stop with
    | broke levels => by_cases few : levels ≤ 1 <;> simp only [few, if_true, if_false] <;> rfl
    | continued levels => by_cases few : levels ≤ 1 <;> simp only [few, if_true, if_false] <;> rfl
    | _ => rfl

theorem loopRound_ok {work : Run Unit} (done : ComesTo work s (.ok () t)) :
    ComesTo (loopRound work) s (.ok true t) := by
  intro m
  obtain ⟨n, ran⟩ := done m
  refine ⟨n, ?_⟩
  rw [loopRound_eq, ran]
  rfl

theorem loopRound_broke {work : Run Unit} (left : ComesTo work s (.error (.broke 1) t)) :
    ComesTo (loopRound work) s (.ok false t) := by
  intro m
  obtain ⟨n, ran⟩ := left m
  refine ⟨n, ?_⟩
  rw [loopRound_eq, ran]
  rfl

theorem loopRound_exit {work : Run Unit} {code : Nat}
    (left : ComesTo work s (.error (.exit code) t)) :
    ComesTo (loopRound work) s (.error (.exit code) t) := by
  intro m
  obtain ⟨n, ran⟩ := left m
  refine ⟨n, ?_⟩
  rw [loopRound_eq, ran]
  rfl

section Rounds

variable {untilTrue : Bool} {last : Nat}
  (asked : ComesTo (runScript E cond) { s with shielded := true } (.ok () t))

include asked

-- A condition that asks for no other round ends the loop with the last status.
theorem round_over (ended : (t.status == 0) = untilTrue) :
    ComesTo (whileRound E untilTrue cond body last) s
      (.ok none { t with shielded := s.shielded, status := last % 256 }) := by
  refine (loopRound_ok (shielded_ok asked)).bind ?_
  intro m
  have said : ((leaving { t with shielded := s.shielded } m).status == 0) = untilTrue := ended
  simp only [Bool.not_true, Bool.false_eq_true, if_false]
  rw [bind_ok get_ok, said, beq_self_eq_true]
  exact ⟨m, rfl⟩

theorem round_body {r : Ending (Option Nat)} (goesOn : (t.status == 0) ≠ untilTrue)
    (more : ComesTo (do
      let more ← loopRound (runScript E body)
      let s ← get
      return if more then some s.status else none : Run (Option Nat))
        { t with shielded := s.shielded } r) :
    ComesTo (whileRound E untilTrue cond body last) s r := by
  refine (loopRound_ok (shielded_ok asked)).bind ?_
  intro m
  have said : (((leaving { t with shielded := s.shielded } m).status == 0) == untilTrue) = false :=
    beq_eq_false_iff_ne.mpr goesOn
  simp only [Bool.not_true, Bool.false_eq_true, if_false]
  rw [bind_ok get_ok, said]
  exact more m

theorem round_more (goesOn : (t.status == 0) ≠ untilTrue)
    (done : ComesTo (runScript E body) { t with shielded := s.shielded } (.ok () u)) :
    ComesTo (whileRound E untilTrue cond body last) s (.ok (some u.status) u) := by
  refine round_body asked goesOn ((loopRound_ok done).bind ?_)
  intro m
  exact ⟨m, rfl⟩

theorem round_broke (goesOn : (t.status == 0) ≠ untilTrue)
    (left : ComesTo (runScript E body) { t with shielded := s.shielded } (.error (.broke 1) u)) :
    ComesTo (whileRound E untilTrue cond body last) s (.ok none u) := by
  refine round_body asked goesOn ((loopRound_broke left).bind ?_)
  intro m
  exact ⟨m, rfl⟩

theorem round_exit {code : Nat} (goesOn : (t.status == 0) ≠ untilTrue)
    (left : ComesTo (runScript E body) { t with shielded := s.shielded } (.error (.exit code) u)) :
    ComesTo (whileRound E untilTrue cond body last) s (.error (.exit code) u) :=
  round_body asked goesOn (loopRound_exit left).bind_error

end Rounds

section While

variable {round : Nat → Run (Option Nat)} {rounds last status : Nat}

theorem while_goes (quiet : Quiet t) (one : ComesTo (round last) s (.ok (some status) t))
    (more : ComesTo (loopWhile round rounds status) t r) :
    ComesTo (loopWhile round (rounds + 1) last) s r := by
  rw [loopWhile]
  exact one.bind (quiet.tick.comesTo.bind more)

theorem while_ends (one : ComesTo (round last) s (.ok none t)) :
    ComesTo (loopWhile round (rounds + 1) last) s (.ok () t) := by
  rw [loopWhile]
  exact one.bind comesTo_pure

theorem while_stops (one : ComesTo (round last) s (.error stop t)) :
    ComesTo (loopWhile round (rounds + 1) last) s (.error stop t) := by
  rw [loopWhile]
  exact one.bind_error

end While

theorem inLoop_ok {work : Run Unit}
    (done : ComesTo work { s with loops := s.loops + 1 } (.ok () t)) :
    ComesTo (inLoop work) s (.ok () { t with loops := t.loops - 1 }) := by
  intro m
  obtain ⟨n, ran⟩ := done m
  refine ⟨n, ?_⟩
  unfold inLoop
  rw [bind_ok (modify_ok _)]
  exact finally_ok ran rfl

theorem inLoop_error {work : Run Unit}
    (failed : ComesTo work { s with loops := s.loops + 1 } (.error stop t)) :
    ComesTo (inLoop work) s (.error stop { t with loops := t.loops - 1 }) := by
  intro m
  obtain ⟨n, ran⟩ := failed m
  refine ⟨n, ?_⟩
  unfold inLoop
  rw [bind_ok (modify_ok _)]
  exact finally_error ran rfl

end Loops

section Branches

variable {E : Engine} {s t : Session} {word : Word} {subject : String} {patterns : List Word}
  {body : Script} {rest : List Clause} {r : Ending Unit}

theorem runClauses_nil (E : Engine) (subject : String) :
    runClauses E subject false [] = Run.setStatus 0 := by
  rw [runClauses]
  rfl

theorem runClauses_branch (E : Engine) (subject : String) (patterns : List Word) (body : Script)
    (rest : List Clause) :
    runClauses E subject false (.branch patterns body .leave :: rest) = (do
      if ← fitsAny E subject patterns then
        if body.isEmpty then Run.setStatus 0
        runScript E body
        pure ()
      else runClauses E subject false rest) := by
  rw [runClauses]
  rfl

theorem case_comesTo (quiet : Quiet s) (read : Yields (Word.text E word) s subject)
    {clauses : List Clause} (chosen : ComesTo (runClauses E subject false clauses) s r) :
    ComesTo ((Command.caseOf word clauses).run E) s r := by
  rw [run_caseOf]
  refine (quiet.begins E _).bind ((quiet.traceFull E _).comesTo.bind ?_)
  exact read.comesTo.bind chosen

theorem branch_taken (fits : Yields (fitsAny E subject patterns) s true) (filled : body ≠ [])
    (ran : ComesTo (runScript E body) s r) :
    ComesTo (runClauses E subject false (.branch patterns body .leave :: rest)) s r := by
  rw [runClauses_branch]
  refine fits.comesTo.bind ?_
  simp only [if_true, List.isEmpty_eq_false_iff.mpr filled]
  exact ran.bind_unit

theorem branch_skipped (fits : Yields (fitsAny E subject patterns) s false)
    (ran : ComesTo (runClauses E subject false rest) s r) :
    ComesTo (runClauses E subject false (.branch patterns body .leave :: rest)) s r := by
  rw [runClauses_branch]
  refine fits.comesTo.bind ?_
  exact ran

end Branches

section Calls

variable {E : Engine} {s t u : Session} {name : String} {f : Function} {args : List String}

-- The session in which the body of a function is run, from a line.
def calling (s : Session) (name : String) (f : Function) (args : List String) (line : Nat) : Session :=
  { s with
    scopes := [] :: s.scopes, args
    frames := { name, file := f.file, line, isFunction := true } :: s.frames
    loops := 0, lineBase := f.base, givesWay := false }

-- The session behind a call: what the body did stays, but not its own scope.
def behind (s t : Session) : Session :=
  { t with
    scopes := t.scopes.drop 1, args := s.args, frames := s.frames, loops := s.loops
    lineBase := s.lineBase }

-- What is done behind a call, where no events are set.
theorem call_left {t : Session} (quiet : Quiet s) (quietly : Quiet t) (m n : Traces) :
    ({ leaving t n with
        scopes := t.scopes.drop 1, args := s.args, frames := s.frames, loops := s.loops
        lineBase := s.lineBase, line := m.line
        traps := t.traps ++ (hiddenTraps (leaving s m)).filter
          fun e => (t.traps.lookup e.1).isNone } : Session) =
      leaving (behind s t) { n with line := m.line } := by
  have untrapped : s.traps = [] := quiet.untrapped
  have none_ : t.traps = [] := quietly.untrapped
  have hidden : hiddenTraps (leaving s m) = [] := by
    unfold hiddenTraps
    rw [show (leaving s m).traps = [] from untrapped]
    rfl
  rw [hidden, List.filter_nil, List.append_nil]
  rfl

-- The status that the body of a function gives back, if it gives one.
def answerOf (E : Engine) (f : Function) : Run (Option Nat) := do
  try
    E.script [f.body]
    pure none
  catch
    | .returned code => pure (some code)
    | stop => throw stop

-- The body of a function, called from a line. A status that is given back counts
-- only after the end.
def bodyRun (E : Engine) (f : Function) (line : Nat) : Run Unit := do
  modify fun s => { s with line := f.line }
  Run.onEvent E "DEBUG"
  modify fun s => { s with line }
  let answer ← answerOf E f
  Run.onEvent E "RETURN"
  answer.forM Run.setStatus

section Body

variable {line : Nat} (before : s.traps = []) (after : t.traps = [])

include before after

theorem bodyRun_ok (ran : E.script [f.body] { s with line } = .ok () t) :
    bodyRun E f line s = .ok () t := by
  have told : Run.onEvent E "DEBUG" { s with line := f.line } = .ok () { s with line := f.line } :=
    onEvent_none before
  unfold bodyRun
  rw [bind_ok (modify_ok _), bind_ok told, bind_ok (modify_ok _)]
  have answered : answerOf E f { s with line } = .ok none t := by
    unfold answerOf
    exact tryCatch_ok (bind_ok ran)
  rw [bind_ok answered]
  exact bind_ok (onEvent_none after)

theorem bodyRun_returned {code : Nat}
    (ran : E.script [f.body] { s with line } = .error (.returned code) t) :
    bodyRun E f line s = .ok () { t with status := code % 256 } := by
  have told : Run.onEvent E "DEBUG" { s with line := f.line } = .ok () { s with line := f.line } :=
    onEvent_none before
  unfold bodyRun
  rw [bind_ok (modify_ok _), bind_ok told, bind_ok (modify_ok _)]
  have answered : answerOf E f { s with line } = .ok (some code) t := by
    unfold answerOf
    exact tryCatch_error (bind_error ran)
  rw [bind_ok answered]
  exact bind_ok (onEvent_none after)

end Body

section Called

variable {t : Nat → Session} (quiet : Quiet s) (quietly : ∀ line, Quiet (t line))

include quiet quietly

theorem callFunction_left {m n : Traces}
    (ran : bodyRun E f m.line (leaving (calling s name f args m.line) m) =
      .ok () (leaving (t m.line) n)) :
    callFunction E name f args (leaving s m) =
      .ok () (leaving (behind s (t m.line)) { n with line := m.line }) := by
  have untrapped : (leaving s m).traps = [] := quiet.untrapped
  have entered : ({ leaving (calling s name f args m.line) m with
      traps := (leaving s m).traps.filter
        fun t => ((hiddenTraps (leaving s m)).lookup t.1).isNone } : Session) =
      leaving (calling s name f args m.line) m := by
    rw [untrapped]
    exact congrArg (fun traps => leaving { calling s name f args m.line with traps } m)
      untrapped.symm
  rw [← entered] at ran
  unfold callFunction
  rw [bind_ok get_ok, bind_ok set_ok, bind_ok (modify_ok _)]
  refine unlessExit_ok (t := leaving (t m.line) n) ran ?_
  rw [modify_ok, ← call_left quiet (quietly m.line) m n]
  rfl

-- A call comes to what the body comes to, whatever the line of the call.
theorem call_ok (same : ∀ line, behind s (t line) = u)
    (ran : ∀ line, ComesTo (E.script [f.body]) (calling s name f args line) (.ok () (t line))) :
    ComesTo (callFunction E name f args) s (.ok () u) := by
  intro m
  obtain ⟨n, went⟩ := ran m.line m
  refine ⟨{ n with line := m.line }, ?_⟩
  rw [callFunction_left quiet quietly (bodyRun_ok quiet.untrapped (quietly m.line).untrapped went),
    same m.line]
  rfl

-- A status that is given back is that of the call.
theorem call_returned {code : Nat} (same : ∀ line, { behind s (t line) with status := code % 256 } = u)
    (ran : ∀ line, ComesTo (E.script [f.body]) (calling s name f args line)
      (.error (.returned code) (t line))) :
    ComesTo (callFunction E name f args) s (.ok () u) := by
  intro m
  obtain ⟨n, went⟩ := ran m.line m
  refine ⟨{ n with line := m.line }, ?_⟩
  let answered : Nat → Session := fun line => { t line with status := code % 256 }
  have before : (leaving (calling s name f args m.line) m).traps = [] := quiet.untrapped
  have after : (leaving (t m.line) n).traps = [] := (quietly m.line).untrapped
  have ended : bodyRun E f m.line (leaving (calling s name f args m.line) m) =
      .ok () (leaving (answered m.line) n) := bodyRun_returned before after went
  rw [callFunction_left (t := answered) quiet (fun line => quietly line) ended, ← same m.line]
  rfl

end Called

-- From the session itself, a call ends behind what the body comes to from its line.
section Ended

variable (quiet : Quiet s) (quietly : Quiet u)

include quiet quietly

theorem call_ends_ok (ran : ComesTo (E.script [f.body]) (calling s name f args s.line) (.ok () u)) :
    ∃ n, callFunction E name f args s = .ok () (leaving (behind s u) n) := by
  obtain ⟨n, went⟩ := ran (traces s)
  have before : (leaving (calling s name f args s.line) (traces s)).traps = [] := quiet.untrapped
  have after : (leaving u n).traps = [] := quietly.untrapped
  have done : bodyRun E f s.line (leaving (calling s name f args s.line) (traces s)) = .ok () (leaving u n) :=
    bodyRun_ok before after went
  have left := @callFunction_left E s name f args (fun _ => u) quiet (fun _ => quietly) (traces s) n done
  rw [leaving_traces] at left
  exact ⟨_, left⟩

theorem call_ends_returned {code : Nat}
    (ran : ComesTo (E.script [f.body]) (calling s name f args s.line) (.error (.returned code) u)) :
    ∃ n, callFunction E name f args s = .ok () (leaving { behind s u with status := code % 256 } n) := by
  let answered : Session := { u with status := code % 256 }
  obtain ⟨n, went⟩ := ran (traces s)
  have before : (leaving (calling s name f args s.line) (traces s)).traps = [] := quiet.untrapped
  have after : (leaving u n).traps = [] := quietly.untrapped
  have done : bodyRun E f s.line (leaving (calling s name f args s.line) (traces s)) = .ok () (leaving answered n) :=
    bodyRun_returned before after went
  have left := @callFunction_left E s name f args (fun _ => answered) quiet (fun _ => quietly) (traces s) n done
  rw [leaving_traces] at left
  exact ⟨_, left⟩

end Ended

end Calls

end Toolwrap.Running
