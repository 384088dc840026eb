import Toolwrap.Proofs.Running.Control
import Toolwrap.Proofs.Running.Invoking

-- Copies of a quiet session: what is run in one leaves its files and texts behind, and a
-- status. Commands whose output is read by the next one or stands for a text run in copies,
-- and their output is kept in a new text.

namespace Toolwrap.Running

open Shell

section Copies

variable {E : Engine} {s t : Session} {work : Run Unit}

-- How work in a copy ends, with its code and the session behind it.
def Closes (work : Run Unit) (s : Session) (code : Nat) (t : Session) : Prop :=
  ComesTo work s (.ok () t) ∧ t.status = code ∨ ComesTo work s (.error (.exit code) t) ∨
    ComesTo work s (.error (.returned code) t)

theorem endCode_comesTo {code : Nat} (closes : Closes work s code t) :
    ComesTo (Run.endCode work) s (.ok code t) := by
  intro m
  rcases closes with ⟨done, same⟩ | left | returned
  · obtain ⟨n, ran⟩ := done m
    refine ⟨n, ?_⟩
    unfold Run.endCode
    rw [bind_ok get_ok, show work.run (leaving s m) = _ from ran]
    subst same
    rfl
  · obtain ⟨n, ran⟩ := left m
    refine ⟨n, ?_⟩
    unfold Run.endCode
    rw [bind_ok get_ok, show work.run (leaving s m) = _ from ran]
    rfl
  · obtain ⟨n, ran⟩ := returned m
    refine ⟨n, ?_⟩
    unfold Run.endCode
    rw [bind_ok get_ok, show work.run (leaving s m) = _ from ran]
    rfl

theorem runPending_none (none_ : s.pending = []) : Yields (Run.runPending E) s () := by
  intro m
  have empty : (leaving s m).pending = [] := none_
  unfold Run.runPending
  rw [bind_ok get_ok, empty, bind_ok set_ok]
  exact congrArg (fun pending => (.ok () { leaving s m with pending } : Ending Unit)) empty.symm

theorem finish_comesTo {code : Nat} (closes : Closes work s code t) (untrapped : t.traps = [])
    (settled : t.pending = []) : ComesTo (Run.finish E work) s (.ok code t) := by
  unfold Run.finish
  refine (endCode_comesTo closes).bind ?_
  intro m
  have none_ : (leaving t m).traps = [] := untrapped
  refine ⟨m, ?_⟩
  rw [bind_ok get_ok, none_]
  exact (bind_ok pure_ok).trans (bind_ok (runPending_none settled m))

-- The session of a shell behind a copy of it.
def resumed (s t : Session) (code : Nat) : Session := { s.keeping t with status := code % 256 }

-- What is done in a copy of the shell, which is changed before.
theorem subshell_left {change : Session → Session} {start : Session} {code : Nat} (m : Traces)
    (entered : change (Run.copyOf (leaving s m)) = leaving start m) (closes : Closes work start code t)
    (untrapped : t.traps = []) (settled : t.pending = []) :
    Run.subshell E change work (leaving s m) = .ok () (leaving (resumed s t code) m) := by
  obtain ⟨n, ran⟩ := finish_comesTo (E := E) closes untrapped settled m
  unfold Run.subshell
  rw [bind_ok get_ok, bind_ok set_ok, bind_ok get_ok, entered,
    show (Run.finish E work).run (leaving start m) = _ from ran]
  rfl

theorem subshell_comesTo {change : Session → Session} {code : Nat}
    (same : ∀ m, change (Run.copyOf (leaving s m)) = leaving (change (Run.copyOf s)) m)
    (closes : Closes work (change (Run.copyOf s)) code t) (untrapped : t.traps = [])
    (settled : t.pending = []) :
    ComesTo (Run.subshell E change work) s (.ok () (resumed s t code)) :=
  fun m => ⟨m, subshell_left m (same m) closes untrapped settled⟩

end Copies

section Copied

variable {E : Engine} {s t : Session}

theorem copy_quiet (quiet : Quiet s) : Quiet (Run.copyOf s) := by
  have untrapped : s.traps = [] := quiet.untrapped
  have none_ : (Run.copyOf s).traps = [] := by
    unfold Run.copyOf
    simp only [untrapped, List.filter_nil]
  exact { quiet with untrapped := none_ }

variable {words : List Word} {name : String} {args : List String} {line : Nat}

theorem announced_comesTo (quiet : Quiet s) :
    ComesTo ((Command.located line (.simple [] words [])).announced E) s (.ok () s) := by
  intro m
  obtain ⟨n, begun⟩ := quiet.begins E (.simple [] words []) { m with line := s.lineBase + line }
  refine ⟨n, ?_⟩
  rw [Command.announced, Command.announced]
  exact begun

theorem inCopy_ok (quiet : Quiet s) (reads : Reads E s words (name :: args))
    (alone : name ∉ ["command", "builtin", "exec"])
    (ran : ComesTo (invoke E { fields := name :: args }) s (.ok () t)) (quietly : Quiet t)
    (same : t.processes = s.processes) :
    ComesTo ((Command.located line (.simple [] words [])).runInCopy E) s (.ok () t) := by
  have simple := @runSimple_comesTo E s s words [] _ _ quiet reads.comesTo (List.cons_ne_nil _ _)
    (not_exec alone) ran same
  have done : ComesTo (do
      runSimple E [] words []
      Builtin.deliver E) s (.ok () t) := simple.bind (quietly.deliver E).comesTo
  intro m
  obtain ⟨n, done⟩ := done { m with line := s.lineBase + line }
  refine ⟨n, ?_⟩
  rw [Command.runInCopy, Command.runInCopy]
  exact done

end Copied

section Pipes

variable {E : Engine} {s t u v : Session} {before first next second : Run Unit} {code last : Nat}

theorem drain_yields (quiet : Quiet s) (number : Nat) : Yields (Run.drain number) s () := by
  intro m
  have alone : (leaving s m).tasks = [] := quiet.alone
  unfold Run.drain
  rw [bind_ok get_ok, alone]
  rfl

-- What a pipe does once its first command has ended.
def pipeRest (E : Engine) (n code : Nat) (second : Run Unit) (goesOn : Bool) : Run Unit := do
  if goesOn then
    Run.withDescriptors (·.redirect 0 (.text n)) (Run.shielded second)
    modify fun s => { s with pipes := code :: s.pipes }
  else
    if (← get).has .lastpipe then Run.withDescriptors (·.redirect 0 (.text n)) second
    else Run.subshell E (·.redirect 0 (.text n)) second
    modify fun s => { s with pipes := [code, s.status] }
  modify fun s => if s.has .pipefail && s.status == 0 then { s with status := code } else s
  Run.check E

section Ending

variable {n : Nat}

theorem lenient_yields (quiet : Quiet s) (code : Nat) :
    Yields (modify fun s : Session => if s.has .pipefail && s.status == 0 then { s with status := code }
      else s : Run Unit) s () := by
  intro m
  have off : (leaving s m).has .pipefail = false := quiet.off (by decide)
  rw [modify_ok]
  simp only [off, Bool.false_and, Bool.false_eq_true, if_false]

-- A second command that is a pipe reads in this shell; its copies are those of its parts.
theorem rest_more (ran : ComesTo second { s.redirect 0 (.text n) with shielded := true } (.ok () t))
    (same : u = { t with descriptors := s.descriptors, shielded := s.shielded }) (quietly : Quiet u)
    (passes : Passes u) : ComesTo (pipeRest E n code second true) s (.ok () u) := by
  subst same
  intro m
  obtain ⟨k, done⟩ := (shielded_ok (s := s.redirect 0 (.text n)) ran) m
  have restored : Run.withDescriptors (·.redirect 0 (.text n)) (Run.shielded second) (leaving s m) =
      .ok () (leaving { t with descriptors := s.descriptors, shielded := s.shielded } k) := by
    unfold Run.withDescriptors
    rw [bind_ok get_ok, bind_ok (modify_ok _)]
    exact finally_ok done rfl
  let piped : Traces := { k with pipes := code :: k.pipes }
  refine ⟨piped, ?_⟩
  unfold pipeRest
  simp only [if_true]
  refine (bind_ok restored).trans ((bind_ok (modify_ok _)).trans ?_)
  exact (bind_ok (lenient_yields quietly code piped)).trans (quietly.check E passes piped)

-- The last command of a pipe is run in a copy of its own.
theorem rest_ends (quiet : Quiet s) (closes : Closes second ((Run.copyOf s).redirect 0 (.text n)) last t)
    (untrapped : t.traps = []) (settled : t.pending = []) (quietly : Quiet (resumed s t last))
    (passes : Passes (resumed s t last)) :
    ComesTo (pipeRest E n code second false) s (.ok () (resumed s t last)) := by
  have ran : ComesTo (Run.subshell E (·.redirect 0 (.text n)) second) s (.ok () (resumed s t last)) :=
    subshell_comesTo (fun m => rfl) closes untrapped settled
  intro m
  obtain ⟨k, done⟩ := ran m
  have apart : (leaving s m).has .lastpipe = false := quiet.off (by decide)
  let piped : Traces := { k with pipes := [code, (resumed s t last).status] }
  refine ⟨piped, ?_⟩
  unfold pipeRest
  simp only [Bool.false_eq_true, if_false]
  rw [bind_ok get_ok, apart]
  simp only [Bool.false_eq_true, if_false]
  refine (bind_ok done).trans ((bind_ok (modify_ok _)).trans ?_)
  exact (bind_ok (lenient_yields quietly code piped)).trans (quietly.check E passes piped)

end Ending

-- The session in which the first command of a pipe writes, and the one behind it, in
-- which the second one is told of.
def upstream (s : Session) : Session :=
  (Run.copyOf (s.addText "").1).redirect 1 (.text s.texts.length)

def downstream (s t : Session) (code : Nat) : Session := resumed (s.addText "").1 t code

theorem pipe_comesTo {goesOn : Bool} {r : Ending Unit}
    (told : ComesTo before (s.addText "").1 (.ok () (s.addText "").1))
    (closes : Closes first (upstream s) code t) (untrapped : t.traps = []) (settled : t.pending = [])
    (quietly : Quiet (downstream s t code)) (asked : ComesTo next (downstream s t code) (.ok () (downstream s t code)))
    (ends : ComesTo (pipeRest E s.texts.length (downstream s t code).status second goesOn) (downstream s t code) r) :
    ComesTo (runPipe E before first next second goesOn) s r := by
  have ran : ComesTo (Run.subshell E (·.redirect 1 (.text s.texts.length)) first) (s.addText "").1
      (.ok () (downstream s t code)) := subshell_comesTo (fun m => rfl) closes untrapped settled
  intro m
  obtain ⟨k, begun⟩ := told m
  obtain ⟨k, done⟩ := ran k
  have drained := drain_yields quietly (firstTask + s.begun) k
  obtain ⟨i, began⟩ := asked k
  obtain ⟨i, read⟩ := ends i
  refine ⟨i, ?_⟩
  unfold runPipe
  refine (bind_ok get_ok).trans ((bind_ok set_ok).trans ((bind_ok begun).trans ((bind_ok done).trans ?_)))
  refine (bind_ok get_ok).trans ((bind_ok drained).trans ((bind_ok began).trans ?_))
  exact read

theorem run_pipe {a b : Command} {r : Ending Unit} (quiet : Quiet s)
    (ran : ComesTo (runPipe E (a.announced E) (a.runInCopy E) (b.announced E) (b.runInCopy E) b.isPipe)
      s r) : ComesTo ((Command.pipe a b).run E) s r := by
  intro m
  have apart : (leaving s m).has .lastpipe = false := quiet.off (by decide)
  rw [Command.run, bind_ok get_ok, apart]
  exact ran m

end Pipes

section Capturing

variable {E : Engine} {s u : Session} {t : Nat → Session} {work : Run Unit} {code : Nat}

-- The session in which commands are run whose output stands for a text. The line from
-- which they are counted is the one that is run.
def drawing (s : Session) (line : Nat) : Session :=
  let copy := (Run.copyOf (s.addText "").1).redirect 1 (.text s.texts.length)
  { copy with
    switches := copy.switches.filter (· != .errexit), lineBase := line, nesting := s.nesting + 1 }

def drawn (n : Nat) (s : Session) : Session :=
  let s := (s.redirect 1 (.text n)).turn .errexit (s.has .errexit && s.has .inheritErrexit)
  { s with lineBase := s.line, nesting := s.nesting + 1 }

theorem drawn_copy (quiet : Quiet s) (m : Traces) :
    drawn s.texts.length (Run.copyOf (leaving (s.addText "").1 m)) = leaving (drawing s m.line) m := by
  have off : (Run.copyOf (leaving (s.addText "").1 m)).has .inheritErrexit = false :=
    Quiet.off (s := Run.copyOf (leaving (s.addText "").1 m)) (copy_quiet quiet) (by decide)
  unfold drawn Session.turn
  rw [off]
  simp only [Bool.and_false, Bool.false_eq_true, if_false]
  rfl

theorem drawing_alike (line : Nat) : (drawing s line).scopes = s.scopes ∧ (drawing s line).functions = s.functions ∧
    (drawing s line).tree = s.tree ∧ (drawing s line).here = s.here := by
  dsimp only [drawing, Run.copyOf, Session.redirect, Session.addText]
  exact ⟨rfl, rfl, rfl, rfl⟩

theorem drawing_quiet (quiet : Quiet s) (line : Nat) : Quiet (drawing s line) := by
  have copied : Quiet (Run.copyOf (s.addText "").1) := copy_quiet quiet
  exact { copied with usual := fun switch member => quiet.usual switch ((List.mem_filter.mp member).1) }

theorem captured_comesTo (quiet : Quiet s) (closes : ∀ line, Closes work (drawing s line) code (t line))
    (untrapped : ∀ line, (t line).traps = []) (settled : ∀ line, (t line).pending = [])
    (same : ∀ line, resumed (s.addText "").1 (t line) code = u) (quietly : Quiet u)
    (sound : '\x00' ∉ (u.textOf s.texts.length).toList) (m : Traces) :
    ∃ n : Traces, n.substituted = some u.status ∧ Run.captured E work (leaving s m) =
      .ok (String.ofList ((u.textOf s.texts.length).toList.reverse.dropWhile (· == '\n')).reverse)
        (leaving u n) := by
  have ran := @subshell_left E _ _ _ (drawn s.texts.length) _ _ m (drawn_copy quiet m) (closes m.line)
    (untrapped m.line) (settled m.line)
  rw [same m.line] at ran
  have drained := drain_yields quietly (firstTask + s.begun) m
  let taken : Traces := { m with substituted := some u.status }
  refine ⟨taken, rfl, ?_⟩
  have clean : (u.textOf s.texts.length).toList.contains '\x00' = false := by
    simpa using sound
  have whole : (u.textOf s.texts.length).toList.filter (· != '\x00') =
      (u.textOf s.texts.length).toList := by
    rw [List.filter_eq_self]
    intro c member
    rw [bne_iff_ne]
    rintro rfl
    exact sound member
  unfold Run.captured
  refine (bind_ok get_ok).trans ((bind_ok set_ok).trans ((bind_ok ran).trans ?_))
  refine (bind_ok drained).trans ((bind_ok (modify_ok _)).trans ((bind_ok get_ok).trans ?_))
  change (if (u.textOf s.texts.length).toList.contains '\x00' = true then _ else _ : Run String)
    (leaving u taken) = _
  rw [clean]
  exact congrArg (fun cs => (.ok (String.ofList (cs.reverse.dropWhile (· == '\n')).reverse)
    (leaving u taken) : Ending String)) whole

end Capturing

end Toolwrap.Running
