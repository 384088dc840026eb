import Mathlib.Algebra.Group.Int.Defs
import Mathlib.Algebra.Group.Nat.Defs
import Mathlib.Data.Bool.AllAny
import Toolwrap.Shell.Run
-- One step of a run at a time: what a run comes to from a session, and how the
-- runs of its parts are put together.

namespace Toolwrap.Running

open Shell

section Steps

variable {α β : Type} {s t u : Session} {a : α} {b : β} {stop : Stop}

theorem pure_ok : (pure a : Run α) s = .ok a s := rfl

theorem get_ok : (get : Run Session) s = .ok s s := rfl

theorem set_ok : (set t : Run Unit) s = .ok () t := rfl

theorem modify_ok (change : Session → Session) :
    (modify change : Run Unit) s = .ok () (change s) := rfl

theorem throw_error : (throw stop : Run α) s = .error stop s := rfl

theorem bind_ok {work : Run α} {next : α → Run β} (done : work s = .ok a t) :
    (work >>= next) s = next a t := by
  simp only [bind, EStateM.bind, done]

theorem bind_error {work : Run α} {next : α → Run β} (failed : work s = .error stop t) :
    (work >>= next) s = .error stop t := by
  simp only [bind, EStateM.bind, failed]

theorem map_ok {work : Run α} {f : α → β} (done : work s = .ok a t) :
    (f <$> work) s = .ok (f a) t := by
  simp only [Functor.map, EStateM.map, done]

theorem map_error {work : Run α} {f : α → β} (failed : work s = .error stop t) :
    (f <$> work) s = .error stop t := by
  simp only [Functor.map, EStateM.map, failed]

theorem tryCatch_ok {work : Run α} {handler : Stop → Run α} (done : work s = .ok a t) :
    (tryCatch work handler) s = .ok a t := by
  change EStateM.tryCatch work handler s = _
  delta EStateM.tryCatch
  simp only [done]

theorem tryCatch_error {work : Run α} {handler : Stop → Run α} (failed : work s = .error stop t) :
    (tryCatch work handler) s = handler stop t := by
  change EStateM.tryCatch work handler s = _
  delta EStateM.tryCatch
  simp only [failed]
  rfl

theorem ok_of_toOption {ε α : Type} {e : Except ε α} {a : α} (found : e.toOption = some a) :
    e = .ok a := by
  cases e with
  | error _ => cases found
  | ok b => rw [Option.some.inj found]

theorem mapM_ok {work : α → Run β} {xs : List α} {f : α → β}
    (all : ∀ x ∈ xs, work x s = .ok (f x) s) : xs.mapM work s = .ok (xs.map f) s := by
  induction xs with
  | nil => rfl
  | cons x xs mapped =>
    rw [List.mapM_cons, bind_ok (all x (by simp)),
      bind_ok (mapped (fun y member => all y (List.mem_cons_of_mem _ member)))]
    rfl

variable {work : Run α} {after : Run Unit}

theorem finally_ok (done : work s = .ok a t) (closed : after t = .ok () u) :
    Run.finally_ work after s = .ok a u := by
  unfold Run.finally_
  exact (bind_ok (tryCatch_ok ((bind_ok done).trans ((bind_ok closed).trans rfl)))).trans rfl

theorem finally_error (failed : work s = .error stop t) (closed : after t = .ok () u) :
    Run.finally_ work after s = .error stop u := by
  unfold Run.finally_
  refine bind_error ?_
  rw [tryCatch_error (bind_error failed), bind_ok closed]
  rfl

theorem unlessExit_ok (done : work s = .ok a t) (closed : after t = .ok () u) :
    unlessExit work after s = .ok a u := by
  unfold unlessExit
  exact (bind_ok (tryCatch_ok ((bind_ok done).trans ((bind_ok closed).trans rfl)))).trans rfl

-- What ends the program leaves nothing to be done.
theorem unlessExit_exit {code : Nat} (failed : work s = .error (.exit code) t) :
    unlessExit work after s = .error (.exit code) t := by
  unfold unlessExit
  refine bind_error ?_
  rw [tryCatch_error (bind_error failed)]
  rfl

theorem unlessExit_error (open_ : ∀ code, stop ≠ .exit code)
    (failed : work s = .error stop t) (closed : after t = .ok () u) :
    unlessExit work after s = .error stop u := by
  unfold unlessExit
  refine bind_error ?_
  rw [tryCatch_error (bind_error failed)]
  cases stop with
  | exit code => exact absurd rfl (open_ code)
  | _ => exact (bind_ok closed).trans rfl

end Steps

-- What runs come to, whatever the commands before them left behind in passing. A
-- generated program never asks for the command that is run, for its line, for the
-- last word or for the statuses inside of a pipe.

structure Traces where
  current : Option Command
  line : Nat
  lastWord : String
  pipes : List Nat
  substituted : Option Nat

def traces (s : Session) : Traces := ⟨s.current, s.line, s.lastWord, s.pipes, s.substituted⟩

def leaving (s : Session) (m : Traces) : Session :=
  { s with
    current := m.current, line := m.line, lastWord := m.lastWord, pipes := m.pipes
    substituted := m.substituted }

theorem leaving_traces (s : Session) : leaving s (traces s) = s := rfl

-- How a run ends: with a value or with a reason to stop, in a session.
abbrev Ending (α : Type) := EStateM.Result Stop Session α

def Ending.leaving {α : Type} (m : Traces) : Ending α → Ending α
  | .ok a t => .ok a (Running.leaving t m)
  | .error stop t => .error stop (Running.leaving t m)

def Ending.last {α : Type} : Ending α → Session
  | .ok _ t => t
  | .error _ t => t

-- A run that touches no trace: it gives a value and changes the session.
def Gives {α : Type} (work : Run α) (s : Session) (a : α) (t : Session) : Prop :=
  ∀ m, work (leaving s m) = .ok a (leaving t m)

-- A run that only looks at the session.
def Yields {α : Type} (work : Run α) (s : Session) (a : α) : Prop := Gives work s a s

-- A run that may leave other traces behind than it found.
def ComesTo {α : Type} (work : Run α) (s : Session) (r : Ending α) : Prop :=
  ∀ m, ∃ n, work (leaving s m) = r.leaving n

section Rules

variable {α β : Type} {s t u : Session} {a : α} {b : β} {stop : Stop} {work : Run α}

theorem Gives.bind {next : α → Run β} (done : Gives work s a t) (after : Gives (next a) t b u) :
    Gives (work >>= next) s b u := by
  intro m
  rw [bind_ok (done m), after m]

theorem Gives.map {f : α → β} (done : Gives work s a t) : Gives (f <$> work) s (f a) t :=
  fun m => map_ok (done m)

theorem gives_pure : Gives (pure a : Run α) s a s := fun _ => rfl

theorem yields_pure : Yields (pure a : Run α) s a := fun _ => rfl

theorem Gives.comesTo (done : Gives work s a t) : ComesTo work s (.ok a t) :=
  fun m => ⟨m, done m⟩

theorem Yields.comesTo (seen : Yields work s a) : ComesTo work s (.ok a s) :=
  Gives.comesTo seen

theorem comesTo_pure : ComesTo (pure a : Run α) s (.ok a s) := fun m => ⟨m, rfl⟩

theorem comesTo_throw : ComesTo (throw stop : Run α) s (.error stop s) := fun m => ⟨m, rfl⟩

theorem ComesTo.bind {next : α → Run β} {r : Ending β} (done : ComesTo work s (.ok a t))
    (after : ComesTo (next a) t r) : ComesTo (work >>= next) s r := by
  intro m
  obtain ⟨n, ran⟩ := done m
  obtain ⟨k, went⟩ := after n
  exact ⟨k, (bind_ok ran).trans went⟩

theorem ComesTo.bind_error {next : α → Run β} (failed : ComesTo work s (.error stop t)) :
    ComesTo (work >>= next) s (.error stop t) := by
  intro m
  obtain ⟨n, ran⟩ := failed m
  exact ⟨n, Running.bind_error ran⟩

theorem ComesTo.bind_unit {work : Run Unit} {r : Ending Unit} (ended : ComesTo work s r) :
    ComesTo (work >>= fun _ => pure ()) s r := by
  cases r with
  | ok a t => exact ended.bind comesTo_pure
  | error stop t => exact ended.bind_error

theorem ComesTo.map {f : α → β} (done : ComesTo work s (.ok a t)) :
    ComesTo (f <$> work) s (.ok (f a) t) := by
  intro m
  obtain ⟨n, ran⟩ := done m
  exact ⟨n, map_ok ran⟩

-- From the session itself, a run ends as it does from one with other traces.
theorem ComesTo.run {r : Ending α} (ended : ComesTo work s r) : ∃ n, work s = r.leaving n :=
  ended (traces s)

theorem modify_gives {change : Session → Session}
    (same : ∀ m, change (leaving s m) = leaving t m) : Gives (modify change : Run Unit) s () t := by
  intro m
  rw [modify_ok, same]

end Rules

section Ends

variable {α : Type} {s t u : Session} {a : α} {stop : Stop} {work : Run α} {after : Run Unit}

theorem ComesTo.finally_ok (done : ComesTo work s (.ok a t)) (closed : ComesTo after t (.ok () u)) :
    ComesTo (Run.finally_ work after) s (.ok a u) := by
  intro m
  obtain ⟨n, ran⟩ := done m
  obtain ⟨k, went⟩ := closed n
  exact ⟨k, Running.finally_ok ran went⟩

theorem ComesTo.finally_error (failed : ComesTo work s (.error stop t))
    (closed : ComesTo after t (.ok () u)) :
    ComesTo (Run.finally_ work after) s (.error stop u) := by
  intro m
  obtain ⟨n, ran⟩ := failed m
  obtain ⟨k, went⟩ := closed n
  exact ⟨k, Running.finally_error ran went⟩

theorem ComesTo.unlessExit_ok (done : ComesTo work s (.ok a t))
    (closed : ComesTo after t (.ok () u)) : ComesTo (unlessExit work after) s (.ok a u) := by
  intro m
  obtain ⟨n, ran⟩ := done m
  obtain ⟨k, went⟩ := closed n
  exact ⟨k, Running.unlessExit_ok ran went⟩

theorem ComesTo.unlessExit_exit {code : Nat} (failed : ComesTo work s (.error (.exit code) t)) :
    ComesTo (unlessExit work after) s (.error (.exit code) t) := by
  intro m
  obtain ⟨n, ran⟩ := failed m
  exact ⟨n, Running.unlessExit_exit ran⟩

theorem ComesTo.unlessExit_error (open_ : ∀ code, stop ≠ .exit code)
    (failed : ComesTo work s (.error stop t)) (closed : ComesTo after t (.ok () u)) :
    ComesTo (unlessExit work after) s (.error stop u) := by
  intro m
  obtain ⟨n, ran⟩ := failed m
  obtain ⟨k, went⟩ := closed n
  exact ⟨k, Running.unlessExit_error open_ ran went⟩

end Ends

end Toolwrap.Running
