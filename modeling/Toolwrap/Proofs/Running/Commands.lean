import Toolwrap.Proofs.Running.Steps

-- A quiet session is one in which nothing but the program itself decides what is run
-- next: no events, no tasks, no signals, and no switches but the usual ones. There a
-- simple command comes to what its fields, invoked as a command, come to.

namespace Toolwrap.Running

open Shell

-- What decides how commands are run. Commands of generated programs keep it.
structure Setting where
  dialect : Dialect
  switches : List Switch
  traps : List (String × String)
  arrivals : List (Nat × Nat × Nat)
  tasks : List Task
  horizon : Option Nat
  disabled : List String
  functions : List (String × Function)
  processes : List Nat
  tree : FileTree
  here : Place

def setting (s : Session) : Setting :=
  ⟨s.dialect, s.switches, s.traps, s.arrivals, s.tasks, s.horizon, s.disabled, s.functions,
    s.processes, s.tree, s.here⟩

-- The names of the functions that generated programs define for their own use.
def isHelper (name : String) : Bool := "bw_".toList.isPrefixOf name.toList

structure Calm (a : Setting) : Prop where
  full : a.dialect = .full
  usual : ∀ switch ∈ a.switches, switch ∈ Switch.errexit :: Switch.initial
  untrapped : a.traps = []
  unheard : a.arrivals = []
  alone : a.tasks = []
  endless : a.horizon = none
  enabled : a.disabled = []
  helpers : ∀ f ∈ a.functions, isHelper f.1 = true
  distinct : (a.tree.entries.map (·.1)).Nodup

abbrev Quiet (s : Session) : Prop := Calm (setting s)

theorem onEvent_none {E : Engine} {event : String} {s : Session} (untrapped : s.traps = []) :
    Run.onEvent E event s = .ok () s := by
  unfold Run.onEvent
  rw [bind_ok get_ok, untrapped]
  rfl

section Quiet

variable {s t : Session} (quiet : Quiet s)

include quiet

theorem Quiet.not_plain : s.isPlain = false := by
  have full : s.dialect = .full := quiet.full
  rw [Session.isPlain, full]
  rfl

theorem Quiet.off {switch : Switch} (other : switch ∉ Switch.errexit :: Switch.initial) :
    s.has switch = false := by
  unfold Session.has
  rw [List.contains_eq_mem, decide_eq_false_iff_not]
  exact fun on => other (quiet.usual switch on)

theorem Quiet.no_function {name : String} (other : isHelper name = false) :
    s.functions.lookup name = none := by
  rw [List.lookup_eq_none_iff]
  intro f member
  rw [bne_iff_ne]
  rintro rfl
  have helper := quiet.helpers f member
  rw [other] at helper
  cases helper

theorem Quiet.onEvent (E : Engine) (event : String) : Yields (Run.onEvent E event) s () :=
  fun _ => onEvent_none quiet.untrapped

theorem Quiet.deliver (E : Engine) : Yields (Builtin.deliver E) s () := by
  intro m
  have unheard : (leaving s m).arrivals = [] := quiet.unheard
  unfold Builtin.deliver
  rw [bind_ok get_ok, unheard]
  simp only [List.isEmpty_nil, Bool.not_true, Bool.and_false, Bool.false_eq_true, if_false]
  rfl

theorem Quiet.trace (E : Engine) (shown : Unit → String) : Yields (Shell.trace E shown) s () := by
  intro m
  have silent : (leaving s m).has .xtrace = false := quiet.off (by decide)
  unfold Shell.trace
  rw [bind_ok get_ok, silent]
  rfl

theorem Quiet.traceFull (E : Engine) (shown : Unit → String) :
    Yields (Shell.traceFull E shown) s () := by
  intro m
  have full : (leaving s m).isPlain = false := quiet.not_plain
  unfold Shell.traceFull
  rw [bind_ok get_ok, full]
  exact quiet.trace E shown m

theorem Quiet.tick : Yields Run.tick s () := by
  intro m
  have alone : (leaving s m).tasks = [] := quiet.alone
  have endless : (leaving s m).horizon = none := quiet.endless
  unfold Run.tick
  rw [bind_ok get_ok, alone, endless]
  rfl

theorem Quiet.begins (E : Engine) (c : Command) : ComesTo (Run.begin_ E c) s (.ok () s) := by
  intro m
  unfold Run.begin_
  rw [bind_ok (modify_ok _)]
  split
  · exact ⟨{ m with current := some c }, quiet.onEvent E "DEBUG" { m with current := some c }⟩
  · exact ⟨m, quiet.onEvent E "DEBUG" m⟩

end Quiet

-- Where a status ends nothing.
def Passes (s : Session) : Prop := s.status = 0 ∨ s.shielded = true ∨ s.has .errexit = false

theorem Quiet.check {s : Session} (quiet : Quiet s) (E : Engine) (passes : Passes s) :
    Yields (Run.check E) s () := by
  intro m
  have untrapped : (leaving s m).traps = [] := quiet.untrapped
  unfold Run.check
  rw [bind_ok get_ok]
  rcases passes with zero | shielded | lenient
  · rw [show (leaving s m).status = 0 from zero]
    rfl
  · rw [show (leaving s m).shielded = true from shielded]
    simp only [Bool.not_true, Bool.and_false, Bool.false_eq_true, if_false]
    rfl
  · rw [untrapped, show (leaving s m).has .errexit = false from lenient]
    split <;> rfl

-- The forms of commands, each with what it runs.
section Forms

attribute [local simp] Command.run runScript

variable (E : Engine)

theorem run_simple (assigns : List Assign) (words : List Word) (redirects : List Redirect) :
    (Command.simple assigns words redirects).run E = (do
      Run.begin_ E (.simple assigns words redirects)
      runSimple E assigns words redirects
      Run.check E
      Builtin.deliver E) := by
  simp

theorem run_group (body : Script) : (Command.group body).run E = runScript E body := by
  simp

theorem run_located (line : Nat) (c : Command) : (Command.located line c).run E = (do
    modify fun s => { s with line := s.lineBase + line }
    c.run E) := by
  simp

theorem run_comment (text : String) : (Command.comment text).run E = pure () := by
  simp

theorem run_not (c : Command) : (Command.not c).run E = (do
    Run.shielded (c.run E)
    Run.setStatus (if (← get).status == 0 then 1 else 0)) := by
  simp

theorem run_ifThen (cond body orelse : Script) : (Command.ifThen cond body orelse).run E = (do
    Run.shielded (runScript E cond)
    if (← get).status == 0 then runScript E body
    else
      if orelse.isEmpty then Run.setStatus 0
      runScript E orelse) := by
  simp

theorem run_test (t : Test) : (Command.test t).run E = (do
    Run.begin_ E (.test t)
    Run.setStatus (← t.holds E).status
    Run.keepPipe
    Run.check E) := by
  simp

theorem run_caseOf (word : Word) (clauses : List Clause) :
    (Command.caseOf word clauses).run E = (do
      Run.begin_ E (.caseOf word [])
      traceFull E fun _ => "case " ++ inlineParts word ++ " in"
      runClauses E (← Word.text E word) false clauses) := by
  simp

theorem runScript_nil : runScript E [] = pure () := by
  simp

theorem runScript_cons (c : Command) (rest : Script) : runScript E (c :: rest) = (do
    if !(← get).has .noexec then
      c.run E
      runScript E rest) := by
  simp

end Forms

section Simple

variable {E : Engine} {s t u : Session} {words : List Word} {redirects : List Redirect}

theorem redirecting_none (work : Run Unit) : redirecting E [] work = work := rfl

theorem withAssigns_none (work : Run Unit) : withAssigns E [] work = work := rfl

-- A command whose words name no process has nothing to clean up.
theorem withProcesses_ran {work : Run Unit} {r : Ending Unit} {m n : Traces}
    (ran : work (leaving s m) = r.leaving n) (same : r.last.processes = s.processes) :
    withProcesses E work (leaving s m) = r.leaving n := by
  have closed : ∀ u : Session, u.processes = s.processes → (do
      let now ← get
      let ended := now.processes.filter fun fd => !(leaving s m).processes.contains fd
      if !ended.isEmpty then
        let waiting := now.pending.drop (leaving s m).pending.length
        set { now with
          processes := (leaving s m).processes
          pending := waiting
          descriptors := now.descriptors.filter fun d => !ended.contains d.1 }
        Run.runPending E
        modify fun s' => { s' with pending := (leaving s m).pending } : Run Unit) (leaving u n) =
      .ok () (leaving u n) := by
    intro u kept
    have none_ : (leaving u n).processes.filter
        (fun fd => !(leaving s m).processes.contains fd) = [] := by
      rw [List.filter_eq_nil_iff]
      intro fd member
      have listed : fd ∈ s.processes := by
        rw [← kept]
        exact member
      simp [leaving, listed]
    rw [bind_ok get_ok, none_]
    rfl
  unfold withProcesses
  rw [bind_ok get_ok]
  cases r with
  | ok a t => exact unlessExit_ok ran (closed t same)
  | error stop t =>
    cases stop with
    | exit code => exact unlessExit_exit ran
    | _ => exact unlessExit_error (by rintro code ⟨⟩) ran (closed t same)

variable {name : String} {args : List String}

-- What is done with the fields of a command that is not `exec`.
theorem runFields_comesTo {f : CommandFields} {r : Ending Unit} (quiet : Quiet s)
    (other : f.fields ≠ ["exec"]) (ended : ComesTo (redirecting E redirects (invoke E f)) s r) :
    ComesTo (runFields E [] f redirects) s r := by
  intro m
  obtain ⟨n, ran⟩ := ended m
  have full : (leaving s m).isPlain = false := quiet.not_plain
  unfold runFields
  rw [bind_ok get_ok]
  have named : (f.fields == ["exec"]) = false := by
    rw [beq_eq_false_iff_ne]
    exact other
  simp only [named, full, Bool.false_and, Bool.false_eq_true, if_false]
  have traced : (withAssigns E [] do
      Shell.trace E fun _ => " ".intercalate (f.fields.map Requoted.shown)
      redirecting E redirects (invoke E f)) (leaving s m) = r.leaving n := by
    rw [withAssigns_none, bind_ok (quiet.trace E _ m)]
    exact ran
  cases r with
  | ok a t => exact ⟨{ n with lastWord := f.fields.getLastD "" }, bind_ok traced⟩
  | error stop t => exact ⟨n, bind_error traced⟩

-- The words of a command may run others, which leave another session behind.
theorem runSimple_comesTo {f : CommandFields} {r : Ending Unit} (quiet : Quiet u)
    (fields : ComesTo (commandFields E words) s (.ok f u)) (filled : f.fields ≠ [])
    (other : f.fields ≠ ["exec"]) (ended : ComesTo (redirecting E redirects (invoke E f)) u r)
    (same : r.last.processes = s.processes) :
    ComesTo (runSimple E [] words redirects) s r := by
  have inner : ComesTo (do
      let f ← commandFields E words
      if f.fields.isEmpty then runAssigns E [] redirects
      else runFields E [] f redirects) s r := by
    refine fields.bind ?_
    rw [List.isEmpty_eq_false_iff.mpr filled]
    exact runFields_comesTo quiet other ended
  intro m
  obtain ⟨n, ran⟩ := inner { m with substituted := none }
  have cleaned := withProcesses_ran (E := E) ran same
  unfold runSimple
  rw [bind_ok (modify_ok _)]
  cases r with
  | ok a t => exact ⟨{ n with pipes := [t.status] }, bind_ok cleaned⟩
  | error stop t => exact ⟨n, bind_error cleaned⟩

theorem simple_comesTo {f : CommandFields} (quiet : Quiet s) (between : Quiet u)
    (fields : ComesTo (commandFields E words) s (.ok f u)) (filled : f.fields ≠ [])
    (other : f.fields ≠ ["exec"])
    (done : ComesTo (redirecting E redirects (invoke E f)) u (.ok () t)) (quietly : Quiet t)
    (same : t.processes = s.processes) (passes : Passes t) :
    ComesTo ((Command.simple [] words redirects).run E) s (.ok () t) := by
  have ran := runSimple_comesTo between fields filled other done same
  rw [run_simple]
  refine (quiet.begins E _).bind (ran.bind ?_)
  exact (quietly.check E passes).comesTo.bind (quietly.deliver E).comesTo

-- A command of words ends as the command that they name does.
theorem simple_ok {f : CommandFields} (quiet : Quiet s)
    (fields : Yields (commandFields E words) s f) (filled : f.fields ≠ [])
    (other : f.fields ≠ ["exec"])
    (done : ComesTo (redirecting E redirects (invoke E f)) s (.ok () t)) (quietly : Quiet t)
    (same : t.processes = s.processes) (passes : Passes t) :
    ComesTo ((Command.simple [] words redirects).run E) s (.ok () t) :=
  simple_comesTo quiet quiet fields.comesTo filled other done quietly same passes

theorem simple_error {f : CommandFields} {stop : Stop} (quiet : Quiet s)
    (fields : Yields (commandFields E words) s f) (filled : f.fields ≠ [])
    (other : f.fields ≠ ["exec"])
    (failed : ComesTo (redirecting E redirects (invoke E f)) s (.error stop t))
    (same : t.processes = s.processes) :
    ComesTo ((Command.simple [] words redirects).run E) s (.error stop t) := by
  rw [run_simple]
  exact (quiet.begins E _).bind
    (runSimple_comesTo quiet fields.comesTo filled other failed same).bind_error

-- Assignments alone: the status is that of the last output that they took in, or zero.
theorem assigns_comesTo {assigns : List Assign} (code : Nat) (quiet : Quiet s)
    (ran : ∀ m : Traces, m.substituted = none → ∃ n : Traces, n.substituted.getD 0 = code ∧
      assigns.forM (Assign.apply E) (leaving s m) = .ok () (leaving t n))
    (quietly : Quiet t) (same : t.processes = s.processes)
    (passes : Passes { t with status := code % 256 }) :
    ComesTo ((Command.simple assigns [] []).run E) s (.ok () { t with status := code % 256 }) := by
  let u : Session := { t with status := code % 256 }
  have calmly : Quiet u := quietly
  have simple : ComesTo (runSimple E assigns [] []) s (.ok () u) := by
    intro m
    obtain ⟨n, given, applied⟩ := ran { m with substituted := none } rfl
    have inner : (do
        let f ← commandFields E []
        if f.fields.isEmpty then runAssigns E assigns []
        else runFields E assigns f []) (leaving s { m with substituted := none }) =
        .ok () (leaving u n) := by
      change runAssigns E assigns [] _ = _
      unfold runAssigns
      rw [bind_ok applied, bind_ok get_ok, show (leaving t n).substituted.getD 0 = code from given]
      rfl
    have cleaned := withProcesses_ran (E := E) (r := .ok () u) inner same
    refine ⟨{ n with pipes := [u.status] }, ?_⟩
    unfold runSimple
    rw [bind_ok (modify_ok _)]
    exact bind_ok cleaned
  rw [run_simple]
  exact (quiet.begins E _).bind (simple.bind
    ((calmly.check E passes).comesTo.bind (calmly.deliver E).comesTo))

end Simple

end Toolwrap.Running
