import Toolwrap.Proofs.Running.Control
import Toolwrap.Proofs.Running.Words

-- Commands by their names: functions first, then the commands of the shell. Behind
-- each name stands what the command comes to.

namespace Toolwrap.Running

open Shell

-- The fields that words come to, where no arrays are bound among them.
def Reads (E : Engine) (s : Session) (words : List Word) (fields : List String) : Prop :=
  Yields (commandFields E words) s { fields := fields }

section Reading

variable {E : Engine} {s : Session} {w : Word} {words : List Word} {fields : List String}

theorem reads_nil : Reads E s [] [] := fun _ => rfl

theorem reads_cons (first : List String) (other : ∀ a, w ≠ [.assign a]) (one : Yields (Word.fields E w) s first)
    (rest : Reads E s words fields) : Reads E s (w :: words) (first ++ fields) := by
  intro m
  rw [commandFields, bind_ok (one m), bind_ok pure_ok]
  · exact (bind_ok (rest m)).trans rfl
  · exact other

theorem reads_bare (word : String) (tame : word.toList.all isTame = true) (filled : word ≠ "")
    (rest : Reads E s words fields) : Reads E s (bare word :: words) (word :: fields) := by
  refine reads_cons [word] (by rintro a ⟨⟩) (fun m => ?_) rest
  refine bare_fields (List.all_eq_true.mp tame) ?_ E (leaving s m)
  intro empty
  exact filled (String.toList_inj.mp empty)

theorem reads_double (first : List String) {parts : List Part} (one : Yields (Word.fields E [.double parts]) s first)
    (rest : Reads E s words fields) : Reads E s ([.double parts] :: words) (first ++ fields) :=
  reads_cons first (by rintro a ⟨⟩) one rest

end Reading

section Invoking

variable {E : Engine} {s t : Session} {name : String} {args : List String} {r : Ending Unit}

theorem invoke_named (E : Engine) (name : String) (args : List String) :
    invoke E { fields := name :: args } = (do
      let s ← get
      match if s.isPlain && Builtin.special.contains name then none else s.functions.lookup name with
      | some function => callFunction E name function args
      | none => runNamed E name args) := rfl

theorem invoke_function {f : Function} (quiet : Quiet s)
    (found : s.functions.lookup name = some f)
    (ended : ComesTo (callFunction E name f args) s r) :
    ComesTo (invoke E { fields := name :: args }) s r := by
  intro m
  have full : (leaving s m).isPlain = false := quiet.not_plain
  have there : (leaving s m).functions.lookup name = some f := found
  rw [invoke_named, bind_ok get_ok, full, there]
  exact ended m

section Named

variable (quiet : Quiet s) (other : isHelper name = false)
  (alone : name ∉ ["command", "builtin", "exec"])

include quiet other alone

-- What is neither a helper nor works on other commands is a command of the shell or
-- a program.
theorem invoke_plainly (ended : ComesTo (runNamed.plainly E name args) s r) :
    ComesTo (invoke E { fields := name :: args }) s r := by
  intro m
  have full : (leaving s m).isPlain = false := quiet.not_plain
  have absent : (leaving s m).functions.lookup name = none := quiet.no_function other
  have enabled : (leaving s m).disabled.contains name = false := by
    rw [show (leaving s m).disabled = [] from quiet.enabled]
    rfl
  have ran : runNamed E name args (leaving s m) = runNamed.plainly E name args (leaving s m) := by
    unfold runNamed
    rw [bind_ok get_ok, bind_ok get_ok, enabled, full]
    simp only [Bool.false_and, Bool.or_self, Bool.false_eq_true, if_false]
    split
    · exact absurd (by decide) alone
    · exact absurd (by decide) alone
    · exact absurd (by decide) alone
    · rfl
  obtain ⟨n, went⟩ := ended m
  refine ⟨n, ?_⟩
  rw [invoke_named, bind_ok get_ok, full, absent]
  exact ran.trans went

theorem invoke_builtin {builtin : Builtin} (known : Builtin.known.lookup name = some builtin)
    (ended : ComesTo (builtin E args) s r) :
    ComesTo (invoke E { fields := name :: args }) s r := by
  refine invoke_plainly quiet other alone fun m => ?_
  have full : (leaving s m).isPlain = false := quiet.not_plain
  have enabled : (leaving s m).disabled.contains name = false := by
    rw [show (leaving s m).disabled = [] from quiet.enabled]
    rfl
  have named : Builtin.named? false name = some builtin := known
  obtain ⟨n, went⟩ := ended m
  refine ⟨n, ?_⟩
  unfold runNamed.plainly
  rw [bind_ok get_ok, bind_ok get_ok, enabled, full, named]
  exact went

end Named

-- The programs of the host that the helpers start.
def isStarted (name : String) : Bool := name ∈ ["cat", "tr", "dirname", "basename"]

theorem invoke_program (quiet : Quiet s) (used : isStarted name = true)
    (ended : ComesTo (runProgram E name args) s r) :
    ComesTo (invoke E { fields := name :: args }) s r := by
  have one : name = "cat" ∨ name = "tr" ∨ name = "dirname" ∨ name = "basename" := by
    simpa [isStarted] using used
  refine invoke_plainly quiet ?_ ?_ fun m => ?_
  · rcases one with rfl | rfl | rfl | rfl <;> decide
  · rcases one with rfl | rfl | rfl | rfl <;> decide
  · have full : (leaving s m).isPlain = false := quiet.not_plain
    have enabled : (leaving s m).disabled.contains name = false := by
      rw [show (leaving s m).disabled = [] from quiet.enabled]
      rfl
    obtain ⟨n, went⟩ := ended m
    refine ⟨n, ?_⟩
    unfold runNamed.plainly
    rw [bind_ok get_ok, bind_ok get_ok, enabled, full]
    rcases one with rfl | rfl | rfl | rfl <;> exact went

variable {words : List Word}

theorem not_exec (alone : name ∉ ["command", "builtin", "exec"]) :
    ({ fields := name :: args } : CommandFields).fields ≠ ["exec"] := by
  intro same
  exact alone (by simp [(List.cons.inj same).1])

theorem builtin_ok (builtin : Builtin) (quiet : Quiet s) (reads : Reads E s words (name :: args))
    (other : isHelper name = false) (known : Builtin.known.lookup name = some builtin)
    (alone : name ∉ ["command", "builtin", "exec"]) (done : ComesTo (builtin E args) s (.ok () t))
    (quietly : Quiet t) (same : t.processes = s.processes) (passes : Passes t) :
    ComesTo ((run words).run E) s (.ok () t) :=
  simple_ok quiet reads (List.cons_ne_nil _ _) (not_exec alone)
    (invoke_builtin quiet other alone known done) quietly same passes

theorem builtin_error (builtin : Builtin) {stop : Stop} (quiet : Quiet s)
    (reads : Reads E s words (name :: args)) (other : isHelper name = false)
    (known : Builtin.known.lookup name = some builtin)
    (alone : name ∉ ["command", "builtin", "exec"])
    (failed : ComesTo (builtin E args) s (.error stop t)) (same : t.processes = s.processes) :
    ComesTo ((run words).run E) s (.error stop t) :=
  simple_error quiet reads (List.cons_ne_nil _ _) (not_exec alone)
    (invoke_builtin quiet other alone known failed) same

end Invoking

end Toolwrap.Running
