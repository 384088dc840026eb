import Toolwrap.Proofs.Running.Outputs
import Toolwrap.Proofs.Running.Pipes
import Toolwrap.Shell.Program

-- Programs of the host: where a name leads to one, and what it comes to in a session of
-- its own.

namespace Toolwrap.Running

open Shell

section Starting

variable {s t : Session}

-- What is at a path depends on the files and on where it is looked for.
theorem place_like (tree : t.tree = s.tree) (here : t.here = s.here) (path : String) : t.place path = s.place path := by
  unfold Session.place
  rw [tree, here]

theorem entryAt_like (tree : t.tree = s.tree) (here : t.here = s.here) (path : String) :
    t.entryAt? path = s.entryAt? path := by
  unfold Session.entryAt?
  rw [place_like tree here, tree]

-- What a name stands for depends on that, and on the directories that are searched for it.
theorem startOf_like (tree : t.tree = s.tree) (here : t.here = s.here)
    (paths : t.value? "PATH" = s.value? "PATH") (name : String) (args : List String) :
    t.startOf name args = s.startOf name args := by
  have program : ∀ p, t.programAt p = s.programAt p := by
    intro p
    unfold Session.programAt
    rw [place_like tree here, entryAt_like tree here]
  have search : t.searchPath = s.searchPath := by
    unfold Session.searchPath
    rw [paths]
  have start : ∀ fuel path e args, t.start fuel path e args = s.start fuel path e args := by
    intro fuel
    induction fuel with
    | zero =>
      intro path e args
      cases e <;> simp only [Session.start]
    | succ fuel same =>
      intro path e args
      cases e with
      | host name => simp only [Session.start]
      | file text => simp only [Session.start, program, same]
  unfold Session.startOf Session.program
  simp only [program, search, start]

-- A program of the host stands for a name.
def Hosts (s : Session) (name : String) : Prop :=
  ∀ args, ∃ path, s.startOf name args = .ok (path, .host name name args)

theorem hosts_found {path : String} (found : s.program name = .ok (path, .host name)) :
    Hosts s name := by
  intro args
  refine ⟨path, ?_⟩
  unfold Session.startOf
  rw [found]
  rfl

theorem hosts_like (hosts : Hosts s name) (tree : t.tree = s.tree) (here : t.here = s.here)
    (paths : t.value? "PATH" = s.value? "PATH") : Hosts t name := by
  intro args
  obtain ⟨path, found⟩ := hosts args
  exact ⟨path, (startOf_like tree here paths name args).trans found⟩

end Starting

-- The session of a program of the host, which sees the environment alone.
def hosted (name : String) (env : List (String × String)) (s : Session) : Session :=
  { s with
    arg0 := name, shielded := true, traps := []
    scopes := [env.map fun (x, v) => (x, { content := .text v, exported := true })] }

section Programs

variable {E : Engine} {s t : Session} {name path : String} {args : List String} {code : Nat}

theorem remember_parts (s : Session) (name path : String) (runs : Nat) :
    ∃ hashed, s.remember name path runs = { s with hashed } := by
  unfold Session.remember
  split
  · exact ⟨s.hashed, rfl⟩
  · exact ⟨_, rfl⟩

theorem runHost_utility {utility : Utility} (used : isStarted name = true)
    (known : Utility.named? name = some utility) (env : List (String × String)) :
    runHost E name name args env =
      Run.subshell E (hosted name env) (do Run.setStatus (← utility E args)) := by
  have one : name = "cat" ∨ name = "tr" ∨ name = "dirname" ∨ name = "basename" := by
    simpa [isStarted] using used
  unfold runHost
  rw [known]
  rcases one with rfl | rfl | rfl | rfl <;> rfl

-- A program that is started leaves behind where it was found, and what was written.
theorem host_comesTo {utility : Utility} {u : Session} (used : isStarted name = true)
    (known : Utility.named? name = some utility)
    (started : s.startOf name args = .ok (path, .host name name args))
    (remembered : s.remember name path 1 = u)
    (closes : Closes (do Run.setStatus (← utility E args))
      (hosted name (u.environmentFor path) (Run.copyOf u)) code t)
    (untrapped : t.traps = []) (settled : t.pending = []) :
    ComesTo (runProgram E name args) s (.ok () { u.keeping t with status := code % 256 }) := by
  have ran : ComesTo (runHost E name name args (u.environmentFor path)) u
      (.ok () { u.keeping t with status := code % 256 }) := by
    rw [runHost_utility used known]
    exact subshell_comesTo (fun m => rfl) closes untrapped settled
  intro m
  have there : (leaving s m).startOf name args = .ok (path, .host name name args) :=
    (@startOf_like s (leaving s m) rfl rfl rfl name args).trans started
  have kept : (leaving s m).remember name path 1 = leaving u m := by
    rw [← remembered]
    unfold Session.remember
    by_cases slashed : name.toList.contains '/' = true
    · rw [if_pos slashed, if_pos slashed]
    · rw [if_neg slashed, if_neg slashed]
      rfl
  obtain ⟨n, went⟩ := ran m
  refine ⟨n, ?_⟩
  unfold runProgram
  rw [bind_ok get_ok, there]
  simp only
  rw [bind_ok (modify_ok _), kept, bind_ok get_ok]
  exact went

end Programs

end Toolwrap.Running
