import Toolwrap.Proofs.Running.Builtins
import Toolwrap.Proofs.Running.Outputs
import Toolwrap.Wrapper.Phrases

-- The function that reports errors, and what ends a program with a message.

namespace Toolwrap.Running

open Shell

section Placed

variable {E : Engine} {s : Session} {c : Command} {r : Ending Unit}

theorem located_comesTo (line : Nat) (ran : ComesTo (c.run E) s r) :
    ComesTo ((Command.located line c).run E) s r := by
  intro m
  rw [run_located, bind_ok (modify_ok _)]
  exact ran { m with line := (leaving s m).lineBase + line }

theorem group_comesTo {body : Script} (ran : ComesTo (runScript E body) s r) :
    ComesTo ((Command.group body).run E) s r := by
  rw [run_group]
  exact ran

-- The body of a function, as it is read: a group with a command on a line of its own.
theorem body_comesTo (outer inner : Nat) (quiet : Quiet s) (ran : ComesTo (c.run E) s r) :
    ComesTo (runScript E [.located outer (.group [.located inner c])]) s r :=
  script_one quiet (located_comesTo outer
    (group_comesTo (script_one quiet (located_comesTo inner ran))))

end Placed

-- `echo "[$BW_META_FUNCTIONALITY_NAME] ERROR: $*" >&2`
def errorEcho : Command :=
  .simple [] [bare "echo",
    [.double [.text "[", ref "BW_META_FUNCTIONALITY_NAME", .text "] ERROR: ", ref "*"]]]
    [.mk 1 .duplicate (bare "2")]

section Errors

variable {E : Engine} {s : Session}

-- The session behind such a report.
def reported (s : Session) : Session :=
  let after := s.write (s.channel 2) (echoText ["[" ++
    ((s.value? "BW_META_FUNCTIONALITY_NAME").getD "" ++ ("] ERROR: " ++ s.joint.intercalate s.args))])
  restored s (s.redirect 1 (s.channel 2)) { s.redirect 1 (s.channel 2) with
    tree := after.tree, texts := after.texts, written := after.written, status := 0 }

theorem reported_quiet (quiet : Quiet s) : Quiet (reported s) := by
  have distinct : ∀ out, ((s.write (s.channel 2) out).tree.entries.map (·.1)).Nodup :=
    fun out => (write_quiet quiet).distinct
  exact { quiet with distinct := distinct _ }

theorem errorEcho_comesTo (quiet : Quiet s) (plain : Ordinarily s "BW_META_FUNCTIONALITY_NAME")
    (opened : s.channel 2 ≠ .closed) : ComesTo (errorEcho.run E) s (.ok () (reported s)) := by
  have spelled := spells_cons (E := E) (spells_text "[")
    (spells_cons (plain_spells quiet (stands_own (by decide) plain))
      (spells_cons (spells_text "] ERROR: ") star_spells))
  have reads := reads_bare "echo" (by decide) (by decide)
    (reads_double _ (double_fields spelled) reads_nil)
  let led : Session := { s.redirect 1 (s.channel 2) with named := s.named }
  have calm : Quiet led := quiet
  have channel : led.channel 1 = s.channel 2 := redirect_channel s 1 _
  have shown : led.channel 1 ≠ .closed := by
    rw [channel]
    exact opened
  have echoed := @invoke_builtin E led "echo" _ _ calm (by decide) (by decide) Builtin.echo rfl
    (echo_gives calm shown ["[" ++ ((s.value? "BW_META_FUNCTIONALITY_NAME").getD "" ++
      ("] ERROR: " ++ s.joint.intercalate s.args))]).comesTo
  rw [channel, @write_like s led rfl rfl rfl rfl rfl] at echoed
  exact simple_ok quiet reads (List.cons_ne_nil _ _) (not_exec (by decide))
    (redirecting_ok (List.cons_ne_nil _ _) (toError_gives opened) echoed) (reported_quiet quiet)
    rfl (Or.inl rfl)

-- The line from which the function is called leaves nothing behind.
theorem behind_reported (name : String) (f : Function) (args : List String) (line : Nat) :
    behind s (reported (calling s name f args line)) =
      behind s (reported (calling s name f args 0)) := by
  unfold reported
  rw [@write_like s (calling s name f args line) rfl rfl rfl rfl rfl,
    @write_like s (calling s name f args 0) rfl rfl rfl rfl rfl]
  have led := fun line out => @restored_like s (s.redirect 1 (s.channel 2)) (s.redirect 1 (s.channel 2))
    (calling s name f args line) ((calling s name f args line).redirect 1 (s.channel 2))
    { (calling s name f args line).redirect 1 (s.channel 2) with
      tree := (s.write (s.channel 2) out).tree, texts := (s.write (s.channel 2) out).texts
      written := (s.write (s.channel 2) out).written, status := 0 } rfl rfl rfl rfl
  exact (congrArg (behind s) (led line _)).trans (congrArg (behind s) (led 0 _)).symm

end Errors

-- A function of one command, as it is read from a text.
def Defines (s : Session) (name : String) (c : Command) : Prop :=
  ∃ f outer inner, s.functions.lookup name = some f ∧
    f.body = .located outer (.group [.located inner c])

section Defining

variable {E : Engine} {s : Session} {name : String} {c : Command}

end Defining

section Fatal

variable {E deeper : Engine} {s : Session} {message : List Part} {text : String}

theorem error_comesTo (runs : E.script = runScript deeper) (quiet : Quiet s)
    (plain : Ordinarily s "BW_META_FUNCTIONALITY_NAME") (opened : s.channel 2 ≠ .closed)
    (defined : Defines s "bw_error" errorEcho) (spelled : Spells E s message text) :
    ∃ u, ComesTo ((run [bare "bw_error", [.double message]]).run E) s (.ok () u) ∧ Quiet u ∧ u.frames = s.frames := by
  obtain ⟨f, outer, inner, found, body⟩ := defined
  have called : ComesTo (callFunction E "bw_error" f [text]) s
      (.ok () (behind s (reported (calling s "bw_error" f [text] 0)))) := by
    refine call_ok quiet (fun line => reported_quiet (s := calling s "bw_error" f [text] line) quiet)
      (behind_reported "bw_error" f [text]) ?_
    intro line
    have quietly : Quiet (calling s "bw_error" f [text] line) := quiet
    rw [runs, body]
    exact body_comesTo outer inner quietly (errorEcho_comesTo quietly plain opened)
  have reads := reads_bare (s := s) (E := E) "bw_error" (by decide) (by decide)
    (reads_double [text] (double_fields spelled) reads_nil)
  have quietly : Quiet (behind s (reported (calling s "bw_error" f [text] 0))) :=
    reported_quiet (s := calling s "bw_error" f [text] 0) quiet
  exact ⟨_, simple_ok quiet reads (List.cons_ne_nil _ _) (not_exec (by decide))
    (invoke_function quiet found called) quietly rfl (Or.inl rfl), quietly, rfl⟩

-- A program that reports an error ends with the code one.
theorem fatal_comesTo (runs : E.script = runScript deeper) (quiet : Quiet s)
    (plain : Ordinarily s "BW_META_FUNCTIONALITY_NAME") (opened : s.channel 2 ≠ .closed)
    (defined : Defines s "bw_error" errorEcho) (spelled : Spells E s message text) :
    ∃ u, ComesTo (runScript E (Wrapper.fatal message)) s (.error (.exit 1) u) := by
  obtain ⟨u, told, quietly, -⟩ := error_comesTo runs quiet plain opened defined spelled
  exact ⟨u, script_cons quiet told (script_one quietly (@leave_comesTo E u quietly 1 (by decide)))⟩

-- The hint is written behind any message about arguments.
theorem fatalHint_comesTo (runs : E.script = runScript deeper) (quiet : Quiet s)
    (plain : Ordinarily s "BW_META_FUNCTIONALITY_NAME") (opened : s.channel 2 ≠ .closed)
    (defined : Defines s "bw_error" errorEcho) (spelled : Spells E s message text) :
    ∃ u, ComesTo (runScript E (Wrapper.fatalHint message)) s (.error (.exit 1) u) := by
  have hint : Spells E s Wrapper.helpHint _ :=
    spells_cons (spells_text _) (spells_cons (spells_escaped _) (spells_cons (spells_text _)
      (spells_cons (spells_escaped _) (spells_text _))))
  exact fatal_comesTo runs quiet plain opened defined (spells_append spelled hint)

end Fatal

end Toolwrap.Running
