import Toolwrap.Proofs.Running.Programs
import Toolwrap.Proofs.Running.Reporting

-- The function that prints the help: a text that stands in the program goes through a
-- program of the host.

namespace Toolwrap.Running

open Shell

-- `cat` with a text that stands in the program as its input.
def catText (text : String) : Command :=
  .simple [] [bare "cat"] [.mk 0 .hereVerbatim [.text text]]

section Input

variable {E : Engine} {s : Session} {text : String}

-- The session whose input is a text that stands in the program.
def fed (s : Session) (text : String) : Session :=
  (s.addText text).1.redirect 0 (.text s.texts.length)

theorem here_gives :
    Gives (applyRedirects E [.mk 0 .hereVerbatim [.text text]]) s true (fed s text) := by
  intro m
  have document : expandParts E true [.text text] (leaving s m) =
      .ok [.kept text.toList] (leaving s m) := by
    rw [expandParts, Part.expand, bind_ok pure_ok, expandParts]
    rfl
  have joined : fragmentText [.kept text.toList] = text :=
    @fragmentText_kept text [text.toList] (by simp)
  have applied : Redirect.apply E (.mk 0 .hereVerbatim [.text text]) (leaving s m) =
      .ok true (leaving (fed s text) m) := by
    change Redirect.applyTo E 0 .hereVerbatim [.text text] _ = _
    unfold Redirect.applyTo
    simp only
    rw [bind_ok document, joined]
    rfl
  unfold applyRedirects
  rw [bind_ok applied]
  rfl

-- What is left of the session when its input is taken and printed.
def copied (s : Session) (n : Nat) : Session :=
  { (s.setTextOf n "").write (s.channel 1) (s.textOf n) with status := 0 }

theorem cat_gives {n : Nat} (led : s.channel 0 = .text n) :
    Gives (do Run.setStatus (← Utility.cat E [])) s () (copied s n) := by
  intro m
  have there : (leaving s m).channel 0 = .text n := led
  let w := (s.setTextOf n "").write (s.channel 1) (s.textOf n)
  have opened : ("-" == "-" && (leaving s m).channel 0 == .closed) = false := by
    rw [there]
    rfl
  have taken : Utility.textOf "-" (leaving s m) =
      .ok (.ok (s.textOf n)) (leaving (s.setTextOf n "") m) := by
    have input : Run.takeInput (leaving s m) = .ok (s.textOf n) (leaving (s.setTextOf n "") m) := by
      unfold Run.takeInput Run.takeInputOf
      rw [bind_ok get_ok, there]
      exact bind_ok set_ok
    unfold Utility.textOf
    exact (bind_ok input).trans rfl
  have printed : Utility.out (s.textOf n) (leaving (s.setTextOf n "") m) = .ok () (leaving w m) := by
    unfold Utility.out Run.print
    rw [modify_ok, write_leaving]
    rfl
  have nothing : ∀ key, ({} : Utility.Call).has key = false := fun _ => rfl
  unfold Utility.cat Utility.withCall
  simp only [Utility.Options.read, nothing, Bool.or_self, Bool.false_eq_true, if_false,
    List.isEmpty_nil, if_true, List.forIn_cons, List.forIn_nil]
  refine (bind_ok (a := 0) (t := leaving w m) ?_).trans rfl
  refine (bind_ok (a := (0, ([] : List Char))) (t := leaving w m) ?_).trans pure_ok
  refine (bind_ok (a := ForInStep.yield (0, ([] : List Char))) (t := leaving w m) ?_).trans pure_ok
  rw [bind_ok get_ok, opened]
  simp only [Bool.false_eq_true, if_false]
  rw [bind_ok taken]
  exact (bind_ok printed).trans rfl

end Input

section Printed

variable {E : Engine} {s : Session} {text path : String}

-- The session behind a text that was printed so.
def helped (s : Session) (path text : String) : Session :=
  let texts := (s.texts ++ [text]).set s.texts.length ""
  let after := Session.write { s with texts } (s.channel 1)
    ((s.texts ++ [text]).getD s.texts.length "")
  restored s (fed s text) { (fed s text).remember "cat" path 1 with
    tree := after.tree, texts := after.texts, written := after.written, status := 0 }

theorem helped_parts : ∃ tree texts written hashed descriptors, helped s path text =
    { s with tree, texts, written, hashed, descriptors, status := 0 } ∧
      ((s.tree.entries.map (·.1)).Nodup → (tree.entries.map (·.1)).Nodup) := by
  obtain ⟨hashed, same⟩ := remember_parts (fed s text) "cat" path 1
  unfold helped
  rw [same]
  obtain ⟨tree, texts, written, shape, distinct⟩ := write_keeps
    { s with texts := (s.texts ++ [text]).set s.texts.length "" } (s.channel 1)
    ((s.texts ++ [text]).getD s.texts.length "")
  simp only [shape]
  exact ⟨tree, texts, written, hashed, _, rfl, distinct⟩

theorem helped_quiet (quiet : Quiet s) : Quiet (helped s path text) := by
  obtain ⟨tree, texts, written, hashed, descriptors, shape, distinct⟩ := @helped_parts s text path
  rw [shape]
  exact { quiet with distinct := distinct quiet.distinct }

-- The session behind the text is printed as it would be from where the program was called.
theorem copied_like {p : Session} (tree : p.tree = s.tree) (texts : p.texts = s.texts ++ [text]) (shared : p.shared = s.shared)
    (written : p.written = s.written) (clock : p.clock = s.clock) (out : p.channel 1 = s.channel 1) :
    let after := Session.write { s with texts := (s.texts ++ [text]).set s.texts.length "" } (s.channel 1)
      ((s.texts ++ [text]).getD s.texts.length "")
    copied p s.texts.length =
      { p with tree := after.tree, texts := after.texts, written := after.written, status := 0 } := by
  let q : Session := { s with texts := (s.texts ++ [text]).set s.texts.length "" }
  have taken : (p.setTextOf s.texts.length "").texts = q.texts := congrArg (·.set s.texts.length "") texts
  intro after
  unfold copied
  rw [out, @write_like q (p.setTextOf s.texts.length "") tree taken shared written clock]
  unfold Session.textOf
  rw [texts]
  rfl

theorem catText_comesTo (quiet : Quiet s)
    (started : s.startOf "cat" [] = .ok (path, .host "cat" "cat" [])) :
    ComesTo ((catText text).run E) s (.ok () (helped s path text)) := by
  let t : Session := { fed s text with named := s.named }
  have flat : t = { s with texts := s.texts ++ [text], descriptors := (fed s text).descriptors } := by
    dsimp only [t, fed, Session.addText, Session.redirect]
  have calm : Quiet t := by
    rw [flat]
    exact quiet
  have there : t.startOf "cat" [] = .ok (path, .host "cat" "cat" []) := by
    rw [flat, ← started]
    refine startOf_like ?_ ?_ ?_ "cat" [] <;> rfl
  let q : Session := { s with texts := (s.texts ++ [text]).set s.texts.length "" }
  let after := q.write (s.channel 1) ((s.texts ++ [text]).getD s.texts.length "")
  obtain ⟨hashed, same⟩ := remember_parts t "cat" path 1
  let u : Session := { t with hashed }
  let p := hosted "cat" (u.environmentFor path) (Run.copyOf u)
  have parts : p.tree = s.tree ∧ p.texts = s.texts ++ [text] ∧ p.shared = s.shared ∧ p.written = s.written ∧
      p.clock = s.clock ∧ p.descriptors = (fed s text).descriptors := by
    dsimp only [p, u, t, hosted, Run.copyOf, fed, Session.addText, Session.redirect]
    exact ⟨rfl, rfl, rfl, rfl, rfl, rfl⟩
  obtain ⟨tree, texts, shared, written, clock, descriptors⟩ := parts
  have led : p.channel 0 = .text s.texts.length := by
    unfold Session.channel
    rw [descriptors]
    exact redirect_channel (s.addText text).1 0 _
  have other : p.channel 1 = s.channel 1 := by
    unfold Session.channel
    rw [descriptors]
    exact redirect_other (s.addText text).1 (by decide) _
  have left : copied p s.texts.length = { p with
      tree := after.tree, texts := after.texts, written := after.written, status := 0 } :=
    copied_like tree texts shared written clock other
  have closes : Closes (do Run.setStatus (← Utility.cat E [])) p 0 (copied p s.texts.length) :=
    Or.inl ⟨(cat_gives led).comesTo, rfl⟩
  rw [left] at closes
  have invoked := @invoke_program E t "cat" [] _ calm rfl
    (host_comesTo rfl rfl there same closes rfl rfl)
  have finally_ : helped s path text = restored s (fed s text)
      { u with tree := after.tree, texts := after.texts, written := after.written, status := 0 } := by
    unfold helped
    rw [show (fed s text).remember "cat" path 1 = u from same]
  have done : ComesTo (redirecting E [.mk 0 .hereVerbatim [.text text]]
      (invoke E { fields := ["cat"] })) s (.ok () (helped s path text)) := by
    rw [finally_]
    exact redirecting_ok (List.cons_ne_nil _ _) here_gives invoked
  obtain ⟨tree, texts, written, hashed, descriptors, shape, _⟩ := @helped_parts s text path
  have zero : (helped s path text).status = 0 := by
    rw [shape]
  have kept : (helped s path text).processes = s.processes := by
    rw [shape]
  exact simple_ok quiet (reads_bare "cat" (by decide) (by decide) reads_nil) (List.cons_ne_nil _ _)
    (not_exec (by decide)) done (helped_quiet quiet) kept (Or.inl zero)

theorem behind_helped (name : String) (f : Function) (args : List String) (line : Nat) :
    behind s (helped (calling s name f args line) path text) =
      behind s (helped (calling s name f args 0) path text) := by
  let q : Session := { s with texts := (s.texts ++ [text]).set s.texts.length "" }
  let after := q.write (s.channel 1) ((s.texts ++ [text]).getD s.texts.length "")
  have shape : ∀ line, helped (calling s name f args line) path text =
      { (fed (calling s name f args line) text).remember "cat" path 1 with
        tree := after.tree, texts := after.texts, written := after.written, status := 0
        descriptors := (restored s (fed s text) (fed s text)).descriptors } := by
    intro line
    have wrote := @write_like q { calling s name f args line with texts := q.texts }
      rfl rfl rfl rfl rfl (s.channel 1) ((s.texts ++ [text]).getD s.texts.length "")
    have led := @restored_like s (fed s text) (fed s text) (calling s name f args line)
      (fed (calling s name f args line) text)
      { (fed (calling s name f args line) text).remember "cat" path 1 with
        tree := after.tree, texts := after.texts, written := after.written, status := 0 }
      rfl rfl rfl rfl
    exact (congrArg (fun w : Session => restored (calling s name f args line)
      (fed (calling s name f args line) text)
      { (fed (calling s name f args line) text).remember "cat" path 1 with
        tree := w.tree, texts := w.texts, written := w.written, status := 0 }) wrote).trans led
  rw [shape line, shape 0]
  rfl

end Printed

-- The session behind a call of a function that prints a text.
def shown (s : Session) (name : String) (f : Function) (path text : String) : Session :=
  behind s (helped (calling s name f [] 0) path text)

theorem shown_quiet {s : Session} {name path text : String} {f : Function} (quiet : Quiet s) :
    Quiet (shown s name f path text) := by
  have calm : Quiet (calling s name f [] 0) := quiet
  have calmly : Quiet (helped (calling s name f [] 0) path text) := helped_quiet calm
  exact calmly

-- A function that prints a text is called.
theorem printer_comesTo {E deeper : Engine} {s : Session} {name text : String}
    (runs : E.script = runScript deeper) (quiet : Quiet s) (hosts : Hosts s "cat")
    (tame : name.toList.all isTame = true) (filled : name ≠ "")
    (alone : name ∉ ["command", "builtin", "exec"]) (defined : Defines s name (catText text)) :
    ∃ f path, ComesTo ((say [name]).run E) s (.ok () (shown s name f path text)) := by
  obtain ⟨f, outer, inner, found, body⟩ := defined
  obtain ⟨path, started⟩ := hosts []
  have calmly : ∀ line, Quiet (helped (calling s name f [] line) path text) := by
    intro line
    have calm : Quiet (calling s name f [] line) := quiet
    exact helped_quiet calm
  have called : ComesTo (callFunction E name f []) s (.ok () (shown s name f path text)) := by
    refine call_ok quiet calmly (behind_helped name f []) ?_
    intro line
    have calm : Quiet (calling s name f [] line) := quiet
    rw [runs, body]
    exact body_comesTo outer inner calm (catText_comesTo calm
      ((@startOf_like s (calling s name f [] line) rfl rfl rfl "cat" []).trans started))
  have reads := reads_bare (s := s) (E := E) name tame filled reads_nil
  obtain ⟨tree, texts, written, hashed, descriptors, shape, _⟩ :=
    @helped_parts (calling s name f [] 0) text path
  have zero : (shown s name f path text).status = 0 := by
    rw [shown, shape]
    rfl
  have kept : (shown s name f path text).processes = s.processes := by
    rw [shown, shape]
    rfl
  exact ⟨f, path, simple_ok quiet reads (List.cons_ne_nil _ _) (not_exec alone)
    (invoke_function quiet found called) (shown_quiet quiet) kept (Or.inl zero)⟩

-- A program that is asked for help ends with the code zero.
theorem help_comesTo {E deeper : Engine} {s : Session} {text : String}
    (runs : E.script = runScript deeper) (quiet : Quiet s) (hosts : Hosts s "cat")
    (defined : Defines s "bw_help" (catText text)) :
    ∃ u, ComesTo (runScript E [say ["bw_help"], leave "0"]) s (.error (.exit 0) u) := by
  obtain ⟨f, path, called⟩ := printer_comesTo (E := E) runs quiet hosts (by decide) (by decide)
    (by decide) defined
  have quietly : Quiet (shown s "bw_help" f path text) := shown_quiet quiet
  exact ⟨_, script_cons quiet called (script_one quietly (@leave_comesTo E _ quietly 0 (by decide)))⟩

-- A program that is asked for a line of its own prints it and ends with the code zero.
theorem version_comesTo {E : Engine} {s : Session} (quiet : Quiet s) (opened : s.channel 1 ≠ .closed)
    (line : String) :
    ∃ u, ComesTo (runScript E [run [bare "echo", quotedWord line], leave "0"]) s
      (.error (.exit 0) u) := by
  have reads := reads_bare (s := s) (E := E) "echo" (by decide) (by decide)
    (reads_double [line] (double_fields (spells_literal line)) reads_nil)
  have quietly : Quiet { s.write (s.channel 1) (echoText [line]) with status := 0 } :=
    write_quiet quiet
  have kept : (s.write (s.channel 1) (echoText [line])).processes = s.processes := by
    obtain ⟨tree, texts, written, shape, _⟩ := write_keeps s (s.channel 1) (echoText [line])
    rw [shape]
  have printed := builtin_ok Builtin.echo quiet reads (by decide) rfl (by decide)
    (echo_gives quiet opened [line]).comesTo quietly kept (Or.inl rfl)
  exact ⟨_, script_cons quiet printed
    (script_one quietly (@leave_comesTo E _ quietly 0 (by decide)))⟩

end Toolwrap.Running
