import Toolwrap.Proofs.Running.Locals
import Toolwrap.Proofs.Running.Pipes
import Toolwrap.Proofs.Running.Translating

-- A text that goes through programs: it is printed into a pipe, read from there by one
-- program and then by another, whose output is what is left of it.

namespace Toolwrap.Running

open Shell

section Texts

variable {s t : Session} {n code : Nat} {out : String}

-- Of a copy in which nothing but the texts changed, the texts stay.
theorem resumed_texts (tree : t.tree = s.tree) (clock : t.clock = s.clock) (tasks : t.tasks = s.tasks)
    (begun : t.begun = s.begun) (ended : t.ended = s.ended) (written : t.written = s.written)
    (arrivals : t.arrivals = s.arrivals) :
    resumed s t code = { s with texts := t.texts, status := code % 256 } := by
  unfold resumed Session.keeping
  rw [tree, clock, tasks, begun, ended, written, arrivals]

theorem write_text (own : s.shared ≤ n) (firm : out.toList.any Text.isLoose = false) :
    s.write (.text n) out = s.setTextOf n (s.textOf n ++ out) := by
  unfold Session.write Session.writeAt Session.joinTexts
  simp only [if_neg (Nat.not_lt.mpr own), firm, Bool.false_eq_true, if_false]

end Texts

-- What one call of the program makes of a text.
def Filters (E : Engine) (args : List String) (text out : String) : Prop :=
  ∀ s : Session, ∀ n, s.channel 0 = .text n → s.textOf n = text →
    Gives (do Run.setStatus (← Utility.translate E args)) s () (passed s n out)

section Filtering

variable {E : Engine} {text : String} (ascii : ∀ c ∈ text.toList, isAscii c = true)
include ascii

theorem small_filters :
    Filters E ["[:upper:]", "[:lower:]"] text (String.ofList (text.toList.map small)) := by
  rintro s n led rfl
  exact small_gives led ascii

theorem unspaced_filters :
    Filters E ["-d", "[:space:]"] text (String.ofList (text.toList.filter (!isSpace ·))) := by
  rintro s n led rfl
  exact unspaced_gives led ascii

end Filtering

section Started

variable {E : Engine} {s : Session} {words : List Word} {args : List String} {out : String} {n k line : Nat}

-- From one text to another one.
theorem filter_comesTo (quiet : Quiet s) (hosts : Hosts s "tr") (reads : Reads E s words ("tr" :: args))
    (filters : Filters E args (s.textOf n) out) (led : s.channel 0 = .text n) (leads : s.channel 1 = .text k)
    (own : s.shared ≤ k) (apart : n ≠ k) (fresh : s.textOf k = "")
    (firm : out.toList.any Text.isLoose = false) :
    ∃ hashed, ComesTo ((Command.located line (.simple [] words [])).runInCopy E) s
      (.ok () { s with hashed, texts := (s.texts.set n "").set k out, status := 0 }) := by
  obtain ⟨path, started⟩ := hosts args
  obtain ⟨hashed, same⟩ := remember_parts s "tr" path 1
  let u : Session := { s with hashed }
  let p := hosted "tr" (u.environmentFor path) (Run.copyOf u)
  have still : (p.setTextOf n "").textOf k = "" := by
    change (s.texts.set n "").getD k "" = ""
    rw [List.getD_eq_getElem?_getD, List.getElem?_set_ne apart, ← List.getD_eq_getElem?_getD]
    exact fresh
  have wrote : passed p n out = { p with texts := (s.texts.set n "").set k out, status := 0 } := by
    have there : p.channel 1 = .text k := leads
    have written := @write_text (p.setTextOf n "") k out own firm
    rw [still, String.empty_append] at written
    unfold passed
    rw [there, written]
    rfl
  have closes : Closes (do Run.setStatus (← Utility.translate E args)) p 0 (passed p n out) :=
    Or.inl ⟨(filters p n led rfl).comesTo, rfl⟩
  rw [wrote] at closes
  have invoked := @invoke_program E s "tr" args _ quiet rfl
    (host_comesTo rfl rfl started same closes rfl rfl)
  exact ⟨hashed, inCopy_ok quiet reads (by decide) invoked quiet rfl⟩

end Started

section Piped

variable {E : Engine} {d : Session} {words first second : List Word} {printed args more : List String}
  {middle out : String} {k l₁ l₂ l₃ : Nat}

-- From a text through the program twice, into another text.
theorem twice_comesTo {n : Nat} (quiet : Quiet d) (hosts : Hosts d "tr") (led : d.channel 0 = .text n)
    (leads : d.channel 1 = .text k) (own : d.shared ≤ k) (behind : k < n) (last : n + 1 = d.texts.length)
    (fresh : d.textOf k = "") (reads : ∀ t : Session, Quiet t → Reads E t first ("tr" :: args))
    (again : ∀ t : Session, Quiet t → Reads E t second ("tr" :: more))
    (filters : Filters E args (d.textOf n) middle) (also : Filters E more middle out)
    (firm : middle.toList.any Text.isLoose = false) (firmly : out.toList.any Text.isLoose = false) :
    ComesTo ((Command.pipe (.located l₁ (.simple [] first [])) (.located l₂ (.simple [] second []))).run E) d
      (.ok () { d with texts := ((d.texts.set n "").set k out) ++ [""], status := 0 }) := by
  let up := upstream d
  have calm : Quiet up := copy_quiet (s := (d.addText "").1) quiet
  have input : up.channel 0 = .text n := (redirect_other _ (by decide) _).trans led
  have given : up.textOf n = d.textOf n := by
    change (d.texts ++ [""]).getD n "" = d.texts.getD n ""
    simp only [List.getD_eq_getElem?_getD, List.getElem?_append_left (by omega : n < d.texts.length)]
  have new : up.textOf d.texts.length = "" := by
    change (d.texts ++ [""]).getD d.texts.length "" = ""
    simp
  obtain ⟨hashed, wrote⟩ := @filter_comesTo E up first args middle n d.texts.length l₁ calm
    (hosts_like hosts rfl rfl rfl) (reads up calm) (by rw [given]; exact filters) input
    (redirect_channel _ 1 _) (Nat.le_trans own (by omega)) (by omega) new firm
  let after : Session := { up with hashed, texts := d.texts.set n "" ++ [middle], status := 0 }
  let between : Session := { d with texts := d.texts.set n "" ++ [middle], status := 0 }
  have texts : ((d.texts ++ [""]).set n "").set d.texts.length middle = d.texts.set n "" ++ [middle] := by
    rw [List.set_append_left _ _ (by omega), List.set_append_right _ _ (by simp)]
    simp
  have closes : Closes ((Command.located l₁ (.simple [] first [])).runInCopy E) up 0 after := by
    refine Or.inl ⟨?_, rfl⟩
    change ComesTo _ up (.ok () { up with hashed, texts := _, status := 0 })
    rw [← texts]
    exact wrote
  have passed : downstream d after 0 = between := resumed_texts rfl rfl rfl rfl rfl rfl rfl
  let down := (Run.copyOf between).redirect 0 (.text d.texts.length)
  have still : down.textOf k = "" := by
    change (d.texts.set n "" ++ [middle]).getD k "" = ""
    rw [List.getD_eq_getElem?_getD, List.getElem?_append_left (by rw [List.length_set]; omega),
      List.getElem?_set_ne (by omega), ← List.getD_eq_getElem?_getD]
    exact fresh
  have passing : down.textOf d.texts.length = middle := by
    change (d.texts.set n "" ++ [middle]).getD d.texts.length "" = middle
    simp
  have calmly : Quiet down := copy_quiet (s := between) quiet
  obtain ⟨found, read⟩ := @filter_comesTo E down second more out d.texts.length k l₂ calmly
    (hosts_like hosts rfl rfl rfl) (again down calmly) (by rw [passing]; exact also)
    (redirect_channel _ 0 _) ((redirect_other _ (by decide) _).trans leads) own (by omega) still firmly
  have left : ((d.texts.set n "" ++ [middle]).set d.texts.length "").set k out =
      (d.texts.set n "").set k out ++ [""] := by
    rw [List.set_append_right _ _ (by simp), List.set_append_left _ _ (by rw [List.length_set]; omega)]
    simp
  let finally_ : Session := { d with texts := (d.texts.set n "").set k out ++ [""], status := 0 }
  let last_ : Session := { down with
    hashed := found, texts := (d.texts.set n "").set k out ++ [""], status := 0 }
  have ended : resumed between last_ 0 = finally_ := resumed_texts rfl rfl rfl rfl rfl rfl rfl
  have closed : Closes ((Command.located l₂ (.simple [] second [])).runInCopy E) down 0 last_ := by
    refine Or.inl ⟨?_, rfl⟩
    change ComesTo _ down (.ok () { down with hashed := found, texts := _, status := 0 })
    rw [← left]
    exact read
  have ends := @rest_ends E between last_ _ 0 0 d.texts.length quiet closed calmly.untrapped rfl
    (by rw [ended]; exact quiet) (Or.inl rfl)
  rw [ended] at ends
  refine run_pipe quiet (pipe_comesTo (announced_comesTo (s := (d.addText "").1) quiet) closes
    calm.untrapped rfl ?_ ?_ ?_)
  · rw [passed]
    exact quiet
  · rw [passed]
    exact announced_comesTo (s := between) quiet
  · rw [passed]
    exact ends

-- What is printed goes through the program twice.
theorem filtered_comesTo (quiet : Quiet d) (hosts : Hosts d "tr") (leads : d.channel 1 = .text k)
    (own : d.shared ≤ k) (inside : k < d.texts.length) (fresh : d.textOf k = "")
    (prints : Reads E (upstream d) words ("echo" :: printed))
    (reads : ∀ t : Session, Quiet t → Reads E t first ("tr" :: args))
    (again : ∀ t : Session, Quiet t → Reads E t second ("tr" :: more))
    (filters : Filters E args (echoText printed) middle) (also : Filters E more middle out)
    (firm : (echoText printed).toList.any Text.isLoose = false)
    (firmly : middle.toList.any Text.isLoose = false) (still : out.toList.any Text.isLoose = false) :
    ComesTo ((Command.pipe (.located l₁ (.simple [] words []))
        (.pipe (.located l₂ (.simple [] first [])) (.located l₃ (.simple [] second [])))).run E) d
      (.ok () { d with texts := d.texts.set k out ++ ["", ""], status := 0 }) := by
  let up := upstream d
  have calm : Quiet up := copy_quiet (s := (d.addText "").1) quiet
  have output : up.channel 1 = .text d.texts.length := redirect_channel _ 1 _
  have opened : up.channel 1 ≠ .closed := by
    rw [output]
    intro closed
    cases closed
  let after : Session := { up with texts := d.texts ++ [echoText printed], status := 0 }
  let between : Session := { d with texts := d.texts ++ [echoText printed], status := 0 }
  have wrote : ({ up.write (up.channel 1) (echoText printed) with status := 0 } : Session) = after := by
    have new : up.textOf d.texts.length = "" := by
      change (d.texts ++ [""]).getD d.texts.length "" = ""
      simp
    have one : (d.texts ++ [""]).set d.texts.length (echoText printed) = d.texts ++ [echoText printed] := by
      rw [List.set_append_right _ _ (Nat.le_refl _)]
      simp
    rw [output, @write_text up d.texts.length _ (Nat.le_trans own (Nat.le_of_lt inside)) firm, new,
      String.empty_append]
    change ({ up with texts := (d.texts ++ [""]).set _ _, status := 0 } : Session) = _
    rw [one]
  have closes : Closes ((Command.located l₁ (.simple [] words [])).runInCopy E) up 0 after := by
    have echoed := @invoke_builtin E up "echo" _ _ calm (by decide) (by decide) Builtin.echo rfl
      (echo_gives calm opened printed).comesTo
    rw [wrote] at echoed
    exact Or.inl ⟨inCopy_ok calm prints (by decide) echoed calm rfl, rfl⟩
  have passed : downstream d after 0 = between := resumed_texts rfl rfl rfl rfl rfl rfl rfl
  let down : Session := { between.redirect 0 (.text d.texts.length) with shielded := true }
  have given : down.textOf d.texts.length = echoText printed := by
    change (d.texts ++ [echoText printed]).getD d.texts.length "" = _
    simp
  have unwritten : down.textOf k = "" := by
    change (d.texts ++ [echoText printed]).getD k "" = ""
    rw [List.getD_eq_getElem?_getD, List.getElem?_append_left inside, ← List.getD_eq_getElem?_getD]
    exact fresh
  have through := @twice_comesTo E down first second args more middle out k l₂ l₃ d.texts.length quiet
    (hosts_like hosts rfl rfl rfl) (redirect_channel _ 0 _)
    ((redirect_other between (by decide) _).trans leads) own inside
    (by change _ = (d.texts ++ [_]).length; simp) unwritten reads again (by rw [given]; exact filters) also
    firmly still
  have left : (((d.texts ++ [echoText printed]).set d.texts.length "").set k out) ++ [""] =
      d.texts.set k out ++ ["", ""] := by
    rw [List.set_append_right _ _ (Nat.le_refl _), List.set_append_left _ _ inside]
    simp
  let finally_ : Session := { d with texts := d.texts.set k out ++ ["", ""], status := 0 }
  have ends := @rest_more E between _ finally_ _ 0 d.texts.length through
    (by
      change finally_ = { d with texts := (((d.texts ++ [echoText printed]).set d.texts.length "").set k out) ++ [""], status := 0 }
      rw [left])
    quiet (Or.inl rfl)
  refine run_pipe quiet (pipe_comesTo (announced_comesTo (s := (d.addText "").1) quiet) closes
    calm.untrapped rfl ?_ ?_ ?_)
  · rw [passed]
    exact quiet
  · rw [passed]
    exact comesTo_pure
  · rw [passed, Command.runInCopy]
    · exact ends
    all_goals intros; contradiction

end Piped

section Assigned

variable {E deeper : Engine} {s u t : Session} {x value : String} {body : Script}

-- A variable is given what commands print.
theorem output_assigned (quiet : Quiet s)
    (captured : ∀ m, ∃ n : Traces, n.substituted = some 0 ∧
      Run.captured E (E.script (outputBody body)) (leaving s m) = .ok value (leaving u n))
    (calm : Quiet u) (stored : Gives (Assign.store (.whole x) false value) u () t) (quietly : Quiet t)
    (same : t.processes = s.processes) :
    ComesTo ((assign x [.output body]).run E) s (.ok () { t with status := 0 }) := by
  refine assigns_comesTo (t := t) 0 quiet ?_ quietly same (Or.inl rfl)
  intro m _
  obtain ⟨n, status, ran⟩ := captured m
  refine ⟨n, by rw [status]; rfl, ?_⟩
  have expanded : expandWord E false .value true [.output body] (leaving s m) =
      .ok [.loose value.toList] (leaving u n) := by
    have part : Part.expand E false (.output body) (leaving s m) = .ok [.loose value.toList] (leaving u n) := by
      rw [Part.expand]
      exact (bind_ok ran).trans pure_ok
    rw [expandWord]
    · rw [bind_ok part, expandWord]
      rfl
    · rintro _ ⟨⟩
  have read : Word.valueText E [.output body] (leaving s m) = .ok value (leaving u n) := by
    unfold Word.valueText
    rw [bind_ok expanded, pure_ok]
    simp [fragmentText, joinedText]
  have applied : Assign.apply E (.value x [] false [.output body]) (leaving s m) = .ok () (leaving t n) := by
    unfold Assign.apply
    exact (bind_ok read).trans ((bind_ok (calm.trace E _ n)).trans (stored n))
  exact bind_ok applied

end Assigned

section Within

variable {E deeper : Engine} {c : Session} {marks : String → Bool} {held : Held} {k : Content}
  {words first second : List Word} {printed args more : List String} {middle out x : String} {status l₁ l₂ l₃ : Nat}

-- A variable of a function is given what is printed and goes through the program twice.
theorem filtered_assigned (runs : E.script = runScript deeper) (quiet : Quiet c) (hosts : Hosts c "tr")
    (paths : held.lookup "PATH" = none) (room : c.shared ≤ c.texts.length) (own : isOwn x = true)
    (there : held.lookup x = some k) (flat : k.isArray = false)
    (prints : ∀ t : Session, Quiet t → t.args = c.args → Reads deeper t words ("echo" :: printed))
    (reads : ∀ t : Session, Quiet t → Reads deeper t first ("tr" :: args))
    (again : ∀ t : Session, Quiet t → Reads deeper t second ("tr" :: more))
    (filters : Filters deeper args (echoText printed) middle) (also : Filters deeper more middle out)
    (firm : (echoText printed).toList.any Text.isLoose = false) (firmly : middle.toList.any Text.isLoose = false)
    (still : out.toList.any Text.isLoose = false) (sound : '\x00' ∉ out.toList) (whole : '\n' ∉ out.toList) :
    ComesTo ((assign x [.output [.pipe (.located l₁ (.simple [] words []))
        (.pipe (.located l₂ (.simple [] first [])) (.located l₃ (.simple [] second [])))]]).run E)
      (within c marks held status)
      (.ok () (within { c with texts := c.texts ++ [out, "", ""] } marks (kept held x (.text out)) 0)) := by
  let s := within c marks held status
  let body : Script := [.pipe (.located l₁ (.simple [] words []))
    (.pipe (.located l₂ (.simple [] first [])) (.located l₃ (.simple [] second [])))]
  let ended : Nat → Session := fun line =>
    { drawing s line with texts := (s.texts ++ [""]).set s.texts.length out ++ ["", ""], status := 0 }
  let u : Session := within { c with texts := c.texts ++ [out, "", ""] } marks held 0
  have calm : Quiet s := quiet
  have texts : (s.texts ++ [""]).set s.texts.length out ++ ["", ""] = s.texts ++ [out, "", ""] := by
    rw [List.set_append_right _ _ (Nat.le_refl _)]
    simp
  have closes : ∀ line, Closes (E.script (outputBody body)) (drawing s line) 0 (ended line) := by
    intro line
    have still_ : Quiet (drawing s line) := drawing_quiet calm line
    have paths : (drawing s line).value? "PATH" = c.value? "PATH" := by
      change ((within c marks held status).find? "PATH").bind _ = _
      rw [within_absent paths]
      rfl
    have fresh : (drawing s line).textOf s.texts.length = "" := by
      change (s.texts ++ [""]).getD s.texts.length "" = ""
      simp
    refine Or.inl ⟨?_, rfl⟩
    rw [runs]
    exact script_one still_ (filtered_comesTo still_ (hosts_like hosts rfl rfl paths)
      (redirect_channel _ 1 _) room (by change _ < (s.texts ++ [""]).length; simp) fresh
      (prints _ (copy_quiet (s := ((drawing s line).addText "").1) still_) rfl) reads again filters also firm firmly still)
  have same : ∀ line, resumed (s.addText "").1 (ended line) 0 = u := by
    intro line
    have back := @resumed_texts (s.addText "").1 (ended line) 0 rfl rfl rfl rfl rfl rfl rfl
    rw [back]
    change ({ s with texts := (s.texts ++ [""]).set s.texts.length out ++ ["", ""], status := 0 } : Session) = u
    rw [texts]
    rfl
  have given_ : u.textOf s.texts.length = out := by
    change (s.texts ++ [out, "", ""]).getD s.texts.length "" = out
    simp
  have solid : out.toList.reverse.dropWhile (· == '\n') = out.toList.reverse := by
    cases shape : out.toList.reverse with
    | nil => rfl
    | cons d ds =>
      have inside : d ∈ out.toList := List.mem_reverse.mp (shape ▸ List.mem_cons_self ..)
      rw [List.dropWhile_cons_of_neg]
      rw [beq_iff_eq]
      rintro rfl
      exact whole inside
  have captured : ∀ m, ∃ n : Traces, n.substituted = some 0 ∧ Run.captured E (E.script (outputBody body)) (leaving s m) =
      .ok out (leaving u n) := by
    intro m
    obtain ⟨n, status, ran⟩ := captured_comesTo calm closes (fun line => (drawing_quiet calm line).untrapped) (fun _ => rfl) same quiet
      (by rw [given_]; exact sound) m
    rw [given_, solid, List.reverse_reverse, String.ofList_toList] at ran
    exact ⟨n, status, ran⟩
  exact output_assigned calm captured quiet (within_store own there flat) quiet rfl

end Within

end Toolwrap.Running
