import Toolwrap.Proofs.Running.Filters
import Toolwrap.Proofs.Running.Firm
import Toolwrap.Proofs.Running.Reporting

-- What is printed into a text of its own, and what it stands for: the value of a variable, or
-- a part of a word between quotes.

namespace Toolwrap.Running

open Shell

-- What a variable can hold: a text that is what its bytes write, without the byte that ends texts.
structure Sound (text : String) : Prop where
  firm : Firm text.toList
  solid : '\x00' ∉ text.toList

-- A session that writes into an empty text, with others in front of it and behind it.
structure Draws (s : Session) (front behind : List String) : Prop where
  leads : s.channel 1 = .text front.length
  texts : s.texts = front ++ "" :: behind
  own : s.shared ≤ front.length

-- Work that fills the texts, and leaves nothing else behind than what a copy keeps to itself.
def Prints (work : Run Unit) (s : Session) (texts : List String) : Prop :=
  ∃ scopes hashed givesWay,
    ComesTo work s (.ok () { s with scopes, hashed, givesWay, texts, status := 0 })

section Printing

variable {E : Engine} {s : Session} {front behind : List String} {words : List Word} {value : String}

theorem draws_line (quiet : Quiet s) (room : s.shared ≤ s.texts.length) (line : Nat) :
    Quiet (drawing s line) ∧ Draws (drawing s line) s.texts [] :=
  ⟨drawing_quiet quiet line, by unfold drawing; exact redirect_channel _ 1 _, by unfold drawing; rfl, room⟩

theorem echoText_plain (plain : value.toList.head? ≠ some '-') : echoText [value] = value ++ "\n" := by
  have none_ : Builtin.echoOptions true false [value] = (true, false, [value]) := by
    rw [Builtin.echoOptions]
    split
    · rename_i shape
      rw [shape] at plain
      exact absurd rfl plain
    · rfl
  unfold echoText
  rw [none_]
  rfl

theorem line_firm (firm : Firm value.toList) : Firm (value ++ "\n").toList := by
  rw [String.toList_append]
  exact firm_join firm rfl (firm_ascii nofun)

theorem drawn_write {out : String} (draws : Draws s front behind) (firm : Firm out.toList) :
    s.write (s.channel 1) out = { s with texts := front ++ out :: behind } := by
  have empty : s.textOf front.length = "" := by
    unfold Session.textOf
    rw [draws.texts]
    simp
  rw [draws.leads]
  unfold Session.write Session.writeAt
  simp only [if_neg (Nat.not_lt.mpr draws.own), empty, joinTexts_firm firm]
  unfold Session.setTextOf
  rw [draws.texts, List.set_append_right _ _ (Nat.le_refl _), Nat.sub_self, List.set_cons_zero]

theorem echo_comesTo (quiet : Quiet s) (draws : Draws s front behind) (plain : value.toList.head? ≠ some '-')
    (firm : Firm value.toList) :
    ComesTo (invoke E { fields := ["echo", value] }) s
      (.ok () { s with texts := front ++ (value ++ "\n") :: behind, status := 0 }) := by
  have opened : s.channel 1 ≠ .closed := by
    rw [draws.leads]
    nofun
  have echoed := (echo_gives (E := E) quiet opened [value]).comesTo
  rw [echoText_plain plain, drawn_write draws (line_firm firm)] at echoed
  exact invoke_builtin quiet (by decide) (by decide) rfl echoed

-- A command that prints a text, whose words may have left another session.
theorem said_comesTo {t : Session} (quiet : Quiet s) (between : Quiet t)
    (fields : ComesTo (commandFields E words) s (.ok { fields := ["echo", value] } t)) (same : t.processes = s.processes)
    (draws : Draws t front behind) (plain : value.toList.head? ≠ some '-') (firm : Firm value.toList) :
    ComesTo ((run words).run E) s (.ok () { t with texts := front ++ (value ++ "\n") :: behind, status := 0 }) :=
  simple_comesTo quiet between fields (List.cons_ne_nil _ _) (not_exec (by decide))
    (echo_comesTo between draws plain firm) between same (Or.inl rfl)

end Printing

-- A function that prints, whatever the line from which it is called.
section Called

variable {E deeper : Engine} {d : Session} {name : String} {f : Function} {args texts : List String} {lines : Script} {n : Nat}
  {own : Scope} {scopes : List Scope}

theorem called_prints (runs : E.script = runScript deeper) (quiet : Quiet d) (found : d.functions.lookup name = some f)
    (body : f.body = .located n (.group lines))
    (ran : ∀ line, ComesTo (runScript deeper lines) (within (opened d name f args line) (marksOf d) [] d.status)
      (.ok () { opened d name f args line with scopes := own :: scopes, texts, status := 0 })) :
    Prints (invoke E { fields := name :: args }) d texts := by
  have calm : ∀ line, Quiet (calling d name f args line) := fun _ => quiet
  refine ⟨scopes, d.hashed, false, invoke_function quiet found ?_⟩
  refine call_ok (t := fun line => { opened d name f args line with scopes := own :: scopes, texts, status := 0 }) quiet
    (fun _ => quiet) (fun _ => rfl) fun line => ?_
  rw [runs, body]
  exact script_one (calm line) (located_comesTo n (group_comesTo (ran line)))

end Called

-- The output of commands, of which the line feed at the end is no part.
section Captured

-- What a copy that draws leaves to the session around it.
theorem resumed_drawing {s : Session} {line : Nat} {scopes : List Scope} {hashed : List (String × String × Nat)} {givesWay : Bool}
    {texts : List String} :
    resumed (s.addText "").1 { drawing s line with scopes, hashed, givesWay, texts, status := 0 } 0 =
      { s with texts, status := 0 } := by
  unfold drawing resumed Session.keeping
  rfl

variable {E : Engine} {s : Session} {body : Script} {value : String} {more : List String} (quiet : Quiet s)
  (prints : ∀ line, Prints (E.script (outputBody body)) (drawing s line) (s.texts ++ (value ++ "\n") :: more))
  (solid : '\x00' ∉ value.toList) (whole : '\n' ∉ value.toList)

include quiet prints solid whole

theorem captured_prints (m : Traces) : ∃ n : Traces, n.substituted = some 0 ∧
    Run.captured E (E.script (outputBody body)) (leaving s m) =
      .ok value (leaving { s with texts := s.texts ++ (value ++ "\n") :: more, status := 0 } n) := by
  choose scopes hashed givesWay ran using prints
  let u : Session := { s with texts := s.texts ++ (value ++ "\n") :: more, status := 0 }
  have same : ∀ line, resumed (s.addText "").1 { drawing s line with
      scopes := scopes line, hashed := hashed line, givesWay := givesWay line
      texts := s.texts ++ (value ++ "\n") :: more, status := 0 } 0 = u :=
    fun _ => resumed_drawing
  have printed : u.textOf s.texts.length = value ++ "\n" := by
    change (s.texts ++ (value ++ "\n") :: more).getD s.texts.length "" = _
    simp
  have sound : '\x00' ∉ (value ++ "\n").toList := by
    rw [String.toList_append]
    intro member
    rcases List.mem_append.mp member with inside | last
    · exact solid inside
    · cases List.mem_singleton.mp last
  have trimmed : (value ++ "\n").toList.reverse.dropWhile (· == '\n') = value.toList.reverse := by
    have fed : (value ++ "\n").toList.reverse = '\n' :: value.toList.reverse := by simp
    rw [fed, List.dropWhile_cons_of_pos (by decide)]
    cases shape : value.toList.reverse with
    | nil => rfl
    | cons c cs =>
      have inside : c ∈ value.toList := List.mem_reverse.mp (shape ▸ List.mem_cons_self ..)
      refine List.dropWhile_cons_of_neg ?_
      rw [beq_iff_eq]
      rintro rfl
      exact whole inside
  obtain ⟨n, status, captured⟩ := captured_comesTo quiet (fun line => Or.inl ⟨ran line, rfl⟩)
    (fun line => (drawing_quiet quiet line).untrapped) (fun _ => rfl) same quiet (by rw [printed]; exact sound) m
  rw [printed, trimmed, List.reverse_reverse, String.ofList_toList] at captured
  exact ⟨n, status, captured⟩

theorem output_expands (quoted : Bool) : ComesTo (Part.expand E quoted (.output body)) s
    (.ok [.ofValue quoted value] { s with texts := s.texts ++ (value ++ "\n") :: more, status := 0 }) := by
  intro m
  obtain ⟨n, -, captured⟩ := captured_prints quiet prints solid whole m
  refine ⟨n, ?_⟩
  rw [Part.expand]
  exact (bind_ok captured).trans rfl

end Captured

-- A text that is printed into a pipe, and what reads it in a copy of the session.
section Piped

variable {E : Engine} {s : Session} {words : List Word} {value : String} {body : Script} {texts : List String} {l k : Nat}

def fedBy (s : Session) (text : String) : Session :=
  (Run.copyOf { s with texts := s.texts ++ [text], status := 0 }).redirect 0 (.text s.texts.length)

theorem fedBy_quiet {text : String} (quiet : Quiet s) : Quiet (fedBy s text) := by
  have fed : Quiet { s with texts := s.texts ++ [text], status := 0 } := quiet
  exact copy_quiet fed

theorem upstream_draws (room : s.shared ≤ s.texts.length) : Draws (upstream s) s.texts [] :=
  ⟨by unfold upstream; exact redirect_channel _ 1 _, by unfold upstream; rfl, room⟩

theorem piped_comesTo (quiet : Quiet s) (room : s.shared ≤ s.texts.length) (plain : value.toList.head? ≠ some '-')
    (firm : Firm value.toList) (reads : Reads E (upstream s) words ["echo", value])
    (prints : Prints (runScript E body) (fedBy s (value ++ "\n")) texts) :
    ComesTo ((Command.pipe (.located l (run words)) (.located k (.subshell body))).run E) s
      (.ok () { s with texts, status := 0 }) := by
  have up : Quiet (upstream s) := copy_quiet (s := (s.addText "").1) quiet
  let t : Session := { upstream s with texts := s.texts ++ [value ++ "\n"], status := 0 }
  let between : Session := { s with texts := s.texts ++ [value ++ "\n"], status := 0 }
  have first : ComesTo ((Command.located l (run words)).runInCopy E) (upstream s) (.ok () t) :=
    inCopy_ok up reads (by decide) (echo_comesTo up (upstream_draws room) plain firm) up rfl
  have passed : downstream s t 0 = between := by
    unfold t upstream downstream resumed Session.keeping
    rfl
  have calm : Quiet between := quiet
  obtain ⟨scopes, hashed, givesWay, ran⟩ := prints
  have second : ComesTo ((Command.located k (.subshell body)).runInCopy E) (fedBy s (value ++ "\n"))
      (.ok () { fedBy s (value ++ "\n") with scopes, hashed, givesWay, texts, status := 0 }) := by
    intro m
    obtain ⟨n, went⟩ := ran { m with line := (leaving (fedBy s (value ++ "\n")) m).lineBase + k }
    refine ⟨n, ?_⟩
    rw [Command.runInCopy, Command.runInCopy]
    exact (bind_ok (modify_ok _)).trans went
  have left : resumed between { fedBy s (value ++ "\n") with scopes, hashed, givesWay, texts, status := 0 } 0 =
      { s with texts, status := 0 } := by
    unfold between fedBy resumed Session.keeping
    rfl
  refine run_pipe quiet (pipe_comesTo (announced_comesTo (s := (s.addText "").1) quiet) (Or.inl ⟨first, rfl⟩)
    up.untrapped rfl ?_ ?_ ?_)
  · rw [passed]
    exact calm
  · intro m
    refine ⟨m, ?_⟩
    rw [Command.announced, Command.announced]
    · rfl
    all_goals (intros; contradiction)
  · rw [passed]
    have ends := @rest_ends E _ _ _ 0 _ s.texts.length calm (Or.inl ⟨second, rfl⟩)
      (fedBy_quiet quiet).untrapped rfl (by rw [left]; exact quiet) (by rw [left]; exact Or.inl rfl)
    rw [left] at ends
    exact ends

end Piped

-- Parts between quotes that run commands.
section Spelling

variable {E : Engine} {s t u : Session} {parts more : List Part} {text behind : String}

def SpellsTo (E : Engine) (s : Session) (parts : List Part) (text : String) (t : Session) : Prop :=
  ∃ pieces : List (List Char), ComesTo (expandParts E true parts) s (.ok (pieces.map .kept) t) ∧
    (pieces = [] ↔ parts = []) ∧ pieces.flatten = text.toList

theorem Spells.to (spelled : Spells E s parts text) : SpellsTo E s parts text s := by
  obtain ⟨pieces, ran, filled, joined⟩ := spelled
  exact ⟨pieces, ran.comesTo, filled, joined⟩

theorem spellsTo_append (first : SpellsTo E s parts text t) (second : SpellsTo E t more behind u) :
    SpellsTo E s (parts ++ more) (text ++ behind) u := by
  obtain ⟨pieces, ran, filled, joined⟩ := first
  obtain ⟨others, went, fill, join⟩ := second
  refine ⟨pieces ++ others, ?_, ?_, ?_⟩
  · rw [expandParts_append, List.map_append]
    exact ran.bind (went.bind comesTo_pure)
  · rw [List.append_eq_nil_iff, List.append_eq_nil_iff, filled, fill]
  · rw [List.flatten_append, joined, join, String.toList_append]

theorem spellsTo_output {body : Script} (ran : ComesTo (Part.expand E true (.output body)) s (.ok [.ofValue true text] t)) :
    SpellsTo E s [.output body] text t := by
  refine ⟨[text.toList], ?_, by simp, by simp⟩
  rw [expandParts]
  refine ran.bind ?_
  rw [expandParts]
  exact comesTo_pure

theorem spellsTo_fields (spelled : SpellsTo E s parts text t) :
    ComesTo (Word.fields E [.double parts]) s (.ok [text] t) := by
  obtain ⟨pieces, ran, filled, joined⟩ := spelled
  intro m
  obtain ⟨n, went⟩ := ran m
  refine ⟨n, kept_fields double_unfolded (piecesBetween_filled filled.mp) (double_expand .word went) ?_⟩
  rw [piecesBetween_flatten filled.mpr, joined]

-- A word in front of others, whose command leaves another session to them.
theorem fields_cons {w : Word} {words : List Word} {fields : List String} (first : List String)
    (other : ∀ a, w ≠ [.assign a]) (one : ComesTo (Word.fields E w) s (.ok first t))
    (rest : ComesTo (commandFields E words) t (.ok { fields := fields } u)) :
    ComesTo (commandFields E (w :: words)) s (.ok { fields := first ++ fields } u) := by
  rw [commandFields]
  · exact one.bind (comesTo_pure.bind (rest.bind comesTo_pure))
  · exact other

-- A command and what it is given, which is taken from others before.
theorem named_reads {name : String} (tame : name.toList.all isTame = true) (filled : name ≠ "")
    (spelled : SpellsTo E s parts text t) :
    ComesTo (commandFields E [bare name, [.double parts]]) s (.ok { fields := [name, text] } t) := by
  have named : Yields (Word.fields E (bare name)) s [name] := fun m =>
    bare_fields (List.all_eq_true.mp tame) (mt String.toList_eq_nil_iff.mp filled) E (leaving s m)
  exact fields_cons [name] nofun named.comesTo
    (fields_cons [text] nofun (spellsTo_fields spelled) (reads_nil (E := E)).comesTo)

end Spelling

end Toolwrap.Running
