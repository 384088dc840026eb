import Toolwrap.Proofs.Running.Invoking
import Toolwrap.Proofs.Running.Quoted

-- What is written: printing keeps a session quiet, and a descriptor may lead where
-- another one does for the time of a command.

namespace Toolwrap.Running

open Shell

section Writing

variable {s : Session} {c : Channel} {out : String}

theorem set_distinct {t : FileTree} (place : Place) (e : Entry)
    (distinct : (t.entries.map (·.1)).Nodup) : ((t.set place e).entries.map (·.1)).Nodup := by
  unfold FileTree.set
  rw [List.map_cons, List.nodup_cons]
  constructor
  · intro member
    obtain ⟨f, kept, same⟩ := List.mem_map.mp member
    have other := (List.mem_filter.mp kept).2
    rw [bne_iff_ne] at other
    exact other same
  · exact (List.filter_sublist.map _).nodup distinct

-- What is written to can only be a kept text or a file.
theorem write_keeps (s : Session) (c : Channel) (out : String) :
    ∃ tree texts written, s.write c out = { s with tree, texts, written } ∧
      ((s.tree.entries.map (·.1)).Nodup → (tree.entries.map (·.1)).Nodup) := by
  unfold Session.write Session.writeAt
  cases c with
  | text n =>
    dsimp only
    split
    · exact ⟨s.tree, s.texts, _, rfl, id⟩
    · exact ⟨s.tree, _, s.written, rfl, id⟩
  | file place =>
    dsimp only
    split
    · exact ⟨_, s.texts, s.written, rfl, set_distinct _ _⟩
    · exact ⟨s.tree, s.texts, s.written, rfl, id⟩
  | null => exact ⟨s.tree, s.texts, s.written, rfl, id⟩
  | closed => exact ⟨s.tree, s.texts, s.written, rfl, id⟩

theorem write_quiet (quiet : Quiet s) : Quiet (s.write c out) := by
  obtain ⟨tree, texts, written, same, distinct⟩ := write_keeps s c out
  rw [same]
  exact { quiet with distinct := distinct quiet.distinct }

-- What a write does depends on nothing but what can be written to.
theorem write_like {s t : Session} (tree : t.tree = s.tree) (texts : t.texts = s.texts)
    (shared : t.shared = s.shared) (written : t.written = s.written) (clock : t.clock = s.clock)
    (c : Channel) (out : String) :
    t.write c out = { t with
      tree := (s.write c out).tree, texts := (s.write c out).texts
      written := (s.write c out).written } := by
  unfold Session.write Session.writeAt
  cases c with
  | text n =>
    simp only [shared, clock, written]
    unfold Session.setTextOf Session.textOf
    simp only [texts]
    split <;> simp [← tree, ← texts, ← written, clock, shared]
  | file place =>
    simp only [tree]
    split <;> simp [← tree, ← texts, ← written]
  | null => simp [← tree, ← texts, ← written]
  | closed => simp [← tree, ← texts, ← written]

theorem write_leaving (s : Session) (m : Traces) (c : Channel) (out : String) :
    (leaving s m).write c out = leaving (s.write c out) m := by
  obtain ⟨tree, texts, written, same, _⟩ := write_keeps s c out
  rw [@write_like s (leaving s m) rfl rfl rfl rfl rfl, same]
  rfl

end Writing

section Printing

variable {E : Engine} {s : Session}

theorem printOut_gives (name text : String) (code : Nat) (opened : s.channel 1 ≠ .closed) :
    Gives (Builtin.printOut name text code) s ()
      { s.write (s.channel 1) text with status := code % 256 } := by
  intro m
  have there : (leaving s m).channel 1 = s.channel 1 := rfl
  unfold Builtin.printOut
  rw [bind_ok get_ok, there]
  cases shape : s.channel 1 with
  | closed => exact absurd shape opened
  | _ =>
    dsimp only
    rw [bind_ok (modify_ok _), write_leaving]
    rfl

-- What is printed of words, with the options in front of them.
def echoText (words : List String) : String :=
  let (lineFeed, escapes, words) := Builtin.echoOptions true false words
  let line := " ".intercalate words
  let (line, ended) := if escapes then Escape.inEcho.text line else (line, false)
  if lineFeed && !ended then line ++ "\n" else line

theorem echo_gives (quiet : Quiet s) (opened : s.channel 1 ≠ .closed) (words : List String) :
    Gives (Builtin.echo E words) s ()
      { s.write (s.channel 1) (echoText words) with status := 0 } := by
  intro m
  have full : (leaving s m).isPlain = false := quiet.not_plain
  have literally : (leaving s m).has .xpgEcho = false := quiet.off (by decide)
  unfold Builtin.echo
  rw [bind_ok get_ok, full, literally]
  exact printOut_gives "echo" (echoText words) 0 opened m

end Printing

section Redirecting

variable {E : Engine} {s t u : Session} {redirects : List Redirect} {work : Run Unit}

theorem redirect_channel (s : Session) (fd : Nat) (c : Channel) :
    (s.redirect fd c).channel fd = c := by
  simp [Session.channel, Session.redirect]

theorem redirect_other (s : Session) {fd other : Nat} (apart : other ≠ fd) (c : Channel) :
    (s.redirect fd c).channel other = s.channel other := by
  unfold Session.channel Session.redirect
  rw [List.lookup_cons, beq_eq_false_iff_ne.mpr apart, lookup_without, if_neg apart]

theorem foldl_redirect (lead : Nat → Channel) (fds : List Nat) (s : Session) :
    fds.foldl (fun s fd => s.redirect fd (lead fd)) s =
      { s with descriptors := (fds.foldl (fun s fd => s.redirect fd (lead fd)) s).descriptors } := by
  induction fds generalizing s with
  | nil => rfl
  | cons fd fds more =>
    rw [List.foldl_cons, more]
    rfl

theorem foldl_descriptors {lead : Nat → Channel} {fds : List Nat} (same : s.descriptors = t.descriptors) :
    (fds.foldl (fun s fd => s.redirect fd (lead fd)) s).descriptors =
      (fds.foldl (fun s fd => s.redirect fd (lead fd)) t).descriptors := by
  induction fds generalizing s t with
  | nil => exact same
  | cons fd fds more =>
    rw [List.foldl_cons, List.foldl_cons]
    refine more ?_
    unfold Session.redirect
    rw [same]

-- What is restored behind redirections are the descriptors alone.
def restored (s t u : Session) : Session :=
  { u with descriptors := (s.restoredFrom t u).descriptors }

theorem restoredFrom_eq (s t u : Session) : s.restoredFrom t u = restored s t u := by
  unfold restored Session.restoredFrom
  dsimp only
  rw [foldl_redirect]

theorem restored_like {s' t' u' : Session} (before : s'.descriptors = s.descriptors)
    (led : t'.descriptors = t.descriptors) (named : t'.named = t.named)
    (after : u'.descriptors = u.descriptors) :
    restored s' t' u' = { u' with descriptors := (restored s t u).descriptors } := by
  unfold restored Session.restoredFrom Session.channel
  simp only [before, led, named, foldl_descriptors after]

theorem restored_leaving (m n k : Traces) :
    restored (leaving s m) (leaving t k) (leaving u n) = leaving (restored s t u) n :=
  restored_like rfl rfl rfl rfl

theorem redirecting_ok (some_ : redirects ≠ [])
    (applied : Gives (applyRedirects E redirects) s true t)
    (ran : ComesTo work { t with named := s.named } (.ok () u)) :
    ComesTo (redirecting E redirects work) s (.ok () (restored s t u)) := by
  intro m
  obtain ⟨n, done⟩ := ran m
  refine ⟨n, ?_⟩
  have listed : redirects.isEmpty = false := List.isEmpty_eq_false_iff.mpr some_
  unfold redirecting
  rw [listed]
  simp only [Bool.false_eq_true, if_false]
  rw [bind_ok get_ok, bind_ok (tryCatch_ok (applied m)), bind_ok get_ok, bind_ok (modify_ok _)]
  refine finally_ok done ?_
  rw [modify_ok, restoredFrom_eq, restored_leaving]

-- One descriptor leads where another one does.
theorem duplicate_gives {fd : Nat} {target shown : String} {n : Nat} (orFile : Bool)
    (stays : target.endsWith "-" = false) (digits : target.toList.all Char.isDigit = true)
    (named : target.toNat? = some n) (opened : s.channel n ≠ .closed) :
    Gives (Redirect.duplicate fd target shown orFile) s true (s.redirect fd (s.channel n)) := by
  intro m
  have there : (leaving s m).channel n = s.channel n := rfl
  have other : (target == "-") = false := by
    rw [beq_eq_false_iff_ne]
    rintro rfl
    exact absurd digits (by decide)
  unfold Redirect.duplicate
  simp only [stays, Bool.false_eq_true, if_false, other, digits, if_true, named, Bool.false_and]
  rw [bind_ok get_ok, there]
  cases shape : s.channel n with
  | closed => exact absurd shape opened
  | _ => rfl

theorem toError_gives (opened : s.channel 2 ≠ .closed) :
    Gives (applyRedirects E [.mk 1 .duplicate [.text "2"]]) s true (s.redirect 1 (s.channel 2)) := by
  have fields : Yields (Word.fields E [.text "2"]) s ["2"] := fun m =>
    @bare_fields "2" (List.all_iff_forall_prop.mp (by decide)) (by decide) E (leaving s m)
  have applied : Gives (Redirect.apply E (.mk 1 .duplicate [.text "2"])) s true
      (s.redirect 1 (s.channel 2)) := by
    intro m
    change Redirect.path E [.text "2"] _ _ = _
    unfold Redirect.path
    rw [bind_ok (fields m)]
    exact duplicate_gives true (by decide +kernel) (by decide) (@toNat?_digit '2' rfl) opened m
  intro m
  unfold applyRedirects
  rw [bind_ok (applied m)]
  rfl

end Redirecting

end Toolwrap.Running
