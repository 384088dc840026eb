import Mathlib.Data.List.Nodup
import Toolwrap.Proofs.Running.Bindings
import Toolwrap.Proofs.Running.Comparing
import Toolwrap.Proofs.Running.Groups
import Toolwrap.Proofs.Running.Lists
import Toolwrap.Proofs.Running.Rounds

-- Arrays whose values are counted, joined, put behind the others and taken away from there, and a
-- value that is sought among others.

namespace Toolwrap.Running

open Shell

-- Texts are joined in the same way when the first two of them already are.
theorem joined_behind (separator first text : String) (texts : List String) :
    separator.intercalate ((first ++ separator ++ text) :: texts) = separator.intercalate (first :: text :: texts) := by
  cases texts <;> simp [String.append_assoc]

section Every

variable {E : Engine} {s : Session} {x : String} {values : List String} (quiet : Quiet s) (own : isOwn x = true)
  (plain : Ordinarily s x) (lists : Lists s x values)

theorem numbered_values (values : List String) : (numberedItems values).entries.map (·.2) = values := by
  unfold numberedItems Content.entries
  rw [List.map_map]
  exact List.map_snd_zip (by rw [List.length_range])

include own plain lists

theorem subject_every (joined : Bool) (label : String) (m : Traces) :
    (leaving s m).subject ⟨x, .every joined, label⟩ = .many values joined := by
  obtain ⟨v, found, content⟩ := lists
  have held : (leaving s m).contentOf x = numberedItems values := by
    have there : (leaving s m).find? x = some v := found
    rw [contentOf_own own (s := leaving s m) plain, there]
    exact content
  unfold Session.subject
  split
  · rename_i named
    exact absurd named (own_ne own (by decide))
  · rename_i named
    exact absurd named (own_ne own (by decide))
  · rw [held, numbered_values]

include quiet

theorem items_fields : Yields (Word.fields E (quotedItems x)) s values := by
  refine listed_fields fun m => ?_
  have expanded : Op.expand E true ⟨x, .every false, x ++ inlineIndex [.text "@"]⟩ .braced (leaving s m) =
      .ok ((values.map (Fragment.ofValue true)).intersperse (.cut [' '])) (leaving s m) := by
    rw [braced_expand, bind_ok get_ok, subject_every own plain lists, bind_ok (needSet_yields quiet _ _ m)]
    rfl
  rw [Part.expand]
  exact expanded

-- All values as one text, between quotes.
theorem joined_spells : Spells E s [.param x [.text "*"] .braced] (s.joint.intercalate values) := by
  refine spells_part fun m => ?_
  have expanded : Op.expand E true ⟨x, .every true, x ++ inlineIndex [.text "*"]⟩ .braced (leaving s m) =
      .ok [.kept (s.joint.intercalate values).toList] (leaving s m) := by
    rw [braced_expand, bind_ok get_ok, subject_every own plain lists, bind_ok (needSet_yields quiet _ _ m)]
    rfl
  rw [Part.expand]
  exact expanded

theorem count_values : Running.Values E s (.param x [.text "@"] .length) (toString values.length) := by
  intro quoted m
  have expanded : Op.expand E quoted ⟨x, .every false, x ++ inlineIndex [.text "@"]⟩ .length (leaving s m) =
      .ok [.ofValue quoted (toString values.length)] (leaving s m) := by
    rw [Op.expand, bind_ok get_ok, subject_every own plain lists, bind_ok (needSet_yields quiet _ _ m)]
    rfl
  rw [Part.expand]
  exact expanded

end Every

section Placing

variable {E : Engine} {s : Session} {x y value : String} {values : List String} {word : Word} (quiet : Quiet s)
  (own : isOwn x = true) (plain : Ordinarily s x) (lists : Lists s x values) (small : values.length < 2 ^ 63)

include quiet own plain lists small

-- `x[$y]=…`, where the index is the number of the values.
theorem placed_comesTo (stands : Stands s y (some (toString values.length))) (read : Yields (Word.valueText E word) s value) :
    ComesTo ((Command.simple [.value x [ref y] false word] [] []).run E) s
      (.ok () { listing s x (values ++ [value]) with status := 0 }) := by
  obtain ⟨v, found, content⟩ := lists
  obtain ⟨pieces, ran, -, joined⟩ : Spells E s [ref y] (toString values.length) :=
    @plain_spells E s y (some (toString values.length)) quiet stands
  have spot : Yields (Assign.spotOf E x [ref y]) s (.item x values.length) := by
    intro m
    have key : fragmentText (pieces.map .kept) = toString values.length := fragmentText_kept joined
    have held : (leaving s m).contentOf x = numberedItems values := by
      have there : (leaving s m).find? x = some v := found
      rw [contentOf_own own (s := leaving s m) plain, there]
      exact content
    have filled : (toString values.length).isEmpty = false := by
      rw [Bool.eq_false_iff, ne_eq, String.isEmpty_iff]
      exact toString_filled _
    have natural : ¬ (values.length : Int) < 0 := by omega
    unfold Assign.spotOf
    rw [bind_ok (ran m)]
    simp only [key]
    rw [bind_ok get_ok, held]
    simp only [numberedItems, filled, Bool.false_eq_true, if_false]
    rw [bind_ok (calculate_numeral quiet "" small m)]
    simp only [Session.indexIn?, natural, if_false, Int.toNat_natCast]
    rfl
  refine alone_comesTo quiet ?_ quiet rfl
  intro m
  rw [Assign.apply, bind_ok (read m), bind_ok (quiet.trace E _ m), bind_ok (spot m)]
  · exact item_stored own plain ⟨v, found, content⟩ value m
  · exact List.cons_ne_nil _ _

end Placing

-- The last value of an array is taken away by its index.
section Dropping

variable {E : Engine} {s : Session} {x last : String} {front : List String} {parts : List Part}

def itemWord (x : String) (n : Nat) : String := x ++ ("[" ++ (toString n ++ "]"))

theorem itemWord_chars (x : String) (n : Nat) :
    (itemWord x n).toList = x.toList ++ '[' :: ((toString n).toList ++ [']']) := by
  unfold itemWord
  simp

theorem itemWord_element (own : isOwn x = true) (n : Nat) : Builtin.element? (itemWord x n) = some (x, toString n) := by
  have free : ∀ c ∈ x.toList, (c != '[') = true := fun c member => bne_iff_ne.mpr (own_chars own c member).2.2
  have name : (x.toList ++ '[' :: ((toString n).toList ++ [']'])).takeWhile (· != '[') = x.toList := by
    rw [List.takeWhile_append_of_pos free, List.takeWhile_cons_of_neg (by decide), List.append_nil]
  have closed : ((toString n).toList ++ [']']).getLast? = some ']' := List.getLast?_concat
  unfold Builtin.element?
  simp only [itemWord_chars, name, List.drop_left, closed, String.ofList_toList, own_isName own, beq_self_eq_true,
    Bool.and_self, if_true, List.dropLast_concat]

theorem numbered_drop (front : List String) (last : String) :
    ((List.range (front ++ [last]).length).zip (front ++ [last])).filter (fun e => e.1 != front.length) =
      (List.range front.length).zip front := by
  rw [List.length_append, List.length_singleton, List.range_succ, List.zip_append (by rw [List.length_range]),
    List.filter_append]
  have kept : ((List.range front.length).zip front).filter (fun e => e.1 != front.length) =
      (List.range front.length).zip front := by
    rw [List.filter_eq_self]
    intro e member
    have less := List.mem_range.mp (List.of_mem_zip member).1
    rw [bne_iff_ne]
    exact Nat.ne_of_lt less
  rw [kept]
  simp

theorem forIn_word {word : String} {n k : Nat} {step : String → Nat → Run (ForInStep Nat)} {t : Session}
    (one : step word n s = .ok (.yield k) t) : forIn [word] n step s = .ok k t := by
  rw [List.forIn_cons, bind_ok one]
  rfl

variable (quiet : Quiet s) (own : isOwn x = true) (plain : Ordinarily s x) (lists : Lists s x (front ++ [last]))
  (small : front.length < 2 ^ 63)

include quiet plain lists small

theorem item_unset : Gives (Builtin.unsetItem x (toString front.length)) s () (listing s x front) := by
  intro m
  obtain ⟨v, found, content⟩ := lists
  have self : (leaving s m).resolved x = x := resolved_self (s := leaving s m) plain
  have held : (leaving s m).variableD x = v := by
    have there : (leaving s m).find? x = some v := found
    unfold Session.variableD
    rw [there]
    rfl
  have natural : ¬ (front.length : Int) < 0 := by omega
  have every : (toString front.length == "@") = false := beq_eq_false_iff_ne.mpr (toString_other _ (by decide))
  have star : (toString front.length == "*") = false := beq_eq_false_iff_ne.mpr (toString_other _ (by decide))
  unfold Builtin.unsetItem
  rw [bind_ok get_ok, self, held, content]
  simp only [numberedItems, every, star, Bool.or_self, Bool.false_eq_true, if_false]
  rw [bind_ok (calculate_numeral quiet "" small m)]
  simp only [Session.indexIn?, natural, if_false, Int.toNat_natCast, numbered_drop]
  rw [modify_ok]
  have same : listing s x front = s.put x { v with content := .items ((List.range front.length).zip front) } := by
    unfold listing Session.setContent Session.variableD
    rw [found]
    rfl
  rw [same]
  rfl

include own

theorem dropped_comesTo (spelled : Spells E s parts (itemWord x front.length)) :
    ComesTo ((run [bare "unset", [.double parts]]).run E) s (.ok () { listing s x front with status := 0 }) := by
  have reads : Reads E s [bare "unset", [.double parts]] ["unset", itemWord x front.length] :=
    reads_bare "unset" (by decide) (by decide) (reads_double [_] (double_fields spelled) reads_nil)
  have dashless : ∀ w ∈ [itemWord x front.length], ∀ rest, w.toList ≠ '-' :: rest := by
    intro w member rest shape
    rw [List.mem_singleton.mp member, itemWord_chars] at shape
    obtain ⟨c, cs, first⟩ := List.exists_cons_of_ne_nil (own_filled own)
    rw [first] at shape
    exact own_dashless own cs (first.trans (congrArg (· :: cs) (List.cons.inj shape).1))
  have removed := @item_unset { s with status := 0 } x last front quiet plain lists small
  refine builtin_ok Builtin.unset quiet reads (by decide) rfl (by decide)
    (withOptions_none dashless fun m => ⟨m, ?_⟩) quiet rfl (Or.inl rfl)
  have zero : Run.setStatus 0 (leaving s m) = .ok () (leaving { s with status := 0 } m) := rfl
  refine (bind_ok zero).trans ((bind_ok (forIn_word (k := 0) (t := leaving { listing s x front with status := 0 } m) ?_)).trans rfl)
  rw [bind_ok get_ok, itemWord_element own]
  simp only [Builtin.has, List.any_nil, Bool.false_eq_true]
  exact (bind_ok (removed m)).trans rfl

end Dropping

section Seeking

variable {E : Engine} {c : Session} {marks : String → Bool} {x y v wanted : String} {w : Word} {k : Content}
  {status n : Nat} {values : List String}

-- `if [ "$x" = "$y" ]; then return 0; fi`
def foundReturn (x y : String) (n : Nat) : Command :=
  .ifThen [.located n (bracket [quotedRef x, bare "=", quotedRef y])] [.located (n + 1) (say ["return", "0"])] []

-- What is sought, and what is looked at.
def seeking (y wanted x : String) (k : Content) : Held := [(y, .text wanted), (x, k)]

variable (quiet : Quiet c) (own : isOwn x = true) (also : isOwn y = true) (other : x ≠ y)

include other

theorem seeking_looked : (seeking y wanted x k).lookup x = some k := by
  simp [seeking, lookup_first, other]

theorem seeking_kept (j : Content) : kept (seeking y wanted x k) x j = seeking y wanted x j := by
  simp [seeking, kept, Ne.symm other]

include quiet own also

theorem found_asked : ComesTo ((bracket [quotedRef x, bare "=", quotedRef y]).run E)
    { within c marks (seeking y wanted x (.text v)) status with shielded := true }
    (.ok () { within c marks (seeking y wanted x (.text v)) status with shielded := true, status := if v = wanted then 0 else 1 }) := by
  let s : Session := { within c marks (seeking y wanted x (.text v)) status with shielded := true }
  have calm : Quiet s := quiet
  have looked : Stands s x (some v) := within_stands (c := { c with shielded := true }) own (seeking_looked other)
  have sought : Stands s y (some wanted) := within_stands (c := { c with shielded := true }) also List.lookup_cons_self
  have compared := @texts_compared E s _ _ "=" v wanted calm (tame_word "=" (by decide) (by decide))
    (double_fields (value_spells calm looked)) (double_other _) (double_fields (value_spells calm sought)) (double_other _)
    (fun a b => a == b) rfl rfl (Or.inr (Or.inl rfl))
  simp only [beq_iff_eq] at compared
  exact compared

theorem found_returns (running : c.isInFunction = true) :
    ComesTo ((foundReturn x y n).run E) (within c marks (seeking y wanted x (.text wanted)) status)
      (.error (.returned 0) (within c marks (seeking y wanted x (.text wanted)) 0)) := by
  have calm : Quiet (within c marks (seeking y wanted x (.text wanted)) status) := quiet
  have after : Quiet (within c marks (seeking y wanted x (.text wanted)) 0) := quiet
  have reads : Reads E (within c marks (seeking y wanted x (.text wanted)) 0) (["return", "0"].map bare) ["return", toString 0] :=
    reads_bare "return" (by decide) (by decide) (reads_bare "0" (by decide) (by decide) reads_nil)
  have returned := return_comesTo after running reads (codeOf_numeral "return" (by decide))
  exact when_holds n calm (found_asked quiet own also other) rfl (script_one after (located_comesTo _ returned))

theorem other_passes (unlike : v ≠ wanted) :
    ComesTo ((foundReturn x y n).run E) (within c marks (seeking y wanted x (.text v)) status)
      (.ok () (within c marks (seeking y wanted x (.text v)) 0)) := by
  have calm : Quiet (within c marks (seeking y wanted x (.text v)) status) := quiet
  exact when_skips n calm (found_asked quiet own also other) _ unlike

variable (running : c.isInFunction = true)

include running

-- One value after the other is looked at, up to the one that is sought.
theorem seek_comesTo (values : List String) (flat : k.isArray = false) :
    ∃ j code, ∀ line, ComesTo (loopOver (forRound E x w [.located n (foundReturn x y n)] line) values)
      (within c marks (seeking y wanted x k) status)
      (if wanted ∈ values then .error (.returned 0) (within c marks (seeking y wanted x j) code)
        else .ok () (within c marks (seeking y wanted x j) code)) := by
  induction values generalizing k status with
  | nil => exact ⟨k, status, fun _ => over_nil⟩
  | cons v values more =>
    have calm : ∀ k status, Quiet (within c marks (seeking y wanted x k) status) := fun _ _ => quiet
    have stored : Gives (Assign.store (.whole x) false v) (within c marks (seeking y wanted x k) status) ()
        (within c marks (seeking y wanted x (.text v)) status) := by
      have put := @within_store c marks (seeking y wanted x k) status x v k own (seeking_looked other) flat
      rwa [seeking_kept other] at put
    by_cases same : v = wanted
    · subst same
      refine ⟨.text v, 0, fun line => ?_⟩
      rw [if_pos (List.mem_cons_self ..)]
      refine over_stops (round_comesTo (calm _ _) stored (loopRound_returned ?_))
      exact script_one (calm _ _) (located_comesTo n (found_returns quiet own also other running))
    · obtain ⟨j, code, ran⟩ := @more (.text v) 0 rfl
      have member : wanted ∈ v :: values ↔ wanted ∈ values := List.mem_cons.trans (or_iff_right (Ne.symm same))
      refine ⟨j, code, fun line => ?_⟩
      rw [if_congr member rfl rfl]
      refine over_goes (round_comesTo (calm _ _) stored (loopRound_ok ?_)) (ran line)
      exact script_one (calm _ _) (located_comesTo n (other_passes quiet own also other same))

-- A value is sought among those of a word, and the function ends where it is found.
theorem sought_comesTo (fields : Yields (Word.fields E w) (within c marks (seeking y wanted x .declared) 0) values) :
    ∃ j code, ComesTo ((Command.forIn x (some [w]) [.located n (foundReturn x y n)]).run E)
      (within c marks (seeking y wanted x .declared) 0)
      (if wanted ∈ values then .error (.returned 0) (within c marks (seeking y wanted x j) code)
        else .ok () (within c marks (seeking y wanted x j) code)) := by
  let c' : Session := { c with loops := c.loops + 1 }
  obtain ⟨j, code, ran⟩ := @seek_comesTo E c' marks x y wanted w .declared (if values.isEmpty then 0 else 0) n quiet own also
    other running values rfl
  refine ⟨j, code, ?_⟩
  have looped := forIn_comesTo (own_isName own) fields ran
  by_cases known : wanted ∈ values
  · rw [if_pos known] at looped ⊢
    exact looped
  · rw [if_neg known] at looped ⊢
    exact looped

-- What is sought is the first argument, and nothing is looked at yet.
theorem seeking_declared {front : String} {others : List String} (args : c.args = wanted :: others)
    (plain : ∀ z ∈ [y, x], Ordinarily c z) (inherits : ∀ z, marks z = ((c.find? z).map (·.exported)).getD false)
    (led : front = y ++ "=") (tame : front.toList.all isTame = true) (bare_ : x.toList.all isTame = true) :
    ComesTo (runScript E [.located n (run [bare "local", [.text front, .double [ref "1"]]]),
        .located (n + 1) (say ["local", x])])
      (within c marks [] status) (.ok () (within c marks (seeking y wanted x .declared) 0)) := by
  have calm : ∀ held status, Quiet (within c marks held status) := fun _ _ => quiet
  have filled : front ≠ "" := by
    rw [led]
    simp
  have argument : Spells E (within c marks [] status) [ref "1"] wanted := value_spells (calm _ _) (stands_first args)
  have reads : Reads E (within c marks [] status) [bare "local", [.text front, .double [ref "1"]]]
      ("local" :: [(y, some wanted)].map Declared.text) := by
    rw [led] at tame filled ⊢
    exact reads_bare "local" (by decide) (by decide) (reads_led_double tame filled reads_nil argument)
  have sought := local_comesTo quiet running (List.cons_ne_nil _ _) reads (by
    intro d member
    rw [List.mem_singleton.mp member]
    exact ⟨also, rfl, plain y (List.mem_cons_self ..), inherits _⟩) (List.nodup_singleton _)
  have next : Reads E (within c marks [(y, .text wanted)] 0) (["local", x].map bare) ("local" :: [(x, none)].map Declared.text) :=
    reads_bare "local" (by decide) (by decide) (reads_bare x bare_ (by simpa using own_filled own) reads_nil)
  have looked := local_comesTo quiet running (List.cons_ne_nil _ _) next (by
    intro d member
    rw [List.mem_singleton.mp member]
    exact ⟨own, by simp [lookup_first, other], plain x (by simp), inherits _⟩) (List.nodup_singleton _)
  exact script_cons (calm _ _) (located_comesTo _ sought) (script_one (calm _ _) (located_comesTo _ looked))

end Seeking

end Toolwrap.Running
