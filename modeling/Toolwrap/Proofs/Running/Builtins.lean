import Toolwrap.Proofs.Running.Questions
import Toolwrap.Proofs.Running.Variables

-- What the commands of the shell come to that generated programs are made of: dropping
-- arguments, ending the program or a loop, printing, and forgetting variables.

namespace Toolwrap.Running

open Shell

section Words

variable {E : Engine} {s : Session}

theorem toString_tame (n : Nat) : (toString n).toList.all isTame = true := by
  rw [List.all_eq_true]
  exact fun c member => digit_tame ((toString_numeral n).digits c member)

theorem toString_filled (n : Nat) : toString n ≠ "" := by
  intro empty
  exact (toString_numeral n).filled (by rw [empty]; rfl)

theorem toString_other (n : Nat) {word : String} (other : word.toList.all Char.isDigit = false) :
    toString n ≠ word := by
  rintro rfl
  rw [List.all_eq_true.mpr (toString_numeral n).digits] at other
  cases other

-- A command with a number behind its name.
theorem reads_counted (name : String) (tame : name.toList.all isTame = true) (filled : name ≠ "")
    (n : Nat) : Reads E s ([name, toString n].map bare) [name, toString n] :=
  reads_bare name tame filled (reads_bare _ (toString_tame n) (toString_filled n) reads_nil)

end Words

section Control

variable {E : Engine} {s : Session}

theorem shift_comesTo {n : Nat} (quiet : Quiet s) (small : n < 2 ^ 63) (enough : n ≤ s.args.length) :
    ComesTo ((shift n).run E) s (.ok () { s with args := s.args.drop n, status := 0 }) := by
  refine builtin_ok Builtin.shift quiet (reads_counted "shift" (by decide) (by decide) n) (by decide)
    rfl (by decide) ?_ quiet rfl (Or.inl rfl)
  intro m
  have full : (leaving s m).isPlain = false := quiet.not_plain
  have word : (some (toString n) == some "--") = false :=
    beq_eq_false_iff_ne.mpr fun same => toString_other n (by decide) (Option.some.inj same)
  refine ⟨m, ?_⟩
  unfold Builtin.shift
  rw [bind_ok get_ok, List.head?_cons, word]
  simp only [Bool.false_eq_true, if_false, word_toString small, full, List.isEmpty_nil, Bool.not_true]
  rw [bind_ok pure_ok]
  have natural : ¬ (n : Int) < 0 := by omega
  have within : ¬ (leaving s m).args.length < (n : Int).toNat := Nat.not_lt.mpr enough
  simp only [if_neg natural, if_neg within]
  rw [bind_ok set_ok]
  rfl

-- Without a number, the first argument is left out.
theorem shift_first {x : String} {rest : List String} (quiet : Quiet s) (args : s.args = x :: rest) :
    ComesTo ((say ["shift"]).run E) s (.ok () { s with args := rest, status := 0 }) := by
  refine builtin_ok Builtin.shift quiet (reads_bare "shift" (by decide) (by decide) reads_nil) (by decide) rfl (by decide)
    (fun m => ⟨m, ?_⟩) quiet rfl (Or.inl rfl)
  have full : (leaving s m).isPlain = false := quiet.not_plain
  have there : (leaving s m).args = x :: rest := args
  have word : (([] : List String).head? == some "--") = false := rfl
  have within : ¬ (x :: rest).length < (1 : Int).toNat := by simp
  have natural : ¬ (1 : Int) < 0 := by decide
  unfold Builtin.shift
  rw [bind_ok get_ok, word]
  simp only [Bool.false_eq_true, if_false, full]
  rw [bind_ok pure_ok]
  simp only [there, if_neg natural, if_neg within]
  rw [bind_ok set_ok]
  rfl

-- `set -- …` gives new arguments.
theorem set_comesTo {words : List Word} {values : List String} (quiet : Quiet s)
    (reads : Reads E s words ("set" :: "--" :: values)) :
    ComesTo ((run words).run E) s (.ok () { s with args := values, status := 0 }) := by
  refine builtin_ok Builtin.set_ quiet reads (by decide) rfl (by decide) ?_ quiet rfl (Or.inl rfl)
  intro m
  refine ⟨m, ?_⟩
  have known : Builtin.unknownLetter? ("--" :: values) = none := by
    unfold Builtin.unknownLetter?
    rfl
  unfold Builtin.set_
  simp only [List.isEmpty_cons, Bool.false_eq_true, if_false]
  rw [known]
  rfl

theorem codeOf_none (name : String) : Yields (Builtin.codeOf? name []) s none := fun _ => rfl

theorem codeOf_numeral (name : String) {n : Nat} (small : n < 256) :
    Yields (Builtin.codeOf? name [toString n]) s (some n) := by
  intro m
  have word : (some (toString n) == some "--") = false :=
    beq_eq_false_iff_ne.mpr fun same => toString_other n (by decide) (Option.some.inj same)
  unfold Builtin.codeOf?
  rw [List.head?_cons, word]
  simp only [Bool.false_eq_true, if_false, word_toString (Nat.lt_trans small (by decide)),
    List.isEmpty_nil, Bool.not_true, Bool.false_and]
  rw [bind_ok get_ok, pure_ok]
  have same : ((n : Int) % 256).toNat = n := by omega
  rw [show ((n : Int).emod 256).toNat = n from same]

theorem leave_comesTo (quiet : Quiet s) {n : Nat} (small : n < 256) :
    ComesTo ((leave (toString n)).run E) s (.error (.exit n) s) := by
  refine builtin_error Builtin.exit quiet (reads_counted "exit" (by decide) (by decide) n) (by decide)
    rfl (by decide) ?_ rfl
  intro m
  refine ⟨m, ?_⟩
  unfold Builtin.exit
  rw [bind_ok get_ok, bind_ok (codeOf_numeral "exit" small m)]
  rfl

theorem break_comesTo (quiet : Quiet s) (inside : s.loops ≠ 0) :
    ComesTo ((say ["break"]).run E) s (.error (.broke 1) { s with status := 0 }) := by
  refine builtin_error Builtin.break_ quiet (reads_bare "break" (by decide) (by decide) reads_nil)
    (by decide) rfl (by decide) ?_ rfl
  intro m
  have looping : ((leaving s m).loops == 0) = false := beq_eq_false_iff_ne.mpr inside
  refine ⟨m, ?_⟩
  unfold Builtin.break_ Builtin.leaveLoops
  rw [bind_ok get_ok, looping]
  rfl

end Control

-- Forgetting variables of a program that is in no function.
section Forgetting

variable {E : Engine} {s : Session} {x y : String}

-- No function is running, so that all variables are those of the program.
def AtTop (s : Session) : Prop := ∃ globals, s.scopes = [globals]

theorem find_unset (top : AtTop s) :
    (s.unset x).find? y = if y = x then none else s.find? y := by
  obtain ⟨globals, only⟩ := top
  unfold Session.find? Session.unset
  rw [only]
  simp only [Scope.unsetIn, List.findSome?_cons, List.findSome?_nil, lookup_without]
  by_cases same : y = x <;> simp [same]

theorem unset_top (top : AtTop s) : AtTop (s.unset x) := by
  obtain ⟨globals, only⟩ := top
  exact ⟨globals.filter fun v => v.1 != x, by unfold Session.unset; rw [only]; rfl⟩

theorem unset_absent (top : AtTop s) (absent : s.find? x = none) : s.unset x = s := by
  obtain ⟨globals, only⟩ := top
  have kept : globals.filter (fun v => v.1 != x) = globals := by
    rw [List.filter_eq_self]
    intro entry member
    unfold Session.find? at absent
    rw [only] at absent
    simp only [List.findSome?_cons, List.findSome?_nil] at absent
    split at absent
    · cases absent
    · rename_i missing
      rw [bne_iff_ne]
      exact fun same => by
        have other := List.lookup_eq_none_iff.mp missing entry member
        simp [same] at other
  unfold Session.unset
  rw [only]
  simp only [Scope.unsetIn, kept]
  rw [← only]

theorem unset_ordinarily (top : AtTop s) (plain : Ordinarily s y) : Ordinarily (s.unset x) y := by
  intro v found
  rw [find_unset top] at found
  split at found
  · cases found
  · exact plain v found

-- Words without a dash in front are no options. There is no equation that opens this
-- reader of options, so its recursion is opened by hand.
theorem optionsOf_none {plain valued : List Char} {words : List String}
    (dashless : ∀ w ∈ words, ∀ rest, w.toList ≠ '-' :: rest) :
    Builtin.optionsOf plain valued words = .ok ([], words) := by
  cases words with
  | nil => rfl
  | cons w words =>
    have first := dashless w (List.mem_cons_self ..)
    delta Builtin.optionsOf
    change Builtin.optionsOf._f plain valued (w :: words) _ = _
    unfold Builtin.optionsOf._f
    dsimp only
    split
    · rename_i shape
      exact absurd shape (first _)
    · rename_i shape
      exact absurd shape (first _)
    · rfl

theorem withOptions_none {name plain valued : String} {words : List String} {r : Ending Unit}
    {work : List Builtin.Option_ → List String → Run Unit}
    (dashless : ∀ w ∈ words, ∀ rest, w.toList ≠ '-' :: rest)
    (ended : ComesTo (work [] words) s r) :
    ComesTo (Builtin.withOptions name plain valued words work) s r := by
  have other : (words.head? == some "--help") = false := by
    rw [beq_eq_false_iff_ne]
    intro asked
    exact dashless "--help" (List.mem_of_head? asked) _ rfl
  intro m
  unfold Builtin.withOptions
  rw [bind_ok get_ok, other, optionsOf_none dashless]
  exact ended m

-- A loop over words that goes on with the same number each time.
theorem forIn_words {words : List String} {n : Nat} {step : String → Nat → Run (ForInStep Nat)}
    (keeps : Session → Prop) (next : Session → String → Session) (start : keeps s)
    (each : ∀ w ∈ words, ∀ t, keeps t → step w n t = .ok (.yield n) (next t w) ∧ keeps (next t w)) :
    forIn words n step s = .ok n (words.foldl next s) := by
  induction words generalizing s with
  | nil => rfl
  | cons w words more =>
    obtain ⟨stepped, kept⟩ := each w (List.mem_cons_self ..) s start
    rw [List.forIn_cons, bind_ok stepped]
    exact more kept fun v member => each v (List.mem_cons_of_mem _ member)

theorem own_dashless (own : isOwn x = true) (rest : List Char) : x.toList ≠ '-' :: rest := by
  intro shape
  have named := own_isName own
  rw [isName, shape] at named
  cases named

theorem isName_chars {x : String} (named : isName x = true) : ∀ c ∈ x.toList, isNameChar c = true := by
  unfold isName at named
  cases shape : x.toList with
  | nil => simp
  | cons c rest =>
    rw [shape, Bool.and_eq_true, List.all_eq_true] at named
    intro d member
    rcases List.mem_cons.mp member with rfl | later
    · have start := named.1
      simp only [isNameStart, isNameChar, Char.isAlphanum, Bool.or_eq_true] at start ⊢
      exact start.imp_left Or.inl
    · exact named.2 d later

theorem own_no_element (own : isOwn x = true) : Builtin.element? x = none := by
  have free : ∀ c ∈ x.toList, (c != '[') = true := by
    intro c member
    rw [bne_iff_ne]
    rintro rfl
    exact absurd (isName_chars (own_isName own) _ member) (by decide)
  unfold Builtin.element?
  simp only [List.takeWhile_eq_self_iff.mpr free, List.drop_length]

-- The session in which variables are gone.
def without (s : Session) (xs : List String) : Session :=
  { s with scopes := xs.foldl (fun scopes x => Scope.unsetIn x true scopes) s.scopes }

theorem foldl_unset (xs : List String) (s : Session) : xs.foldl Session.unset s = without s xs := by
  induction xs generalizing s with
  | nil => rfl
  | cons x xs more =>
    rw [List.foldl_cons, more]
    rfl

theorem without_find {xs : List String} (top : AtTop s) :
    (without s xs).find? y = if y ∈ xs then none else s.find? y := by
  rw [← foldl_unset]
  induction xs generalizing s with
  | nil => simp
  | cons x xs found =>
    rw [List.foldl_cons, found (unset_top top), find_unset top]
    by_cases later : y ∈ xs
    · simp [later]
    · by_cases here : y = x <;> simp [later, here]

theorem unset_comesTo {xs : List String} (quiet : Quiet s) (top : AtTop s)
    (own : ∀ x ∈ xs, isOwn x = true) (plain : ∀ x ∈ xs, Ordinarily s x)
    (others : ∀ x ∈ xs, isHelper x = false) :
    ComesTo (Builtin.unset E xs) s (.ok () { without s xs with status := 0 }) := by
  unfold Builtin.unset
  refine withOptions_none (fun x member => own_dashless (own x member)) ?_
  intro m
  refine ⟨m, ?_⟩
  have zero : Run.setStatus 0 (leaving s m) = .ok () (leaving { s with status := 0 } m) := rfl
  rw [bind_ok zero]
  refine (bind_ok (forIn_words (s := leaving { s with status := 0 } m)
    (fun t => Quiet t ∧ AtTop t ∧ ∀ x ∈ xs, Ordinarily t x) Session.unset ⟨quiet, top, plain⟩ ?_)).trans ?_
  · rintro x member t ⟨calm, globals, ordinary⟩
    refine ⟨?_, calm, unset_top globals, fun y listed => unset_ordinarily globals (ordinary y listed)⟩
    rw [bind_ok get_ok, own_no_element (own x member)]
    simp only [Builtin.has, List.any_nil, Bool.false_eq_true, if_false, Bool.not_false, if_true,
      resolved_self (ordinary x member)]
    have shown : t.shownVariable? x = t.find? x := by
      unfold Session.shownVariable?
      rw [fact_none (own x member)]
      cases t.find? x <;> rfl
    rw [shown]
    cases found : t.find? x with
    | some v =>
      simp only [(ordinary x member v found).free, Bool.false_eq_true, if_false]
      rfl
    | none =>
      have kept : t.functions.filter (fun f => f.1 != x) = t.functions := by
        rw [List.filter_eq_self]
        intro f listed
        rw [bne_iff_ne]
        rintro rfl
        have helper := calm.helpers f listed
        rw [others f.1 member] at helper
        cases helper
      have same : ({ t with functions := t.functions.filter fun f => f.1 != x } : Session) = t.unset x := by
        rw [kept, unset_absent globals found]
      exact congrArg (fun u => (.ok (.yield 0) u : Ending (ForInStep Nat))) same
  · rw [foldl_unset]
    rfl

end Forgetting

end Toolwrap.Running
