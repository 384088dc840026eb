import Toolwrap.Proofs.Parsing.CommandLine
import Toolwrap.Proofs.Running.Elements

-- What becomes of the positional arguments that were collected: each argument takes its share of them in
-- order, and a program to which any are left ends with an error.

namespace Toolwrap.Parsing

open Shell Wrapper Running

-- What an argument takes of the texts that are left: all of them, or the first one.
def share (a : Argument) (texts : List String) : List String := if a.multiple then texts else texts.take 1

def shares : List Argument → List String → List (List String)
  | [], _ => []
  | a :: P, texts => share a texts :: shares P (texts.drop (share a texts).length)

def unclaimed : List Argument → List String → List String
  | [], texts => texts
  | a :: P, texts => unclaimed P (texts.drop (share a texts).length)

def Stored.hand (stored : Stored) (a : Argument) : List String → Stored
  | [] => stored
  | text :: texts => stored.set a.envName (a.separatorText.intercalate (text :: texts))

def handed : List Argument → List String → Stored → Stored
  | [], _, stored => stored
  | a :: P, texts, stored => handed P (texts.drop (share a texts).length) (stored.hand a (share a texts))

-- A text is put behind what an argument holds.
def Stored.behind (a : Argument) (stored : Stored) (text : String) : Stored :=
  stored.set a.envName (((stored.values a.envName).map (· ++ a.separatorText)).getD "" ++ text)

section Values

variable {stored : Stored} {a : Argument} {x v w text : String} {texts : List String}

theorem set_value : (stored.set x v).values x = some v := if_pos rfl

theorem set_again : (stored.set x v).set x w = stored.set x w := by
  unfold Stored.set
  congr 1
  funext y
  dsimp only
  split <;> rfl

theorem behind_joined (first : String) (texts : List String) :
    texts.foldl (Stored.behind a) (stored.set a.envName first) =
      stored.set a.envName (a.separatorText.intercalate (first :: texts)) := by
  induction texts generalizing first with
  | nil => rw [List.foldl_nil, String.intercalate_singleton]
  | cons text texts more =>
    have taken : Stored.behind a (stored.set a.envName first) text =
        stored.set a.envName (first ++ a.separatorText ++ text) := by
      rw [Stored.behind, set_value, set_again]
      rfl
    rw [List.foldl_cons, taken, more, joined_behind]

-- Texts that are put behind nothing one by one are handed over together.
theorem behind_handed (unset : stored.values a.envName = none) (texts : List String) :
    texts.foldl (Stored.behind a) stored = stored.hand a texts := by
  cases texts with
  | nil => rfl
  | cons text texts =>
    have first : Stored.behind a stored text = stored.set a.envName text := by
      rw [Stored.behind, unset]
      exact congrArg _ (String.empty_append)
    rw [List.foldl_cons, first, behind_joined]
    rfl

theorem behind_allowed (several : a.multiple = true) (text : String) :
    (ruleOf a).store (stored.values a.envName) text =
      some (((stored.values a.envName).map (· ++ a.separatorText)).getD "" ++ text) := by
  rw [ruleOf, if_pos several]
  cases stored.values a.envName with
  | none => exact congrArg some String.empty_append.symm
  | some old => rfl

end Values

section Taking

variable {E deeper : Engine} {A P : List Argument} {a : Argument} {s : Session} {stored : Stored} {text new : String}
  {rest texts : List String}

def takingBody (a : Argument) : Script := [storeValue a [ref "1"], shift 1]

-- The first text that is left is stored and taken away.
theorem taking_comesTo (holding : Holding A stored (text :: rest) s) (accepted : Accepted A) (listed : a ∈ A)
    (allowed : (ruleOf a).store (stored.values a.envName) text = some new) : ∃ t,
    ComesTo (runScript E (takingBody a)) s (.ok () t) ∧ Holding A (stored.set a.envName new) rest t := by
  have spelled : ∀ t, Quiet t → t.args = text :: rest → Spells E t [ref "1"] text :=
    fun t quiet args => plain_spells quiet (first_stands args)
  have first := store_comesTo (E := E) holding accepted listed spelled allowed
  have further : Holding A (stored.set a.envName new) (text :: rest) _ :=
    holding.given (owned_free (Or.inl (List.mem_map_of_mem listed)))
  have enough : 1 ≤ ({ given s a.envName new with status := 0 } : Session).args.length := by
    rw [further.args]
    exact Nat.succ_pos _
  exact ⟨_, script_append first (script_one further.ready.quiet (shift_comesTo further.ready.quiet (by decide) enough)),
    further.shifted 1⟩

-- By induction on the texts that are left: each round of the loop takes the first one.
theorem taking_loop (holding : Holding A stored texts s) (accepted : Accepted A) (listed : a ∈ A)
    (several : a.multiple = true) {rounds last : Nat} (few : texts.length < 2 ^ 63) (enough : texts.length < rounds) : ∃ t,
    ComesTo (loopWhile (whileRound E false [hasArguments] (takingBody a)) rounds last) s (.ok () t) ∧
      Holding A (texts.foldl (Stored.behind a) stored) [] t := by
  obtain ⟨rounds, rfl⟩ := Nat.exists_eq_succ_of_ne_zero (Nat.ne_zero_of_lt enough)
  induction texts generalizing s stored last rounds with
  | nil =>
    exact ⟨_, while_ends (round_over (asked_arguments holding few) rfl), holding.passing (last % 256) s.loops s.shielded⟩
  | cons text texts more =>
    obtain ⟨t, ran, further⟩ :=
      taking_comesTo (E := E) (holding.passing 0 s.loops s.shielded) accepted listed (behind_allowed several text)
    rw [List.length_cons] at few enough
    obtain ⟨rounds, rfl⟩ := Nat.exists_eq_succ_of_ne_zero (show rounds ≠ 0 by omega)
    obtain ⟨u, ended, done⟩ : ∃ u,
        ComesTo (loopWhile (whileRound E false [hasArguments] (takingBody a)) (rounds + 1) t.status) t (.ok () u) ∧ _ :=
      more further (by omega) rounds (by omega)
    exact ⟨u, while_goes further.ready.quiet (round_more (asked_more holding few) nofun ran) ended, done⟩

-- An argument that holds nothing takes its share.
theorem take_comesTo (holding : Holding A stored texts s) (accepted : Accepted A) (listed : a ∈ A)
    (unset : stored.values a.envName = none) (few : texts.length < 2 ^ 63) (enough : texts.length < E.rounds) : ∃ t,
    ComesTo ((takePositional a).run E) s (.ok () t) ∧
      Holding A (stored.hand a (share a texts)) (texts.drop (share a texts).length) t := by
  unfold takePositional share
  by_cases several : a.multiple = true
  · rw [if_pos several, if_pos several, List.drop_length, run_whileLoop, ← behind_handed unset]
    obtain ⟨t, looped, done⟩ := taking_loop (E := E) (holding.passing s.status (s.loops + 1) s.shielded) accepted listed
      several few enough
    exact ⟨_, inLoop_ok looped, done.passing t.status (t.loops - 1) t.shielded⟩
  · rw [if_neg several, if_neg several]
    cases texts with
    | nil =>
      exact ⟨_, if_skips (asked_arguments holding few) Nat.one_ne_zero, holding.passing 0 s.loops s.shielded⟩
    | cons text rest =>
      have allowed : (ruleOf a).store (stored.values a.envName) text = some text := by
        rw [ruleOf, if_neg several, unset]
        rfl
      obtain ⟨t, ran, done⟩ :=
        taking_comesTo (E := E) (holding.passing 0 s.loops s.shielded) accepted listed allowed
      refine ⟨t, if_holds (asked_more holding few) rfl ran, ?_⟩
      have alone : stored.hand a ((text :: rest).take 1) = stored.set a.envName text := by
        rw [List.take_succ_cons, List.take_zero, Stored.hand, String.intercalate_singleton]
      rw [alone]
      exact done

theorem hand_value {x : String} (other : x ≠ a.envName) (texts : List String) :
    (stored.hand a texts).values x = stored.values x := by
  cases texts with
  | nil => rfl
  | cons text texts => exact if_neg other

-- By induction on the arguments: each of them leaves the others what it does not take.
theorem hand_comesTo (holding : Holding A stored texts s) (accepted : Accepted A) (listed : ∀ a ∈ P, a ∈ A)
    (apart : (P.map Argument.envName).Nodup) (unset : ∀ a ∈ P, stored.values a.envName = none)
    (few : texts.length < 2 ^ 63) (enough : texts.length < E.rounds) : ∃ t,
    ComesTo (runScript E (P.map takePositional)) s (.ok () t) ∧
      Holding A (handed P texts stored) (unclaimed P texts) t := by
  induction P generalizing s stored texts with
  | nil => exact ⟨s, script_nil, holding⟩
  | cons a P more =>
    obtain ⟨others, distinct⟩ := List.nodup_cons.mp apart
    obtain ⟨t, taken, further⟩ := take_comesTo holding accepted (listed a (List.mem_cons_self ..))
      (unset a (List.mem_cons_self ..)) few enough
    have fewer : (texts.drop (share a texts).length).length ≤ texts.length := List.length_drop ▸ Nat.sub_le _ _
    have free : ∀ b ∈ P, (stored.hand a (share a texts)).values b.envName = none := by
      intro b member
      have other : b.envName ≠ a.envName := fun same => others (same ▸ List.mem_map_of_mem member)
      rw [hand_value other]
      exact unset b (List.mem_cons_of_mem _ member)
    obtain ⟨u, ran, done⟩ := more further (fun b member => listed b (List.mem_cons_of_mem _ member)) distinct free
      (Nat.lt_of_le_of_lt fewer few) (Nat.lt_of_le_of_lt fewer enough)
    exact ⟨u, script_cons holding.ready.quiet taken ran, done⟩

end Taking

section Shares

variable {P : List Argument} {a : Argument} {stored : Stored} {texts : List String} {x : String} {i : Nat}

-- No text is lost, and none is taken twice.
theorem shares_flatten (P : List Argument) (texts : List String) : (shares P texts).flatten ++ unclaimed P texts = texts := by
  induction P generalizing texts with
  | nil => rfl
  | cons a P more =>
    have taken : share a texts ++ texts.drop (share a texts).length = texts := by
      unfold share
      split
      · simp
      · cases texts <;> rfl
    rw [shares, unclaimed, List.flatten_cons, List.append_assoc, more, taken]

theorem single_drop (single : a.multiple = false) (texts : List String) :
    share a texts = texts[0]?.toList ∧ texts.drop (share a texts).length = texts.drop 1 := by
  rw [share, single]
  cases texts <;> exact ⟨rfl, rfl⟩

-- Where only the last argument takes several texts, the others take one each, by their places.
theorem shares_single (ordered : ∀ b ∈ P.dropLast, b.multiple = false) (there : P[i]? = some a) (single : a.multiple = false) :
    (shares P texts)[i]? = some texts[i]?.toList := by
  induction P generalizing i texts with
  | nil => cases there
  | cons b P more =>
    cases i with
    | zero =>
      obtain rfl := Option.some.inj there
      rw [shares, List.getElem?_cons_zero, (single_drop single texts).1]
    | succ i =>
      cases P with
      | nil => cases there
      | cons c P =>
        obtain ⟨first, others⟩ := List.forall_mem_cons.mp ordered
        rw [shares, List.getElem?_cons_succ, (single_drop first texts).2, more others there, List.getElem?_drop, Nat.add_comm]

theorem shares_last (ordered : ∀ b ∈ P.dropLast, b.multiple = false) (last : P.getLast? = some a) (several : a.multiple = true) :
    (shares P texts)[P.length - 1]? = some (texts.drop (P.length - 1)) := by
  induction P generalizing texts with
  | nil => cases last
  | cons b P more =>
    cases P with
    | nil =>
      obtain rfl : b = a := Option.some.inj last
      rw [shares, share, if_pos several]
      rfl
    | cons c P =>
      obtain ⟨first, others⟩ := List.forall_mem_cons.mp ordered
      have rest := @more (texts.drop 1) others (by rwa [List.getLast?_cons_cons] at last)
      rw [shares, (single_drop first texts).2]
      rw [List.drop_drop] at rest
      simpa [Nat.add_comm] using rest

theorem unclaimed_iff (ordered : ∀ b ∈ P.dropLast, b.multiple = false) :
    unclaimed P texts = [] ↔ ¬(P.length < texts.length ∧ ∀ b ∈ P.getLast?, b.multiple = false) := by
  induction P generalizing texts with
  | nil => simp [unclaimed]
  | cons b P more =>
    cases P with
    | nil =>
      cases several : b.multiple with
      | true =>
        rw [unclaimed, unclaimed, share, if_pos several, List.drop_length]
        exact iff_of_true rfl fun exceeds => Bool.noConfusion (several.symm.trans (exceeds.2 b rfl))
      | false =>
        have last : ∀ c ∈ [b].getLast?, c.multiple = false := by
          rintro c ⟨⟩
          exact several
        rw [unclaimed, unclaimed, (single_drop several texts).2, List.drop_eq_nil_iff, and_iff_left last]
        exact Nat.not_lt.symm
    | cons c P =>
      obtain ⟨first, others⟩ := List.forall_mem_cons.mp ordered
      rw [unclaimed, (single_drop first texts).2, more others, List.getLast?_cons_cons, List.length_drop]
      simp only [List.length_cons]
      refine not_congr (and_congr_left fun _ => ?_)
      omega

-- The value of an argument that is given texts.
def shareText (a : Argument) (texts : List String) : Option String :=
  if texts = [] then none else some (a.separatorText.intercalate texts)

theorem handed_other (other : x ∉ P.map Argument.envName) : (handed P texts stored).values x = stored.values x := by
  induction P generalizing texts stored with
  | nil => rfl
  | cons a P more =>
    have apart : x ≠ a.envName := fun same => other (same ▸ List.mem_cons_self ..)
    rw [handed, more fun later => other (List.mem_cons_of_mem _ later), hand_value apart]

theorem handed_share (apart : (P.map Argument.envName).Nodup) (unset : ∀ b ∈ P, stored.values b.envName = none)
    {given : List String} (there : P[i]? = some a) (shared : (shares P texts)[i]? = some given) :
    (handed P texts stored).values a.envName = shareText a given := by
  induction P generalizing i texts stored with
  | nil => cases there
  | cons b P more =>
    obtain ⟨others, distinct⟩ := List.nodup_cons.mp apart
    cases i with
    | zero =>
      obtain rfl := Option.some.inj there
      obtain rfl := Option.some.inj shared
      rw [handed, handed_other others]
      cases share b texts with
      | nil => exact unset b (List.mem_cons_self ..)
      | cons text rest => exact set_value
    | succ i =>
      refine more distinct (fun c member => ?_) there shared
      have other : c.envName ≠ b.envName := fun same => others (same ▸ List.mem_map_of_mem member)
      rw [hand_value other]
      exact unset c (List.mem_cons_of_mem _ member)

end Shares

section Whole

variable {E deeper : Engine} {A : List Argument} {s : Session} {stored : Stored} {rest : List String}

def placed (A : List Argument) : List Argument := A.filter Argument.isPositional

theorem placed_ordered (accepted : Accepted A) : ∀ a ∈ (placed A).dropLast, a.multiple = false :=
  (Arguments.checked_iff.mp accepted.checked).2.2

theorem placed_apart (accepted : Accepted A) : ((placed A).map Argument.envName).Nodup :=
  (Arguments.checked_iff.mp accepted.checked).2.1.sublist (List.filter_sublist.map _)

-- The collected texts become the arguments of the program.
theorem collected_comesTo (holding : Holding A stored rest s) :
    ComesTo ((Shell.run [bare "set", bare "--", quotedItems collected]).run E) s
      (.ok () { s with args := stored.positionals, status := 0 }) := by
  have items : Yields (Word.fields E (quotedItems collected)) s stored.positionals :=
    items_fields holding.ready.quiet (by decide) holding.ready.listed holding.lists
  have reads : Reads E s [bare "set", bare "--", quotedItems collected] ("set" :: "--" :: stored.positionals) := by
    have all := reads_double stored.positionals items reads_nil
    rw [List.append_nil] at all
    exact reads_bare "set" (by decide) (by decide) (reads_bare "--" (by decide) (by decide) all)
  exact set_comesTo holding.ready.quiet reads

def tooMany : List Part := [.text "Unrecognized positional argument(s): ", ref "*", .text "."]

-- There are more texts than arguments, and none of these takes the rest.
def Exceeds (A : List Argument) (texts : List String) : Prop :=
  (placed A).length < texts.length ∧ ∀ a ∈ (placed A).getLast?, a.multiple = false

theorem exceeds_iff (accepted : Accepted A) (texts : List String) : Exceeds A texts ↔ unclaimed (placed A) texts ≠ [] := by
  rw [ne_eq, unclaimed_iff (placed_ordered accepted), not_not]
  rfl

-- What a session holds of texts that were given to the positional arguments.
structure Shared (A : List Argument) (texts : List String) (s t : Session) : Prop where
  parted : (shares (placed A) texts).flatten = texts
  shared : ∀ (i : Nat) (a : Argument) given, (placed A)[i]? = some a → (shares (placed A) texts)[i]? = some given →
    t.value? a.envName = shareText a given
  single : ∀ (i : Nat) (a : Argument), (placed A)[i]? = some a → a.multiple = false → t.value? a.envName = texts[i]?
  several : ∀ a : Argument, (placed A).getLast? = some a → a.multiple = true → t.value? a.envName =
    if texts.length < (placed A).length then none
    else some (a.separatorText.intercalate (texts.drop ((placed A).length - 1)))
  others : ∀ x, x ∉ (placed A).map Argument.envName → x ≠ collected → t.value? x = s.value? x

-- Traces do not matter to it.
theorem Shared.later {t : Session} {texts : List String} (shared : Shared A texts s t) (n : Traces) :
    Shared A texts s (leaving t n) :=
  ⟨shared.parted, shared.shared, shared.single, shared.several, shared.others⟩

theorem handed_shared {t : Session} {texts : List String} (accepted : Accepted A) (holding : Holding A stored rest s)
    (unset : ∀ a ∈ placed A, stored.values a.envName = none) (all : unclaimed (placed A) texts = [])
    (values : ∀ x, x ≠ collected → t.value? x = (handed (placed A) texts stored).values x) : Shared A texts s t := by
  have free : ∀ a ∈ placed A, a.envName ≠ collected := fun a member =>
    (owned_free (A := A) (Or.inl (List.mem_map_of_mem (List.mem_filter.mp member).1))).2.2
  have shared : ∀ (i : Nat) (a : Argument) given, (placed A)[i]? = some a → (shares (placed A) texts)[i]? = some given →
      t.value? a.envName = shareText a given := by
    intro i a given there taken
    rw [values _ (free a (List.mem_of_getElem? there)), handed_share (placed_apart accepted) unset there taken]
  refine ⟨?_, shared, fun i a there single => ?_, fun a last several => ?_, fun x other apart => ?_⟩
  · have whole := shares_flatten (placed A) texts
    rwa [all, List.append_nil] at whole
  · rw [shared i a _ there (shares_single (placed_ordered accepted) there single)]
    cases texts[i]? with
    | none => rfl
    | some text => exact congrArg some String.intercalate_singleton
  · have there : (placed A)[(placed A).length - 1]? = some a := by rwa [← List.getLast?_eq_getElem?]
    have filled : 0 < (placed A).length := List.length_pos_of_mem (List.mem_of_getElem? there)
    rw [shared _ a _ there (shares_last (placed_ordered accepted) last several), shareText]
    refine if_congr ?_ rfl rfl
    rw [List.drop_eq_nil_iff]
    omega
  · rw [values x apart, handed_other other, holding.values x apart]

theorem positionals_comesTo (runs : E.script = runScript deeper) (accepted : Accepted A) (holding : Holding A stored rest s)
    (unset : ∀ a ∈ placed A, stored.values a.envName = none) (few : stored.positionals.length < 2 ^ 63)
    (enough : stored.positionals.length < E.rounds) :
    (Exceeds A stored.positionals → ∃ t, ComesTo (runScript E (positionals A)) s (.error (.exit 1) t)) ∧
    (¬Exceeds A stored.positionals →
      ∃ t, ComesTo (runScript E (positionals A)) s (.ok () t) ∧ Shared A stored.positionals s t) := by
  have quiet := holding.ready.quiet
  have commented : ComesTo ((Command.comment "positional arguments").run E) s (.ok () s) := by
    rw [run_comment]
    exact comesTo_pure
  have begun : Holding A stored stored.positionals { s with args := stored.positionals, status := 0 } :=
    ⟨holding.ready.passing stored.positionals 0 s.loops s.shielded, rfl, holding.flat, holding.values, holding.lists⟩
  obtain ⟨t, taken, further⟩ := hand_comesTo (E := E) (P := placed A) begun accepted
    (fun a member => (List.mem_filter.mp member).1) (placed_apart accepted) unset few enough
  have before : ComesTo (runScript E ([.comment "positional arguments",
      Shell.run [bare "set", bare "--", quotedItems collected]] ++ (placed A).map takePositional)) s (.ok () t) :=
    script_append (script_cons quiet commented (script_one quiet (collected_comesTo holding))) taken
  have fewer : (unclaimed (placed A) stored.positionals).length < 2 ^ 63 := by
    have lengths := congrArg List.length (shares_flatten (placed A) stored.positionals)
    rw [List.length_append] at lengths
    omega
  rw [exceeds_iff accepted]
  cases left : unclaimed (placed A) stored.positionals with
  | nil =>
    rw [left] at further fewer
    have skipped : ComesTo ((when hasArguments (fatalHint tooMany)).run E) t _ :=
      if_skips (asked_arguments further fewer) Nat.one_ne_zero
    exact ⟨fun some_ => absurd rfl some_, fun _ => ⟨_, script_append before (script_one further.ready.quiet skipped),
      handed_shared accepted holding unset left further.values⟩⟩
  | cons text texts =>
    rw [left] at further fewer
    have message : Spells E { t with status := 0 } tooMany _ :=
      spells_cons (spells_text _) (spells_cons star_spells (spells_text _))
    obtain ⟨u, ended⟩ := (further.passing 0 t.loops t.shielded).ready.fatal runs message
    have refused : ComesTo ((when hasArguments (fatalHint tooMany)).run E) t (.error (.exit 1) u) :=
      if_holds (asked_more further fewer) rfl ended
    exact ⟨fun _ => ⟨u, script_append before (script_one further.ready.quiet refused)⟩,
      fun none_ => absurd (List.cons_ne_nil _ _) none_⟩

-- The collected texts are neither lost nor taken twice: the arguments take them in order, and the program
-- ends with an error exactly if there are more texts than arguments and the last argument takes one.
theorem positionals_shared {rounds : Nat} (accepted : Accepted A) (holding : Holding A stored rest s)
    (unset : ∀ a ∈ placed A, stored.values a.envName = none) (few : stored.positionals.length < 2 ^ 63)
    (enough : stored.positionals.length < rounds) (depth : Nat) :
    (Exceeds A stored.positionals →
      ∃ t, runScript (engine rounds (depth + 1)) (positionals A) s = .error (.exit 1) t) ∧
    (¬Exceeds A stored.positionals →
      ∃ t, runScript (engine rounds (depth + 1)) (positionals A) s = .ok () t ∧ Shared A stored.positionals s t) := by
  obtain ⟨exceeding, fitting⟩ := @positionals_comesTo (engine rounds (depth + 1)) (engine rounds depth) A s stored rest rfl
    accepted holding unset few enough
  constructor
  · intro exceeds
    obtain ⟨t, ended⟩ := exceeding exceeds
    obtain ⟨n, ran⟩ := ended.run
    exact ⟨_, ran⟩
  · intro fits
    obtain ⟨t, ended, shared⟩ := fitting fits
    obtain ⟨n, ran⟩ := ended.run
    exact ⟨_, ran, shared.later n⟩

end Whole

section Kept

variable {A : List Argument} {a b : Argument} {token front value x text : String} {rule : Rule} {rest : List String}
  {stored final : Stored} (accepted : Accepted A) (alone : ∀ a ∈ A, a.isPositional = true → a.alternatives = [])
  (there : a ∈ placed A)

include accepted alone there

-- Options are stored in variables of their own.
theorem option_apart (found : A.find? (isOption token) = some b) : b.envName ≠ a.envName := by
  intro same
  obtain ⟨listed, positional⟩ := List.mem_filter.mp there
  have distinct := (Arguments.checked_iff.mp accepted.checked).2.1
  obtain rfl := List.inj_on_of_nodup_map distinct (List.mem_of_find?_eq_some found) listed same
  obtain ⟨spelled, dashed⟩ := List.mem_filter.mp (isOption_iff.mp (List.find?_some found))
  have only : b.spellings = [b.name] := congrArg (b.name :: ·) (alone b listed positional)
  rw [only, List.mem_singleton] at spelled
  subst spelled
  exact bne_iff_ne.mp dashed (beq_iff_eq.mp positional)

theorem flag_apart (target : target? A token = some (.flag x text)) : a.envName ≠ x := by
  obtain ⟨b, stored, found, -, rfl, -⟩ := target_flag target
  exact (option_apart accepted alone there found).symm

theorem value_apart (target : target? A token = some (.value x rule)) : a.envName ≠ x := by
  rcases target_value target with ⟨b, found, -, rfl, -⟩ | ⟨-, known, -⟩
  · exact (option_apart accepted alone there found).symm
  · rcases meta_cases known with ⟨-, rfl⟩ | ⟨-, rfl⟩
    · exact envName_apart (by decide)
    · exact envName_apart (by decide)

theorem given_kept {new : Stored} (target : target? A token = some (.value x rule)) (given : stored.give x rule value = some new) :
    new.values a.envName = stored.values a.envName := by
  obtain ⟨after, -, rfl⟩ := give_some given
  exact if_neg (value_apart accepted alone there target)

-- By induction on the command line: reading it stores nothing for a positional argument.
theorem read_kept (told : read A rest stored = .stored final) : final.values a.envName = stored.values a.envName := by
  fun_induction read A rest stored with
  | case1 stored => exact Outcome.stored.inj told ▸ rfl
  | case2 | case3 | case5 | case6 | case8 | case11 => cases told
  | case4 token rest stored x text meant more =>
    cases means_of meant with
    | flag ordinary target =>
      rw [more told]
      exact if_neg (flag_apart accepted alone there target)
  | case7 token stored x rule meant value rest new given more =>
    cases means_of meant with
    | value ordinary target => rw [more told, given_kept accepted alone there target given]
  | case9 token rest stored x rule value meant new given more =>
    cases means_of meant with
    | attached ordinary attached target => rw [more told, given_kept accepted alone there target given]
  | case10 token rest stored meant => exact Outcome.stored.inj told ▸ rfl
  | case12 token rest stored meant more => exact more told

end Kept

-- No more is collected than there is on the command line.
theorem read_fewer {A : List Argument} {rest : List String} {stored final : Stored} (told : read A rest stored = .stored final) :
    final.positionals.length ≤ stored.positionals.length + rest.length := by
  have given_same : ∀ {stored new : Stored} {x rule value}, stored.give x rule value = some new →
      new.positionals = stored.positionals := by
    intro stored new x rule value given
    obtain ⟨after, -, rfl⟩ := give_some given
    rfl
  fun_induction read A rest stored with
  | case1 stored => exact Outcome.stored.inj told ▸ le_rfl
  | case2 | case3 | case5 | case6 | case8 | case11 => cases told
  | case4 token rest stored x text meant more => exact (more told).trans (Nat.le_succ _)
  | case7 token stored x rule meant value rest new given more =>
    have bound := more told
    rw [given_same given] at bound
    exact bound.trans (by simp only [List.length_cons]; omega)
  | case9 token rest stored x rule value meant new given more =>
    have bound := more told
    rw [given_same given] at bound
    exact bound.trans (Nat.le_succ _)
  | case10 token rest stored meant =>
    obtain rfl := Outcome.stored.inj told
    simp [Stored.add]
  | case12 token rest stored meant more =>
    have bound := more told
    simp only [Stored.add, List.length_append, List.length_cons, List.length_nil] at bound ⊢
    omega

-- Where a wrapper ends that has given out its positional arguments.
def EndsShared (A : List Argument) (ran : Ending Unit) : Outcome → Prop
  | .stored final =>
    (Exceeds A final.positionals → ∃ t, ran = .error (.exit 1) t) ∧
    (¬Exceeds A final.positionals → ∃ t between, ran = .ok () t ∧
      (∀ x, x ≠ collected → between.value? x = final.values x) ∧ Shared A final.positionals between t)
  | .exits code => ∃ t, ran = .error (.exit code) t

-- A wrapper reads its command line and then gives out what it collected; the first of the two that ends the
-- program does so with its code.
theorem command_line_shared {A : List Argument} {s : Session} {rounds : Nat} (accepted : Accepted A)
    (alone : ∀ a ∈ A, a.isPositional = true → a.alternatives = []) (fresh : Fresh A s) (few : s.args.length < 2 ^ 63)
    (enough : s.args.length < rounds) (depth : Nat) (line : String) :
    EndsShared A (runScript (engine rounds (depth + 1)) (sections line A ++ positionals A) s)
      (read A s.args (start A s.value?)) := by
  let E := engine rounds (depth + 1)
  have reached := @sections_read E A s (engine rounds depth) rfl accepted fresh few enough line
  cases outcome : read A s.args (start A s.value?) with
  | exits code =>
    rw [outcome] at reached
    obtain ⟨t, ended⟩ := reached
    have whole : ComesTo (runScript E (sections line A ++ positionals A)) s (.error (.exit code) t) := by
      rw [runScript_append]
      exact ended.bind_error
    obtain ⟨n, ran⟩ := whole.run
    exact ⟨_, ran⟩
  | stored final =>
    rw [outcome] at reached
    obtain ⟨between, left, ended, holding⟩ := reached
    have unset : ∀ a ∈ placed A, final.values a.envName = none := by
      intro a there
      rw [read_kept accepted alone there outcome]
      exact if_pos (List.mem_map_of_mem (List.mem_filter.mp there).1)
    have fewer : final.positionals.length ≤ s.args.length := by
      simpa [start] using read_fewer outcome
    obtain ⟨exceeding, fitting⟩ := @positionals_comesTo E (engine rounds depth) A between final left rfl accepted holding unset
      (Nat.lt_of_le_of_lt fewer few) (Nat.lt_of_le_of_lt fewer enough)
    constructor
    · intro exceeds
      obtain ⟨t, stopped⟩ := exceeding exceeds
      obtain ⟨n, ran⟩ := (script_append ended stopped).run
      exact ⟨_, ran⟩
    · intro fits
      obtain ⟨t, done, shared⟩ := fitting fits
      obtain ⟨n, ran⟩ := (script_append ended done).run
      exact ⟨_, between, ran, holding.values, shared.later n⟩

-- A wrapper with an option between two positional arguments, the last of which takes what is left.
def ranked : List Argument :=
  [{ name := "input", body := .string {} }, { name := "--loud", body := .flag true {} },
    { name := "more", multiple := true, body := .string {} }]

theorem ranked_accepted : Accepted ranked := by
  have checked : checkArguments ranked = .ok () := ok_of_toOption (by decide)
  have wholes : ∀ a ∈ ranked, ∀ spelling ∈ a.spellings,
      Argument.isSpelling spelling.toList = true ∧ '\n' ∉ spelling.toList := by decide
  exact ⟨checked, wholes⟩

theorem command_line_shared_at_files : ∃ t,
    runScript (engine 7 1) (sections "tool 1.0" ranked ++ positionals ranked) (around ["x", "--loud", "y", "z"]) = .ok () t ∧
      t.value? "BW_PAR_INPUT" = some "x" ∧ t.value? "BW_PAR_MORE" = some "y:z" ∧ t.value? "BW_PAR_LOUD" = some "true" := by
  let s := around ["x", "--loud", "y", "z"]
  have ended := @command_line_shared ranked s 7 ranked_accepted (by decide) (around_fresh _ _) (by decide) (by decide) 0
    "tool 1.0"
  have told : (match read ranked s.args (start ranked s.value?) with
      | .stored final => some (final.values "BW_PAR_LOUD", final.positionals)
      | .exits _ => none) = some (some "true", ["x", "y", "z"]) := by decide
  cases outcome : read ranked s.args (start ranked s.value?) with
  | stored final =>
    rw [outcome] at ended told
    obtain ⟨loud, collected⟩ := Prod.mk.inj (Option.some.inj told)
    have fits : ¬Exceeds ranked final.positionals := fun exceeds => absurd (exceeds.2 ranked[2] rfl) (by decide)
    obtain ⟨t, between, ran, values, shared⟩ := ended.2 fits
    rw [collected] at shared
    have input : t.value? ranked[0].envName = some "x" := shared.single 0 ranked[0] rfl rfl
    have more : t.value? ranked[2].envName = some "y:z" := (shared.several ranked[2] rfl rfl).trans (by decide)
    have kept : t.value? "BW_PAR_LOUD" = some "true" :=
      (shared.others _ (by decide) (by decide)).trans ((values _ (by decide)).trans loud)
    exact ⟨t, ran, input, more, kept⟩
  | exits code =>
    rw [outcome] at told
    cases told

end Toolwrap.Parsing
