import Toolwrap.Proofs.Parsing.Bodies
-- One round of the loop over the command line, by the token that it meets.

namespace Toolwrap.Parsing

open Shell Wrapper Running

def caseOfFirst (line : String) (A : List Argument) : Command :=
  .caseOf (quotedRef "1") (loopClauses line A)

def parsingRound (E : Engine) (line : String) (A : List Argument) (last : Nat) : Run (Option Nat) :=
  whileRound E false [hasArguments] [caseOfFirst line A] last

section Rounds

variable {E : Engine} {A : List Argument} {line token : String} {s : Session} {stored new : Stored}
  {rest left : List String} {body : Script} {last : Nat}

theorem asked_arguments (holding : Holding A stored rest s) (few : rest.length < 2 ^ 63) :
    ComesTo (runScript E [hasArguments]) { s with shielded := true }
      (.ok () { s with shielded := true, status := if 0 < rest.length then 0 else 1 }) := by
  have quiet : Quiet { s with shielded := true } := holding.ready.quiet
  rw [← holding.args] at few ⊢
  have asked := test_comesTo (E := E) quiet (hasArguments_holds quiet few) (Or.inr (Or.inl rfl))
  by_cases some_ : 0 < s.args.length
  · rw [if_pos some_]
    simp only [some_, decide_true] at asked
    exact script_one quiet asked
  · rw [if_neg some_]
    simp only [some_, decide_false] at asked
    exact script_one quiet asked

-- Nothing left ends the loop.
theorem round_ends (along : Along A stored [] s) :
    ∃ t, ComesTo (parsingRound E line A last) s (.ok none t) ∧ Along A stored [] t :=
  ⟨_, round_over (asked_arguments along.toHolding (by decide)) rfl, along.passing (last % 256) s.shielded⟩

theorem asked_more (holding : Holding A stored (token :: rest) s) (few : (token :: rest).length < 2 ^ 63) :
    ComesTo (runScript E [hasArguments]) { s with shielded := true }
      (.ok () { s with shielded := true, status := 0 }) := by
  have asked := asked_arguments (E := E) holding few
  have more : 0 < (token :: rest).length := Nat.succ_pos rest.length
  rwa [if_pos more] at asked

section Token

variable (last) (chosen : Chosen token (loopClauses line A) body) (filled : body ≠ [])

include chosen filled

-- The case comes to what the body of the branch comes to that its token leads to.
theorem case_runs {r : Ending Unit} (along : Along A stored (token :: rest) s)
    (ran : ComesTo (runScript E body) s r) :
    ComesTo (runScript E [caseOfFirst line A]) s r := by
  have quiet := along.ready.quiet
  exact script_one quiet (case_comesTo quiet
    (double_text (plain_spells quiet (first_stands along.args)))
    (chosen_comesTo quiet chosen filled ran))

variable (along : Along A stored (token :: rest) s) (few : (token :: rest).length < 2 ^ 63)

include along few

theorem round_goes (goes : ∀ t, Along A stored (token :: rest) t → Goes E A body t new left) :
    ∃ t status, ComesTo (parsingRound E line A last) s (.ok (some status) t) ∧
      Along A new left t := by
  have further := along.passing 0 s.shielded
  obtain ⟨t, ran, done⟩ := goes _ further
  exact ⟨t, t.status, round_more (asked_more along.toHolding few) nofun
    (case_runs chosen filled further ran), done⟩

theorem round_exits {code : Nat}
    (exits : ∀ t, Along A stored (token :: rest) t → Exits E body t code) :
    ∃ t, ComesTo (parsingRound E line A last) s (.error (.exit code) t) := by
  have further := along.passing 0 s.shielded
  obtain ⟨t, ran⟩ := exits _ further
  exact ⟨t, round_exit (asked_more along.toHolding few) nofun (case_runs chosen filled further ran)⟩

theorem round_breaks (breaks : ∀ t, Along A stored (token :: rest) t →
      ∃ u, ComesTo (runScript E body) t (.error (.broke 1) u) ∧ Along A new left u) :
    ∃ t, ComesTo (parsingRound E line A last) s (.ok none t) ∧ Along A new left t := by
  have further := along.passing 0 s.shielded
  obtain ⟨t, ran, done⟩ := breaks _ further
  exact ⟨t, round_broke (asked_more along.toHolding few) nofun
    (case_runs chosen filled further ran), done⟩

end Token

end Rounds

-- The loop over the command line comes to what the grammar reads off it.

-- Where the loop ends when it reads what an outcome is about.
def Reaches (E : Engine) (line : String) (A : List Argument) (rounds last : Nat) (s : Session) :
    Outcome → Prop
  | .stored final => ∃ t left,
      ComesTo (loopWhile (parsingRound E line A) rounds last) s (.ok () t) ∧ Along A final left t
  | .exits code => ∃ t,
      ComesTo (loopWhile (parsingRound E line A) rounds last) s (.error (.exit code) t)

section Loop

variable {E deeper : Engine} {A : List Argument} {line token : String} {s : Session}
  {stored new : Stored} {rest left : List String} {body : Script} {rounds last : Nat}

section Token

variable (chosen : Chosen token (loopClauses line A) body) (filled : body ≠ [])
  (along : Along A stored (token :: rest) s) (few : (token :: rest).length < 2 ^ 63)
  (enough : (token :: rest).length < rounds)

include chosen filled along few enough

-- What is left is read in the rounds that are left.
theorem reaches_goes {outcome : Outcome} (shorter : left.length ≤ rest.length)
    (goes : ∀ t, Along A stored (token :: rest) t → Goes E A body t new left)
    (further : ∀ t status rounds, Along A new left t → left.length < 2 ^ 63 → left.length < rounds →
      Reaches E line A rounds status t outcome) :
    Reaches E line A rounds last s outcome := by
  obtain ⟨t, status, one, ahead⟩ := round_goes last chosen filled along few goes
  rw [List.length_cons] at few enough
  obtain ⟨rounds, rfl⟩ := Nat.exists_eq_succ_of_ne_zero (Nat.ne_zero_of_lt enough)
  have reached := further t status rounds ahead (by omega) (by omega)
  cases outcome with
  | stored final =>
    obtain ⟨u, unread, ended, done⟩ := reached
    exact ⟨u, unread, while_goes ahead.ready.quiet one ended, done⟩
  | exits code =>
    obtain ⟨u, ended⟩ := reached
    exact ⟨u, while_goes ahead.ready.quiet one ended⟩

theorem reaches_exit {code : Nat}
    (exits : ∀ t, Along A stored (token :: rest) t → Exits E body t code) :
    Reaches E line A rounds last s (.exits code) := by
  obtain ⟨t, ended⟩ := round_exits last chosen filled along few exits
  obtain ⟨rounds, rfl⟩ := Nat.exists_eq_succ_of_ne_zero (Nat.ne_zero_of_lt enough)
  exact ⟨t, while_stops ended⟩

theorem reaches_break (breaks : ∀ t, Along A stored (token :: rest) t →
      ∃ u, ComesTo (runScript E body) t (.error (.broke 1) u) ∧ Along A new left u) :
    Reaches E line A rounds last s (.stored new) := by
  obtain ⟨t, ended, done⟩ := round_breaks last chosen filled along few breaks
  obtain ⟨rounds, rfl⟩ := Nat.exists_eq_succ_of_ne_zero (Nat.ne_zero_of_lt enough)
  exact ⟨t, left, while_ends ended, done⟩

end Token

theorem storing_filled {front x : String} {rule : Rule} {also : Script}
    (storing : Storing A front x rule body also) : body ≠ [] ∧ also ≠ [] := by
  cases storing with
  | argument listed valued =>
    exact ⟨List.append_ne_nil_of_right_ne_nil _ (List.cons_ne_nil _ _),
      List.append_ne_nil_of_right_ne_nil _ (List.cons_ne_nil _ _)⟩
  | meta_ known => exact ⟨List.cons_ne_nil _ _, List.cons_ne_nil _ _⟩

-- By induction on what is left of the command line: each round reads one token, or two
-- where the first one takes the second as its value.
theorem loop_reads (runs : E.script = runScript deeper) (accepted : Accepted A)
    (along : Along A stored rest s) (few : rest.length < 2 ^ 63) (enough : rest.length < rounds) :
    Reaches E line A rounds last s (read A rest stored) := by
  fun_induction read A rest stored generalizing s rounds last with
  | case1 stored =>
    obtain ⟨t, ended, done⟩ := @round_ends E _ line _ _ last along
    obtain ⟨rounds, rfl⟩ := Nat.exists_eq_succ_of_ne_zero (Nat.ne_zero_of_lt enough)
    exact ⟨t, [], while_ends ended, done⟩
  | case2 token rest stored told =>
    cases means_of told with
    | help asked =>
      refine reaches_exit (help_chosen asked) (List.cons_ne_nil _ _) along few enough fun t along => ?_
      obtain ⟨text, helps⟩ := along.ready.helps
      exact help_comesTo runs along.ready.quiet along.ready.hosts helps
  | case3 token rest stored told =>
    cases means_of told with
    | version asked =>
      subst asked
      refine reaches_exit version_chosen (List.cons_ne_nil _ _) along few enough fun t along => ?_
      exact version_comesTo along.ready.quiet along.ready.output line
  | case4 token rest stored x text told more =>
    cases means_of told with
    | flag ordinary target =>
      have chosen := @flag_chosen _ _ _ _ line accepted ordinary target
      obtain ⟨a, b, found, -, rfl, rfl⟩ := target_flag target
      have owned : Owned A a.envName := Or.inl (List.mem_map_of_mem (List.mem_of_find?_eq_some found))
      exact reaches_goes chosen (List.cons_ne_nil _ _) along few enough
        le_rfl (fun t along => flag_goes accepted owned b along)
        fun t status rounds along few enough => more along few enough
  | case5 token stored x rule told =>
    cases means_of told with
    | value ordinary target =>
      obtain ⟨body, also, storing, chosen⟩ := value_chosen accepted ordinary target
      exact reaches_exit chosen (storing_filled storing).1 along few enough
        fun t along => value_exits runs accepted storing along (Or.inl rfl)
  | case6 token stored x rule told value rest refused =>
    cases means_of told with
    | value ordinary target =>
      obtain ⟨body, also, storing, chosen⟩ := value_chosen accepted ordinary target
      exact reaches_exit chosen (storing_filled storing).1 along few enough
        fun t along => value_exits runs accepted storing along (Or.inr ⟨value, refused⟩)
  | case7 token stored x rule told value rest new allowed more =>
    cases means_of told with
    | value ordinary target =>
      obtain ⟨body, also, storing, chosen⟩ := value_chosen accepted ordinary target
      exact reaches_goes chosen (storing_filled storing).1 along few enough
        (Nat.le_succ _) (fun t along => value_goes accepted storing along few allowed)
        fun t status rounds along few enough => more along few enough
  | case8 token rest stored x rule value told refused =>
    cases means_of told with
    | attached ordinary attached target =>
      obtain ⟨body, also, storing, chosen⟩ := attached_chosen_between accepted ordinary attached target
      exact reaches_exit chosen (storing_filled storing).2 along few enough
        fun t along => attached_exits runs accepted storing along refused
  | case9 token rest stored x rule value told new allowed more =>
    cases means_of told with
    | attached ordinary attached target =>
      obtain ⟨body, also, storing, chosen⟩ := attached_chosen_between accepted ordinary attached target
      exact reaches_goes chosen (storing_filled storing).2 along few enough
        le_rfl (fun t along => attached_goes accepted storing along attached allowed)
        fun t status rounds along few enough => more along few enough
  | case10 token rest stored told =>
    cases means_of told with
    | terminator other told =>
      exact reaches_break (terminator_chosen accepted other told) (List.cons_ne_nil _ _) along few
        enough fun t along => terminator_breaks along
  | case11 token rest stored told =>
    cases means_of told with
    | unknown other told =>
      exact reaches_exit (unknown_chosen accepted other told) (List.cons_ne_nil _ _) along few enough
        fun t along => unknown_exits runs along
  | case12 token rest stored told more =>
    cases means_of told with
    | positional other told =>
      exact reaches_goes (positional_chosen accepted other told) (List.cons_ne_nil _ _) along few enough
        le_rfl (fun t along => positional_goes along)
        fun t status rounds along few enough => more along few enough

end Loop

end Toolwrap.Parsing
