import Toolwrap.Proofs.Parsing.Tokens
import Toolwrap.Proofs.Running.Helping
import Toolwrap.Proofs.Running.Lists
import Toolwrap.Proofs.Running.Trimming

-- What the branches of the case come to: each goes on with what the grammar stores for
-- its token, or ends the program with the code that the grammar gives.

namespace Toolwrap.Parsing

open Shell Wrapper Running

def collected : String := "BW_POSITIONAL_ARGS"

-- The variables that a wrapper stores what it reads in.
def Owned (A : List Argument) (x : String) : Prop :=
  x ∈ A.map Argument.envName ∨ x ∈ metaFlags.map (·.2)

-- A session in which a wrapper can read its command line: its helpers are defined, what
-- it prints can be seen, and its variables are variables and nothing else.
structure Ready (A : List Argument) (s : Session) : Prop where
  quiet : Quiet s
  reports : Defines s "bw_error" errorEcho
  helps : ∃ text, Defines s "bw_help" (catText text)
  hosts : Hosts s "cat"
  output : s.channel 1 ≠ .closed
  errors : s.channel 2 ≠ .closed
  uncut : ∀ c ∈ s.separators.chars, c.isDigit = false
  named : Ordinarily s "BW_META_FUNCTIONALITY_NAME"
  ordinary : ∀ x, Owned A x → Ordinarily s x
  listed : Ordinarily s collected

-- A session in which something was stored, with what is left of its arguments.
structure Holding (A : List Argument) (stored : Stored) (rest : List String) (s : Session) : Prop where
  ready : Ready A s
  args : s.args = rest
  flat : ∀ x, Owned A x → Flat s x
  values : ∀ x, x ≠ collected → s.value? x = stored.values x
  lists : Lists s collected stored.positionals

-- A session on the way through a command line: what was stored, and what is left.
structure Along (A : List Argument) (stored : Stored) (rest : List String) (s : Session) : Prop
    extends Holding A stored rest s where
  looping : s.loops ≠ 0

section Sessions

variable {A : List Argument} {s : Session} {x value : String}

-- Readiness is a matter of variables, functions, files and channels alone.
theorem Ready.passing (ready : Ready A s) (args : List String) (status loops : Nat) (shielded : Bool) :
    Ready A { s with args, status, loops, shielded } :=
  ⟨ready.quiet, ready.reports, ready.helps, hosts_like ready.hosts rfl rfl rfl, ready.output,
    ready.errors, ready.uncut, ready.named, ready.ordinary, ready.listed⟩

theorem Ready.given (ready : Ready A s) (apart : x ≠ "IFS" ∧ x ≠ "PATH") :
    Ready A (given s x value) := by
  obtain ⟨ifs, path⟩ := apart
  have kept : ∀ y, x ≠ y → (Running.given s x value).value? y = s.value? y := by
    intro y other
    rw [given_value, if_neg other.symm]
  refine ⟨ready.quiet, ready.reports, ready.helps, hosts_like ready.hosts rfl rfl (kept _ path),
    ready.output, ready.errors, ?_, given_ordinarily ready.named,
    fun y owned => given_ordinarily (ready.ordinary y owned), given_ordinarily ready.listed⟩
  rw [separators_like (kept _ ifs)]
  exact ready.uncut

theorem listing_value {values : List String} (other : value ≠ x) :
    (listing s x values).value? value = s.value? value := by
  unfold Session.value?
  rw [listing_find, if_neg other]

theorem Ready.listing (ready : Ready A s) (values : List String) :
    Ready A (listing s collected values) := by
  refine ⟨ready.quiet, ready.reports, ready.helps,
    hosts_like ready.hosts rfl rfl (listing_value (by decide)), ready.output, ready.errors, ?_,
    listing_ordinarily ready.named, fun y owned => listing_ordinarily (ready.ordinary y owned),
    listing_ordinarily ready.listed⟩
  rw [separators_like (listing_value (by decide))]
  exact ready.uncut

variable {stored : Stored} {rest : List String}

theorem Holding.passing (holding : Holding A stored rest s) (status loops : Nat) (shielded : Bool) :
    Holding A stored rest { s with status, loops, shielded } :=
  ⟨holding.ready.passing s.args status loops shielded, holding.args, holding.flat, holding.values, holding.lists⟩

theorem Holding.shifted (holding : Holding A stored rest s) (n : Nat) :
    Holding A stored (rest.drop n) { s with args := s.args.drop n, status := 0 } :=
  ⟨holding.ready.passing (s.args.drop n) 0 s.loops s.shielded, by rw [holding.args], holding.flat,
    holding.values, holding.lists⟩

theorem Along.passing (along : Along A stored rest s) (status : Nat) (shielded : Bool) :
    Along A stored rest { s with status, shielded } :=
  ⟨along.toHolding.passing status s.loops shielded, along.looping⟩

theorem Along.shifted (along : Along A stored rest s) (n : Nat) :
    Along A stored (rest.drop n) { s with args := s.args.drop n, status := 0 } :=
  ⟨along.toHolding.shifted n, along.looping⟩

theorem lists_given {y : String} {values : List String} (other : x ≠ y) (lists : Lists s y values) :
    Lists (Running.given s x value) y values := by
  obtain ⟨v, found, content⟩ := lists
  refine ⟨v, ?_, content⟩
  rw [Running.given, find_put, if_neg other.symm]
  exact found

theorem Holding.given (holding : Holding A stored rest s) (apart : x ≠ "IFS" ∧ x ≠ "PATH" ∧ x ≠ collected) :
    Holding A (stored.set x value) rest { Running.given s x value with status := 0 } := by
  obtain ⟨ifs, path, other⟩ := apart
  have ready : Ready A (Running.given s x value) := holding.ready.given ⟨ifs, path⟩
  refine ⟨ready.passing s.args 0 s.loops s.shielded, holding.args,
    fun y owned => given_flat (holding.flat y owned), fun y free => ?_, lists_given other holding.lists⟩
  change (Running.given s x value).value? y = _
  rw [given_value, holding.values y free]
  rfl

theorem Along.given (along : Along A stored rest s)
    (apart : x ≠ "IFS" ∧ x ≠ "PATH" ∧ x ≠ collected) :
    Along A (stored.set x value) rest { Running.given s x value with status := 0 } :=
  ⟨along.toHolding.given apart, along.looping⟩

theorem Along.listing (along : Along A stored rest s) (more : List String)
    (unowned : ¬ Owned A collected) :
    Along A (stored.add more) rest
      { Running.listing s collected (stored.positionals ++ more) with status := 0 } := by
  have ready : Ready A (Running.listing s collected (stored.positionals ++ more)) :=
    along.ready.listing _
  refine ⟨⟨ready.passing s.args 0 s.loops s.shielded, along.args, fun y owned v found => ?_,
    fun y free => ?_, listing_lists⟩, along.looping⟩
  · have other : y ≠ collected := by
      rintro rfl
      exact unowned owned
    change (Running.listing s collected _).find? y = some v at found
    rw [listing_find, if_neg other] at found
    exact along.flat y owned v found
  · change (Running.listing s collected _).value? y = _
    rw [listing_value free, along.values y free]
    rfl

end Sessions

section Owned

variable {A : List Argument} {x : String}

theorem owned_own (accepted : Accepted A) (owned : Owned A x) : isOwn x = true := by
  rcases owned with argument | own
  · obtain ⟨a, listed, rfl⟩ := List.mem_map.mp argument
    exact envName_own (accepted.wholes a listed a.name (List.mem_cons_self ..))
  · have all : ∀ y ∈ metaFlags.map (·.2), isOwn y = true := by decide
    exact all x own

theorem owned_apart {y : String} (owned : Owned A x) (other : y.toList.take 7 ≠ "BW_PAR_".toList)
    (unlisted : y ∉ metaFlags.map (·.2)) : x ≠ y := by
  rcases owned with argument | own
  · obtain ⟨a, listed, rfl⟩ := List.mem_map.mp argument
    exact envName_apart other
  · rintro rfl
    exact unlisted own

theorem owned_free (owned : Owned A x) : x ≠ "IFS" ∧ x ≠ "PATH" ∧ x ≠ collected :=
  ⟨owned_apart owned (by decide) (by decide), owned_apart owned (by decide) (by decide),
    owned_apart owned (by decide) (by decide)⟩

theorem collected_unowned : ¬ Owned A collected := fun owned => (owned_free owned).2.2 rfl

end Owned

section Bodies

variable {E deeper : Engine} {A : List Argument} {s : Session} {stored : Stored}
  {rest : List String} {body : Script} {x value : String}

-- A body goes on with what is stored and left, or it ends the program.
def Goes (E : Engine) (A : List Argument) (body : Script) (s : Session) (stored : Stored)
    (rest : List String) : Prop :=
  ∃ t, ComesTo (runScript E body) s (.ok () t) ∧ Along A stored rest t

def Exits (E : Engine) (body : Script) (s : Session) (code : Nat) : Prop :=
  ∃ t, ComesTo (runScript E body) s (.error (.exit code) t)

theorem goes_exits {more : Script} {code : Nat} (goes : Goes E A body s stored rest)
    (exits : ∀ t, Along A stored rest t → Exits E more t code) : Exits E (body ++ more) s code := by
  obtain ⟨t, ran, along⟩ := goes
  obtain ⟨u, left⟩ := exits t along
  exact ⟨u, script_append ran left⟩

theorem goes_append {more : Script} {after : Stored} {left : List String}
    (goes : Goes E A body s stored rest)
    (next : ∀ t, Along A stored rest t → Goes E A more t after left) :
    Goes E A (body ++ more) s after left := by
  obtain ⟨t, ran, along⟩ := goes
  obtain ⟨u, went, further⟩ := next t along
  exact ⟨u, script_append ran went, further⟩

theorem exits_append {more : Script} {code : Nat} (exits : Exits E body s code) :
    Exits E (body ++ more) s code := by
  obtain ⟨t, left⟩ := exits
  refine ⟨t, ?_⟩
  rw [runScript_append]
  exact left.bind_error

variable (along : Along A stored rest s)

include along

theorem shift_goes {n : Nat} (small : n < 2 ^ 63) (enough : n ≤ rest.length) :
    Goes E A [shift n] s stored (rest.drop n) := by
  refine ⟨_, script_one along.ready.quiet (shift_comesTo along.ready.quiet small ?_), along.shifted n⟩
  rw [along.args]
  exact enough

theorem assign_goes (accepted : Accepted A) (owned : Owned A x) {word : Word}
    (read : Yields (Word.valueText E word) s value) :
    Goes E A [assign x word] s (stored.set x value) rest :=
  ⟨_, script_one along.ready.quiet (assign_comesTo along.ready.quiet (owned_own accepted owned)
    (along.ready.ordinary x owned) (along.flat x owned) read), along.given (owned_free owned)⟩

omit along in
theorem Ready.fatal (ready : Ready A s) (runs : E.script = runScript deeper) {message : List Part} {text : String}
    (spelled : Spells E s message text) : Exits E (fatalHint message) s 1 :=
  fatalHint_comesTo runs ready.quiet ready.named ready.errors ready.reports spelled

theorem fatal_exits (runs : E.script = runScript deeper) {message : List Part} {text : String}
    (spelled : Spells E s message text) : Exits E (fatalHint message) s 1 :=
  along.ready.fatal runs spelled

section Checks

variable {a : Argument} {spelling old : String}

omit along in
theorem asked_set (along : Along A stored rest s) (accepted : Accepted A) (owned : Owned A x) :
    ComesTo (runScript E [isSet x]) { s with shielded := true }
      (.ok () { s with shielded := true, status := if (stored.values x).isSome then 0 else 1 }) := by
  have quiet : Quiet { s with shielded := true } := along.ready.quiet
  rw [← along.values x (owned_free owned).2.2]
  exact script_one quiet (isSet_comesTo quiet (owned_own accepted owned)
    (along.ready.ordinary x owned) rfl)

theorem once_goes (accepted : Accepted A) (owned : Owned A a.envName)
    (free : a.multiple = true ∨ stored.values a.envName = none) :
    Goes E A (onceOnly a spelling) s stored rest := by
  unfold onceOnly
  by_cases several : a.multiple = true
  · rw [if_pos several]
    exact ⟨s, script_nil, along⟩
  · rw [if_neg several]
    have absent := free.resolve_left several
    have asked := asked_set (E := E) along accepted owned
    rw [absent] at asked
    exact ⟨_, script_one along.ready.quiet (if_skips asked Nat.one_ne_zero), along.passing 0 s.shielded⟩

theorem once_exits (runs : E.script = runScript deeper) (accepted : Accepted A)
    (owned : Owned A a.envName) (single : a.multiple = false)
    (there : stored.values a.envName = some old) : Exits E (onceOnly a spelling) s 1 := by
  unfold onceOnly
  rw [single]
  have asked := asked_set (E := E) along accepted owned
  rw [there] at asked
  obtain ⟨t, left⟩ := fatal_exits (along.passing 0 s.shielded) runs (spells_text
    ("Bad arguments for option '" ++ spelling ++ "': got more than one value."))
  exact ⟨t, script_one along.ready.quiet (if_holds asked rfl left)⟩

theorem asked_fewer (few : rest.length < 2 ^ 63) :
    ComesTo (runScript E [lacksValue]) { s with shielded := true }
      (.ok () { s with shielded := true, status := if rest.length < 2 then 0 else 1 }) := by
  have quiet : Quiet { s with shielded := true } := along.ready.quiet
  rw [← along.args] at few ⊢
  exact script_one quiet (@fewer_comesTo E { s with shielded := true } 2 quiet along.ready.uncut few
    (by decide) rfl)

theorem need_goes (few : rest.length < 2 ^ 63) (enough : 2 ≤ rest.length) (subject : List Part) :
    Goes E A [needValue subject] s stored rest := by
  have asked := asked_fewer (E := E) along few
  rw [if_neg (Nat.not_lt.mpr enough)] at asked
  exact ⟨_, script_one along.ready.quiet (if_skips asked Nat.one_ne_zero), along.passing 0 s.shielded⟩

theorem need_exits (runs : E.script = runScript deeper) (lacking : rest.length < 2) (subject : String) :
    Exits E [needValue [.text subject]] s 1 := by
  have asked := asked_fewer (E := E) along (Nat.lt_trans lacking (by decide))
  rw [if_pos lacking] at asked
  obtain ⟨t, left⟩ := fatal_exits (along.passing 0 s.shielded) runs
    (spells_cons (spells_text "Not enough arguments passed to ")
      (spells_cons (spells_text subject) (spells_text ".")))
  exact ⟨t, script_one along.ready.quiet (if_holds asked rfl left)⟩

end Checks

section Storing

variable {a : Argument} {parts : List Part} {new : String}

-- A value is stored as the rule of its argument asks for.
omit along in
theorem store_comesTo (holding : Holding A stored rest s) (accepted : Accepted A) (listed : a ∈ A)
    (spelled : ∀ t, Quiet t → t.args = rest → Spells E t parts value)
    (allowed : (ruleOf a).store (stored.values a.envName) value = some new) :
    ComesTo (runScript E [storeValue a parts]) s (.ok () { given s a.envName new with status := 0 }) := by
  have owned : Owned A a.envName := Or.inl (List.mem_map_of_mem listed)
  have own := owned_own accepted owned
  have written : ∀ status, ∀ parts value, Spells E { s with status } parts value →
      ComesTo (runScript E [assignQuoted a.envName parts]) { s with status }
        (.ok () { given s a.envName value with status := 0 }) := by
    intro status parts value spelled
    have further := holding.passing status s.loops s.shielded
    exact script_one further.ready.quiet (assign_comesTo further.ready.quiet own (further.ready.ordinary _ owned)
      (further.flat _ owned) (double_valueText spelled))
  unfold storeValue
  unfold ruleOf at allowed
  by_cases several : a.multiple = true
  · rw [if_pos several] at allowed ⊢
    have quiet : Quiet { s with shielded := true } := holding.ready.quiet
    have asked : ComesTo (runScript E [isUnset a.envName]) { s with shielded := true } (.ok ()
        { s with shielded := true, status := if (stored.values a.envName).isNone then 0 else 1 }) := by
      rw [← holding.values _ (owned_free owned).2.2]
      exact script_one quiet (isUnset_comesTo quiet own (holding.ready.ordinary _ owned) rfl)
    cases before : stored.values a.envName with
    | none =>
      rw [before] at allowed asked
      obtain rfl := Option.some.inj allowed
      have further := holding.passing 0 s.loops s.shielded
      exact script_one holding.ready.quiet
        (if_holds asked rfl (written 0 parts value (spelled _ further.ready.quiet further.args)))
    | some old =>
      rw [before] at allowed asked
      obtain rfl := Option.some.inj allowed
      have further := holding.passing 1 s.loops s.shielded
      have there : ({ s with status := 1 } : Session).value? a.envName = some old := by
        rw [← before, ← holding.values _ (owned_free owned).2.2]
        rfl
      have joined : Spells E { s with status := 1 }
          (.param a.envName [] .braced :: literal a.separatorText ++ parts)
          (old ++ a.separatorText ++ value) := by
        have stands := stands_own own (further.ready.ordinary _ owned)
        have first := braced_spells (E := E) further.ready.quiet stands
        rw [show ({ s with status := 1, loops := s.loops, shielded := s.shielded } : Session).value? a.envName = some old
          from there] at first
        rw [String.append_assoc]
        exact spells_cons first (spells_append (spells_literal _)
          (spelled _ further.ready.quiet further.args))
      exact script_one holding.ready.quiet (if_fails asked Nat.one_ne_zero (written 1 _ _ joined))
  · rw [if_neg several] at allowed ⊢
    cases before : stored.values a.envName with
    | none =>
      rw [before] at allowed
      obtain rfl := Option.some.inj allowed
      exact written s.status parts value (spelled s holding.ready.quiet holding.args)
    | some old =>
      rw [before] at allowed
      cases allowed

theorem store_goes (accepted : Accepted A) (listed : a ∈ A)
    (spelled : ∀ t, Quiet t → t.args = rest → Spells E t parts value)
    (allowed : (ruleOf a).store (stored.values a.envName) value = some new) :
    Goes E A [storeValue a parts] s (stored.set a.envName new) rest :=
  ⟨_, store_comesTo along.toHolding accepted listed spelled allowed,
    along.given (owned_free (Or.inl (List.mem_map_of_mem listed)))⟩

end Storing

end Bodies

-- The texts of the arguments as the branches take them.
section Taken

variable {E : Engine} {s : Session} {token front value : String} {rest : List String}

theorem second_spells (quiet : Quiet s) (args : s.args = token :: value :: rest) :
    Spells E s [ref "2"] value := by
  have stands : Stands s "2" s.args[1]? := stands_argument (@toNat?_digit '2' rfl) (by decide)
  rw [args] at stands
  exact plain_spells quiet stands

theorem first_stands (args : s.args = token :: rest) : Stands s "1" (some token) := by
  have stands : Stands s "1" s.args[0]? := stands_argument (@toNat?_digit '1' rfl) (by decide)
  rwa [args] at stands

theorem attached_spells (quiet : Quiet s) (args : s.args = token :: rest)
    (attached : attached? token = some (front, value)) : Spells E s attachedValue value := by
  obtain ⟨shape, unequal⟩ := attached_shape attached
  have same : token = front ++ String.singleton '=' ++ value := by
    rw [← String.toList_inj, shape]
    simp
  have trimmed : bareTrim false false "*=" token = value := by
    rw [same]
    exact behind_trim rfl unequal rfl
  have spelled := @trim_spells E s "1" "*=" token quiet (first_stands args) (by decide) false false
  rw [trimmed] at spelled
  exact spelled

end Taken

section Values

variable {E deeper : Engine} {A : List Argument} {s : Session} {stored new : Stored}
  {token front value x : String} {rule : Rule} {rest : List String} {body also : Script}

theorem give_some (allowed : stored.give x rule value = some new) :
    ∃ after, rule.store (stored.values x) value = some after ∧ new = stored.set x after := by
  obtain ⟨after, found, same⟩ := Option.map_eq_some_iff.mp allowed
  exact ⟨after, found, same.symm⟩

-- Only a second value for an argument that takes one is refused.
theorem give_none (refused : stored.give x rule value = none) :
    rule = .once ∧ ∃ old, stored.values x = some old := by
  have none_ := Option.map_eq_none_iff.mp refused
  cases there : stored.values x with
  | none => cases rule <;> rw [there] at none_ <;> cases none_
  | some old =>
    cases rule with
    | once => exact ⟨rfl, old, rfl⟩
    | _ =>
      rw [there] at none_
      cases none_

variable (runs : E.script = runScript deeper) (accepted : Accepted A)

include accepted

theorem checked_goes {a : Argument} (listed : a ∈ A) (spelling : String)
    (along : Along A stored rest s) {after : String}
    (allowed : (ruleOf a).store (stored.values a.envName) value = some after) :
    Goes E A (onceOnly a spelling) s stored rest := by
  refine once_goes along accepted (Or.inl (List.mem_map_of_mem listed)) ?_
  by_cases several : a.multiple = true
  · exact Or.inl several
  · right
    unfold ruleOf at allowed
    rw [if_neg several] at allowed
    cases before : stored.values a.envName with
    | none => rfl
    | some old =>
      rw [before] at allowed
      cases allowed

theorem value_goes (storing : Storing A token x rule body also)
    (along : Along A stored (token :: value :: rest) s) (few : (token :: value :: rest).length < 2 ^ 63)
    (allowed : stored.give x rule value = some new) : Goes E A body s new rest := by
  obtain ⟨after, found, rfl⟩ := give_some allowed
  have enough : 2 ≤ (token :: value :: rest).length := by simp
  cases storing with
  | argument listed valued =>
    refine goes_append (checked_goes accepted listed token along found) fun t along => ?_
    refine goes_append (need_goes along few enough _) fun t along => ?_
    refine goes_append (store_goes along accepted listed
      (fun u quiet args => second_spells quiet args) found) fun t along => ?_
    exact shift_goes along (by decide) enough
  | meta_ known =>
    have owned : Owned A x := by
      right
      rcases meta_cases known with ⟨_, rfl⟩ | ⟨_, rfl⟩ <;> decide
    obtain rfl := Option.some.inj found
    refine goes_append (need_goes along few enough _) fun t along => ?_
    refine goes_append (assign_goes along accepted owned
      (double_valueText (second_spells along.ready.quiet along.args))) fun t along => ?_
    exact shift_goes along (by decide) enough

theorem attached_goes (storing : Storing A front x rule body also)
    (along : Along A stored (token :: rest) s) (attached : attached? token = some (front, value))
    (allowed : stored.give x rule value = some new) : Goes E A also s new rest := by
  obtain ⟨after, found, rfl⟩ := give_some allowed
  have enough : 1 ≤ (token :: rest).length := by simp
  cases storing with
  | argument listed valued =>
    refine goes_append (checked_goes accepted listed front along found) fun t along => ?_
    refine goes_append (store_goes along accepted listed
      (fun u quiet args => attached_spells quiet args attached) found) fun t along => ?_
    exact shift_goes along (by decide) enough
  | meta_ known =>
    have owned : Owned A x := by
      right
      rcases meta_cases known with ⟨_, rfl⟩ | ⟨_, rfl⟩ <;> decide
    obtain rfl := Option.some.inj found
    refine goes_append (assign_goes along accepted owned
      (double_valueText (attached_spells along.ready.quiet along.args attached))) fun t along => ?_
    exact shift_goes along (by decide) enough

include runs

theorem checked_exits {a : Argument} (listed : a ∈ A) (spelling : String)
    (along : Along A stored rest s) (refused : stored.give a.envName (ruleOf a) value = none) :
    Exits E (onceOnly a spelling) s 1 := by
  obtain ⟨once, old, there⟩ := give_none refused
  refine once_exits along runs accepted (Or.inl (List.mem_map_of_mem listed)) ?_ there
  unfold ruleOf at once
  split at once
  · cases once
  · rename_i single
    exact Bool.not_eq_true _ ▸ single

theorem value_exits (storing : Storing A token x rule body also)
    (along : Along A stored (token :: rest) s)
    (refused : rest = [] ∨ ∃ value, stored.give x rule value = none) : Exits E body s 1 := by
  cases storing with
  | argument listed valued =>
    rename_i a
    by_cases full : ∃ value, stored.give a.envName (ruleOf a) value = none
    · obtain ⟨value, never⟩ := full
      exact exits_append (checked_exits runs accepted listed token along never)
    · have nothing := refused.resolve_right full
      subst nothing
      cases given : stored.give a.envName (ruleOf a) "" with
      | none => exact absurd ⟨"", given⟩ full
      | some new =>
        obtain ⟨after, found, _⟩ := give_some given
        refine goes_exits (checked_goes accepted listed token along found) fun t along => ?_
        exact exits_append (need_exits along runs Nat.one_lt_two token)
  | meta_ known =>
    have nothing : rest = [] := by
      rcases refused with nothing | ⟨value, never⟩
      · exact nothing
      · cases (give_none never).1
    subst nothing
    exact exits_append (need_exits along runs Nat.one_lt_two token)

theorem attached_exits (storing : Storing A front x rule body also)
    (along : Along A stored rest s) (refused : stored.give x rule value = none) :
    Exits E also s 1 := by
  cases storing with
  | argument listed valued => exact exits_append (checked_exits runs accepted listed front along refused)
  | meta_ known => cases (give_none refused).1

end Values

section Others

variable {E deeper : Engine} {A : List Argument} {s : Session} {stored : Stored}
  {token x : String} {rest : List String}

theorem truth_value (b : Bool) : Yields (Word.valueText E (bare (truthText b))) s (truthText b) := by
  intro m
  cases b <;> rfl

theorem flag_goes (accepted : Accepted A) (owned : Owned A x) (b : Bool)
    (along : Along A stored (token :: rest) s) :
    Goes E A (flagBody x (truthText b)) s (stored.set x (truthText b)) rest :=
  goes_append (assign_goes along accepted owned (truth_value b)) fun _ along =>
    shift_goes along (by decide) (Nat.le_add_left 1 rest.length)

theorem positional_goes (along : Along A stored (token :: rest) s) :
    Goes E A [addItems collected [quotedRef "1"], shift 1] s (stored.add [token]) rest := by
  have first : Yields (Word.fields E (quotedRef "1")) s [token] :=
    double_fields (plain_spells along.ready.quiet (first_stands along.args))
  have added := added_comesTo along.ready.quiet (by decide) along.ready.listed along.lists first
  exact goes_append ⟨_, script_one along.ready.quiet added, along.listing [token] collected_unowned⟩
    fun _ along => shift_goes along (by decide) (Nat.le_add_left 1 rest.length)

theorem unknown_exits (runs : E.script = runScript deeper) (along : Along A stored (token :: rest) s) :
    Exits E (fatalHint [.text "Unrecognized argument '", ref "1", .text "'."]) s 1 :=
  fatal_exits along runs (spells_cons (spells_text _)
    (spells_cons (plain_spells along.ready.quiet (first_stands along.args)) (spells_text _)))

-- Behind two dashes all that is left is positional, and the loop is left.
theorem terminator_breaks (along : Along A stored (token :: rest) s) :
    ∃ t, ComesTo (runScript E [shift 1, addItems collected [[.double [ref "@"]]], say ["break"]]) s
      (.error (.broke 1) t) ∧ Along A (stored.add rest) rest t := by
  obtain ⟨t, shifted, further⟩ := shift_goes (E := E) along (by decide) (Nat.le_add_left 1 rest.length)
  have all : Yields (Word.fields E [.double [ref "@"]]) t rest := by
    have fields := arguments_fields (E := E) (s := t)
    rwa [further.args] at fields
  have added := added_comesTo further.ready.quiet (by decide) further.ready.listed further.lists all
  have done := further.listing rest collected_unowned
  refine ⟨_, ?_, done.passing 0 t.shielded⟩
  refine @script_append E s t _ [shift 1] _ shifted (script_cons further.ready.quiet added ?_)
  exact script_stops done.ready.quiet (break_comesTo done.ready.quiet further.looping)

end Others

end Toolwrap.Parsing
