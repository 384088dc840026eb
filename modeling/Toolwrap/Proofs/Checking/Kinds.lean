import Toolwrap.Proofs.Integers.Order
import Toolwrap.Proofs.Memory.Function
import Toolwrap.Proofs.Running.Elements
import Toolwrap.Wrapper.Validation

-- What is tested of a value, one check behind the other, and the first of them: that it is written
-- as its kind is, which a regular expression says.

namespace Toolwrap.Checking

open Shell Running

-- `local regex='…'; [[ "$1" =~ $regex ]]`
def kindBody (pattern : String) (n : Nat) : Command := .located n (.group [
  .located (n + 1) (run [bare "local", [.text "regex=", .single pattern]]),
  .located (n + 2) (.test (.binary (quotedRef "1") "=~" [ref "regex"]))])

def wholeText : String := "^[-+]?[0-9]+$"

def decimalText : String := "^[-+]?(\\.[0-9]+|[0-9]+(\\.[0-9]*)?)([eE][-+]?[0-9]+)?$"

def booleanText : String := "^(true|True|TRUE|false|False|FALSE|yes|Yes|YES|no|No|NO)$"

def decimalLess (n : Nat) : Command := .located n (.group [
  .located (n + 1) (run [bare "awk", bare "-v", [.text "a=", .double [ref "1"]], bare "-v", [.text "b=", .double [ref "2"]],
    [.single "BEGIN \x7b exit !(a + 0 < b + 0) \x7d"]])])

def arrayLines (n : Nat) : Script := [
  .located (n + 1) (run [bare "local", [.text "needle=", .double [ref "1"]]]),
  .located (n + 2) (say ["local", "item"]),
  .located (n + 3) (say ["shift"]),
  .located (n + 4) (.forIn "item" (some [quotedRef "@"]) [.located (n + 5) (foundReturn "item" "needle" (n + 5))]),
  .located (n + 9) (say ["return", "1"])]

def arrayBody (n : Nat) : Command := .located n (.group (arrayLines n))

set_option maxRecDepth 100000 in
theorem checks_read : (Program.read false (Text.unlines Wrapper.Functions.typeChecks)).script = [
    .located 2 (.function "bw_is_integer" (kindBody wholeText 2)),
    .located 6 (.function "bw_is_double" (kindBody decimalText 6)),
    .located 10 (.function "bw_is_boolean" (kindBody booleanText 10)),
    .located 16 (.function "bw_double_less" (decimalLess 16)),
    .located 21 (.function "bw_in_array" (arrayBody 21))] := by
  apply script_read
  case chars =>
    apply unlines_chars
    dsimp only [Wrapper.Functions.typeChecks]
    repeat' with_reducible first
      | exact .nil
      | apply List.Forall₂.cons
      | exact String.toList_ofList
  case open_ => decide
  case same => decide +kernel

-- The names that are looked up while a value is tested.
def usedNames : List String :=
  ["needle", "item"] ++ ["regex", "BASH_REMATCH", "BW_VAL", "BW_META_FUNCTIONALITY_NAME"] ++ Integers.lessNames

-- A session in which values can be tested: the functions that test them are in force.
structure Serving (s : Session) : Prop where
  quiet : Quiet s
  uncut : ∀ d ∈ s.separators.chars, d.isDigit = false
  heard : s.channel 2 ≠ .closed
  filled : s.scopes ≠ []
  plain : ∀ z ∈ usedNames, Ordinarily s z
  reports : Provides s Wrapper.Functions.reporting
  tests : Provides s Wrapper.Functions.typeChecks
  compares : Provides s Wrapper.Functions.integerLess

-- A session in which one value is tested.
structure Testing (s : Session) (x : String) : Prop extends Serving s where
  value : s.value? "BW_VAL" = some x

-- A script that lets the value through, and one that ends the program with the code one.
def Accepts (E : Engine) (checks : Script) (s : Session) : Prop := ∃ t, runScript E checks s = .ok () t

def Refuses (E : Engine) (checks : Script) (s : Session) : Prop := ∃ t, runScript E checks s = .error (.exit 1) t

-- What a check comes to: the value is let through as it is, or the program ends.
structure Decides (E : Engine) (checks : Script) (s : Session) (x : String) (p : Prop) : Prop where
  accepts : p → ∃ t, ComesTo (runScript E checks) s (.ok () t) ∧ Testing t x
  refuses : ¬ p → ∃ t, ComesTo (runScript E checks) s (.error (.exit 1) t)

section Deciding

variable {E deeper : Engine} {s : Session} {x : String} {first second checks : Script} {p q : Prop}

theorem Testing.passed (testing : Testing s x) (status : Nat) (shielded givesWay : Bool) :
    Testing { s with status, shielded, givesWay } x := { testing with }

theorem Testing.spells (testing : Testing s x) : Spells E s [ref "BW_VAL"] x := by
  refine value_spells testing.quiet ?_
  rw [← testing.value]
  exact stands_own (by decide) (testing.plain _ (by decide))

theorem decides_none (testing : Testing s x) : Decides E [] s x True where
  accepts _ := ⟨s, script_nil, testing⟩
  refuses untrue := absurd trivial untrue

theorem Decides.congr (decides : Decides E checks s x p) (same : p ↔ q) : Decides E checks s x q where
  accepts holds := decides.accepts (same.mpr holds)
  refuses fails := decides.refuses (mt same.mp fails)

-- Of two checks, the second one is made of what the first one lets through.
theorem Decides.append (one : Decides E first s x p) (other : p → ∀ t, Testing t x → Decides E second t x q) :
    Decides E (first ++ second) s x (p ∧ q) where
  accepts both := by
    obtain ⟨t, done, testing⟩ := one.accepts both.1
    obtain ⟨u, more, further⟩ := (other both.1 t testing).accepts both.2
    exact ⟨u, script_append done more, further⟩
  refuses either_ := by
    by_cases holds : p
    · obtain ⟨t, done, testing⟩ := one.accepts holds
      obtain ⟨u, ended⟩ := (other holds t testing).refuses fun also => either_ ⟨holds, also⟩
      exact ⟨u, script_append done ended⟩
    · obtain ⟨t, ended⟩ := one.refuses holds
      refine ⟨t, ?_⟩
      rw [runScript_append]
      exact ended.bind_error

-- A run has one outcome, so that it accepts nothing else.
theorem Decides.outcome (decides : Decides E checks s x p) : (Accepts E checks s ↔ p) ∧ (Refuses E checks s ↔ ¬ p) := by
  by_cases holds : p
  · obtain ⟨t, done, -⟩ := decides.accepts holds
    obtain ⟨n, ended⟩ := done.run
    refine ⟨⟨fun _ => holds, fun _ => ⟨_, ended⟩⟩, fun ⟨u, other⟩ => ?_, fun fails => absurd holds fails⟩
    rw [ended] at other
    cases other
  · obtain ⟨t, done⟩ := decides.refuses holds
    obtain ⟨n, ended⟩ := done.run
    refine ⟨⟨fun ⟨u, other⟩ => ?_, fun holds_ => absurd holds_ holds⟩, fun _ => holds, fun _ => ⟨_, ended⟩⟩
    rw [ended] at other
    cases other

variable {t : Session}

-- A function that is called as a condition asks for it.
theorem asked_comesTo {words : List Word} {name : String} {args : List String} {f : Function} (testing : Testing s x)
    (reads : Reads E s words (name :: args)) (found : s.functions.lookup name = some f)
    (called : ComesTo (callFunction E name f args) s (.ok () t)) (alone : name ∉ ["command", "builtin", "exec"])
    (there : Testing t x) (same : t.processes = s.processes) (sheltered : t.shielded = true) :
    ComesTo ((run words).run E) s (.ok () t) :=
  simple_ok testing.quiet reads (List.cons_ne_nil _ _) (not_exec alone) (invoke_function testing.quiet found called)
    there.quiet same (Or.inr (Or.inl sheltered))

-- A check asks a function of the wrapper, and fails with a message where the answer is zero.
theorem when_decides {cond : Command} {message : List Part} (runs : E.script = runScript deeper) (testing : Testing s x)
    (asked : ComesTo (cond.run E) { s with shielded := true } (.ok () t)) (there : Testing t x) (tells : t.status = 0 ↔ ¬ p)
    (spelled : ∀ t, Testing t x → ∃ text, Spells E t message text) :
    Decides E [when cond (Wrapper.fatalHint message)] s x p where
  accepts holds := by
    have calm : Quiet { s with shielded := true } := testing.quiet
    have nonzero : t.status ≠ 0 := fun zero => tells.mp zero holds
    exact ⟨_, script_one testing.quiet (if_skips (script_one calm asked) nonzero), there.passed 0 s.shielded t.givesWay⟩
  refuses fails := by
    have calm : Quiet { s with shielded := true } := testing.quiet
    have told : Testing { t with shielded := s.shielded } x := there.passed t.status s.shielded t.givesWay
    obtain ⟨text, spells⟩ := spelled _ told
    obtain ⟨u, ended⟩ := fatalHint_comesTo runs told.quiet (told.plain _ (by decide)) told.heard
      (Memory.error_provided told.reports) spells
    exact ⟨u, script_one testing.quiet (if_holds (script_one calm asked) (tells.mpr fails) ended)⟩

end Deciding

-- A text that an expression matches.
def Fits (pattern x : String) : Prop :=
  ∃ e, Regex.ofMarked? (pattern.toList.map fun c => (c, false)) = some e ∧ (e.matched? false x.toList).isSome = true

-- The expression of a kind, where not every text is of the kind.
def kindText : Body → Option String
  | .integer _ => some wholeText
  | .double _ => some decimalText
  | .boolean _ => some booleanText
  | .flag _ _ => some booleanText
  | .string _ => none
  | .file _ _ _ => none

section Kinds

variable {E deeper : Engine} {s : Session} {x name pattern : String} {e : Expression} {f : Function} {n : Nat}

theorem fits_read (read : Regex.ofMarked? (pattern.toList.map fun c => (c, false)) = some e) :
    Fits pattern x ↔ (e.matched? false x.toList).isSome = true := by
  constructor
  · rintro ⟨other, same, matched⟩
    rw [read] at same
    obtain rfl := Option.some.inj same
    exact matched
  · exact fun matched => ⟨e, read, matched⟩

-- The function of a kind leaves behind what the expression matched, and whether it did.
def matching (s : Session) (found : Option (List (List Char))) : Session :=
  { rematch s found with status := if found.isSome then 0 else 1, givesWay := false }

theorem Testing.matching (testing : Testing s x) (found : Option (List (List Char))) : Testing (matching s found) x := by
  have same : ∀ {y : String}, y ≠ "BASH_REMATCH" → (rematch s found).find? y = s.find? y := fun other => rematch_other other
  have alike : (rematch s found).separators = s.separators :=
    separators_like (by unfold Session.value?; rw [same (by decide)])
  have value : (rematch s found).value? "BW_VAL" = s.value? "BW_VAL" := by
    unfold Session.value?
    rw [same (by decide)]
  have left : Testing (rematch s found) x := { testing with
    uncut := alike ▸ testing.uncut
    filled := putIn_filled
    plain := fun z listed => rematch_ordinarily (testing.plain z listed)
    value := value.trans testing.value }
  exact left.passed _ (rematch s found).shielded false

theorem kind_called (runs : E.script = runScript deeper) (testing : Testing s x) (sheltered : s.shielded = true)
    (read : Regex.ofMarked? (pattern.toList.map fun c => (c, false)) = some e) (body : f.body = kindBody pattern n) :
    ComesTo (callFunction E name f [x]) s (.ok () (matching s (e.matched? false x.toList))) := by
  let found := e.matched? false x.toList
  let entered : Nat → Session := fun line => opened s name f [x] line
  let held : Held := [("regex", .text pattern)]
  let left : Nat → Session := fun line =>
    within (rematch (entered line) found) (marksOf s) held (if found.isSome then 0 else 1)
  have calm : ∀ line held status, Quiet (within (entered line) (marksOf s) held status) := fun _ _ _ => testing.quiet
  have ran : ∀ line, ComesTo (E.script [f.body]) (calling s name f [x] line) (.ok () (left line)) := by
    intro line
    let d := within (entered line) (marksOf s) held 0
    have reads : Reads deeper (within (entered line) (marksOf s) [] s.status) [bare "local", [.text "regex=", .single pattern]]
        ("local" :: [("regex", some pattern)].map Declared.text) :=
      reads_bare "local" (by decide) (by decide) (reads_led_single (by decide) (by decide) reads_nil)
    have declared := @local_comesTo deeper (entered line) (marksOf s) [] s.status _ [("regex", some pattern)] testing.quiet rfl
      (List.cons_ne_nil _ _) reads (by
        intro d member
        rw [List.mem_singleton.mp member]
        exact ⟨show isOwn "regex" = true by decide, rfl, testing.plain "regex" (by decide), rfl⟩) (List.nodup_singleton _)
    have subject : Spells deeper d [ref "1"] x := value_spells (calm line held 0) (stands_first rfl)
    have expression : Stands d "regex" (some pattern) := within_stands (by decide) rfl
    have holds := match_holds (calm line held 0) subject (value_marked (calm line held 0) expression) read
    have below : rematch d found = within (rematch (entered line) found) (marksOf s) held 0 := rematch_within rfl testing.filled
    rw [below] at holds
    have code : (Verdict.ofBool found.isSome).status % 256 = if found.isSome then 0 else 1 := by
      cases found.isSome <;> rfl
    have asked := test_gives (calm line held 0) holds testing.quiet (Or.inr (Or.inl sheltered))
    rw [code] at asked
    rw [runs, body]
    exact script_one testing.quiet (located_comesTo n (group_comesTo (script_cons (calm line [] s.status)
      (located_comesTo (n + 1) declared) (script_one (calm line held 0) (located_comesTo (n + 2) asked)))))
  exact call_ok (t := left) testing.quiet (fun _ => testing.quiet) (fun _ => rfl) ran

-- Each kind with an expression has a function that matches it.
theorem kind_provided (provides : Provides s Wrapper.Functions.typeChecks) {kind : Body} (asked : kind.check? = some name) :
    ∃ pattern e f n, kindText kind = some pattern ∧ Regex.ofMarked? (pattern.toList.map fun c => (c, false)) = some e ∧
      s.functions.lookup name = some f ∧ f.body = kindBody pattern n := by
  obtain ⟨k, all⟩ := provides
  rw [checks_read] at all
  have provided : ∀ line pattern, .located line (.function name (kindBody pattern line)) ∈ [
      Command.located 2 (.function "bw_is_integer" (kindBody wholeText 2)),
      .located 6 (.function "bw_is_double" (kindBody decimalText 6)),
      .located 10 (.function "bw_is_boolean" (kindBody booleanText 10)),
      .located 16 (.function "bw_double_less" (decimalLess 16)),
      .located 21 (.function "bw_in_array" (arrayBody 21))] →
      ∃ f n, s.functions.lookup name = some f ∧ f.body = kindBody pattern n := by
    intro line pattern listed
    obtain ⟨f, found, body⟩ := all line name (kindBody pattern line) listed
    exact ⟨f, k + line, found, body⟩
  have readable : ∀ pattern ∈ [wholeText, decimalText, booleanText],
      (Regex.ofMarked? (pattern.toList.map fun c => (c, false))).isSome = true := by decide +kernel
  have whole := fun pattern listed => Option.isSome_iff_exists.mp (readable pattern listed)
  cases kind with
  | integer v =>
    obtain rfl := Option.some.inj asked
    obtain ⟨f, n, found, body⟩ := provided 2 wholeText (by simp)
    obtain ⟨e, read⟩ := whole wholeText (by simp)
    exact ⟨_, e, f, n, rfl, read, found, body⟩
  | double v =>
    obtain rfl := Option.some.inj asked
    obtain ⟨f, n, found, body⟩ := provided 6 decimalText (by simp)
    obtain ⟨e, read⟩ := whole decimalText (by simp)
    exact ⟨_, e, f, n, rfl, read, found, body⟩
  | boolean v | flag stored v =>
    obtain rfl := Option.some.inj asked
    obtain ⟨f, n, found, body⟩ := provided 10 booleanText (by simp)
    obtain ⟨e, read⟩ := whole booleanText (by simp)
    exact ⟨_, e, f, n, rfl, read, found, body⟩
  | string v => cases asked
  | file v mustExist createParent => cases asked

theorem kindText_none {kind : Body} (unasked : kind.check? = none) : kindText kind = none := by
  cases kind <;> first | rfl | cases unasked

-- A value is let through where the expression of its kind matches it.
theorem checkKind_decides (runs : E.script = runScript deeper) (testing : Testing s x) (a : Argument) :
    Decides E (Wrapper.checkKind a) s x (∀ pattern ∈ kindText a.body, Fits pattern x) := by
  unfold Wrapper.checkKind
  cases asked : a.body.check? with
  | none =>
    rw [kindText_none asked]
    exact (decides_none testing).congr (by simp)
  | some name =>
    let c : Session := { s with shielded := true }
    have sheltered : Testing c x := testing.passed s.status true s.givesWay
    obtain ⟨pattern, e, f, n, kind, read, found, body⟩ := kind_provided testing.tests asked
    let hit := e.matched? false x.toList
    have tame : name.toList.all isTame = true ∧ name ≠ "" ∧ name ∉ ["command", "builtin", "exec"] := by
      have named : ∀ known ∈ ["bw_is_integer", "bw_is_double", "bw_is_boolean"],
          known.toList.all isTame = true ∧ known ≠ "" ∧ known ∉ ["command", "builtin", "exec"] := by decide
      refine named name ?_
      cases shape : a.body <;> rw [shape] at asked <;> cases asked <;> simp
    have reads : Reads E c [bare name, quotedRef "BW_VAL"] [name, x] :=
      reads_bare name tame.1 tame.2.1 (reads_double [x] (double_fields sheltered.spells) reads_nil)
    have ran := asked_comesTo sheltered reads found (kind_called runs sheltered rfl read body) tame.2.2
      (sheltered.matching hit) rfl rfl
    have answered := @not_comesTo E c _ _ ran
    refine when_decides runs testing answered ((sheltered.matching hit).passed _ true false) ?_ fun t there =>
      ⟨_, spells_cons (spells_text _) (spells_cons (spells_text _) (spells_cons there.spells (spells_text _)))⟩
    rw [kind]
    simp only [Option.mem_def, Option.some.injEq, forall_eq', fits_read read]
    change (if (if hit.isSome then 0 else 1) = 0 then 1 else 0) = 0 ↔ ¬ hit.isSome = true
    by_cases matched : hit.isSome = true <;> simp [matched]

end Kinds

end Toolwrap.Checking
