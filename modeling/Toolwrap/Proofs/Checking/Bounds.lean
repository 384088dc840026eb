import Toolwrap.Proofs.Checking.Choices

-- The bounds of an integer argument: integers are compared at any length, and a value passes where
-- it lies between the bounds.

namespace Toolwrap.Checking

open Shell Running Integers

section Written

open Regex

def signs : List Member := [.range '-' '-', .range '+' '+']

def wholeShape : Expression where
  regex := .seq (.seq (.seq (.seq .empty .start) (.times (.set false signs) 0 (some 1))) Memory.digits) .finish
  groups := 0

theorem wholeShape_read : ofMarked? (wholeText.toList.map fun c => (c, false)) = some wholeShape := by decide +kernel

variable {x : String} {m : List Char} {c : Char}

def isSign (c : Char) : Bool := signs.any (·.holds c)

theorem isSign_iff : isSign c = true ↔ c = '-' ∨ c = '+' := by
  simp only [isSign, signs, List.any_cons, List.any_nil, Bool.or_false, Bool.or_eq_true, Member.holds_single, beq_iff_eq]

def wholes := 1 * (letters isSign + 1) * runs Memory.isDigit

theorem wholeShape_begins :
    Begins (.seq (.seq (.seq .empty .start) (.times (.set false signs) 0 (some 1))) Memory.digits) wholes :=
  begins_seq (begins_seq begins_start (matches_optional (matches_set signs))) Memory.digits_match

theorem runs_iff : m ∈ runs Memory.isDigit ↔ Numeral m :=
  ⟨fun ⟨filled, all⟩ => ⟨filled, Memory.digits_eq.mp all⟩, fun numeral => ⟨numeral.filled, Memory.digits_eq.mpr numeral.digits⟩⟩

theorem signed_digits {ds : List Char} (sign : isSign c = true) : behindSign (c :: ds) = ds := by
  rcases isSign_iff.mp sign with rfl | rfl <;> rfl

theorem unsigned_digits (other : ∀ d ∈ m.head?, isSign d = false) : behindSign m = m := by
  have apart : ∀ d, isSign d = true → m.head? ≠ some d := by
    intro d sign head
    rw [other d head] at sign
    cases sign
  exact behindSign_other (apart '-' (by decide)) (apart '+' (by decide))

theorem numeral_unsigned (numeral : Numeral m) : behindSign m = m := by
  refine unsigned_digits fun d head => ?_
  have digit := numeral.digits d (List.mem_of_head? head)
  rw [← Bool.not_eq_true, isSign_iff]
  rintro (rfl | rfl) <;> cases digit

-- The words of the expression are numerals, with a sign in front or none.
theorem wholes_iff : m ∈ wholes ↔ Numeral (behindSign m) := by
  rw [wholes, one_mul, optional_mul]
  constructor
  · rintro (⟨c, sign, ds, digits, rfl⟩ | digits)
    · rw [signed_digits sign]
      exact runs_iff.mp digits
    · have numeral := runs_iff.mp digits
      rwa [numeral_unsigned numeral]
  · intro numeral
    by_cases sign : ∃ d ∈ m.head?, isSign d = true
    · obtain ⟨d, head, holds⟩ := sign
      obtain ⟨ds, rfl⟩ := List.head?_eq_some_iff.mp head
      rw [signed_digits holds] at numeral
      exact Or.inl ⟨d, holds, ds, runs_iff.mpr numeral, rfl⟩
    · have none_ : ∀ d ∈ m.head?, isSign d = false := fun d head => by
        rw [← Bool.not_eq_true]
        exact fun holds => sign ⟨d, head, holds⟩
      rw [unsigned_digits none_] at numeral
      exact Or.inr (runs_iff.mpr numeral)

theorem fits_iff : Fits wholeText x ↔ Numeral (behindSign x.toList) := by
  rw [fits_read wholeShape_read, ← wholes_iff]
  unfold Expression.matched? wholeShape
  by_cases word : x.toList ∈ wholes
  · obtain ⟨m, hit, -⟩ := whole_found wholeShape_begins word
    simp [hit, word]
  · simp [whole_absent wholeShape_begins word, word]

end Written

-- Texts that a machine of 64 bits can hold: no string of a shell is longer.
def Holdable (x : String) : Prop := x.length < 2 ^ 63

instance (x : String) : Decidable (Holdable x) := inferInstanceAs (Decidable (x.length < 2 ^ 63))

section Comparing

variable {E deeper : Engine} {s : Session} {x y z : String}

theorem fits_whole (fits : Fits wholeText x) : Whole x := (fits_iff.mp fits).digits

theorem written_fits (n : Int) : Fits wholeText (toString n) := by
  refine fits_iff.mpr ?_
  cases n with
  | ofNat n =>
    have numeral := toString_numeral n
    change Numeral (behindSign (toString n).toList)
    rwa [numeral_unsigned numeral]
  | negSucc n =>
    rw [toString_negative, signed_digits (by decide)]
    exact toString_numeral (n + 1)

theorem written_tame (n : Int) : (toString n).toList.all isTame = true := by
  cases n with
  | ofNat n => exact toString_tame n
  | negSucc n =>
    rw [toString_negative, List.all_cons, toString_tame]
    rfl

theorem written_filled (n : Int) : toString n ≠ "" := by
  intro empty
  have numeral := fits_iff.mp (written_fits n)
  rw [empty] at numeral
  exact numeral.filled rfl

-- A comparison of two integers, as a condition asks for it.
theorem less_asked (runs : E.script = runScript deeper) (testing : Testing s z) {words : List Word}
    (reads : Reads E { s with shielded := true } words ["bw_integer_less", x, y]) (fits : Fits wholeText x)
    (also : Fits wholeText y) (held : Holdable x) (other : Holdable y) :
    ComesTo ((run words).run E) { s with shielded := true }
      (.ok () { s with shielded := true, status := codeOf (decide (integerOf x < integerOf y)), givesWay := false }) := by
  have sheltered : Testing { s with shielded := true } z := testing.passed s.status true s.givesWay
  obtain ⟨f, n, found, body⟩ := less_provided sheltered.compares
  have called := less_called runs sheltered.quiet (Or.inl rfl) sheltered.uncut
    (fun z listed => sheltered.plain z (List.mem_append_right _ listed)) body (fits_whole fits) (fits_whole also) held other
  exact asked_comesTo sheltered reads found called (by decide) (testing.passed _ true false) rfl rfl

end Comparing

-- Where a number lies.
structure Between (v : Values Int) (n : Int) : Prop where
  above : ∀ least ∈ v.min, least ≤ n
  below : ∀ most ∈ v.max, n ≤ most

section Bounds

variable {E deeper : Engine} {s : Session} {x y : String} {a : Argument} {v : Values Int} {p : Prop}

-- One bound: the value is refused where the comparison that its check makes holds.
theorem bound_decides (runs : E.script = runScript deeper) (testing : Testing s x) {left right : String} {words : List Word}
    (reads : ∀ t, Testing t x → Reads E t words ["bw_integer_less", left, right]) (fits : Fits wholeText left)
    (also : Fits wholeText right) (held : Holdable left) (other : Holdable right) (relation limit : String)
    (means : p ↔ integerOf right ≤ integerOf left) :
    Decides E [when (run words) (Wrapper.outOfBound a relation limit)] s x p := by
  have sheltered : Testing { s with shielded := true } x := testing.passed s.status true s.givesWay
  refine when_decides runs testing (less_asked runs testing (reads _ sheltered) fits also held other) (testing.passed _ true false)
    ?_ fun t there => ⟨_, spells_cons (spells_text _) (spells_cons (spells_text _) (spells_cons there.spells (spells_text _)))⟩
  by_cases less : integerOf left < integerOf right
  · rw [decide_eq_true less, means]
    exact ⟨fun _ => by omega, fun _ => rfl⟩
  · rw [decide_eq_false less, means]
    exact ⟨nofun, fun above => absurd (by omega) above⟩

theorem value_reads {words : List Word} {fields : List String} (testing : Testing s x) (rest : Reads E s words fields) :
    Reads E s (quotedRef "BW_VAL" :: words) (x :: fields) := reads_double [x] (double_fields testing.spells) rest

theorem limit_reads (n : Int) {words : List Word} {fields : List String} (rest : Reads E s words fields) :
    Reads E s (bare (toString n) :: words) (toString n :: fields) := reads_bare _ (written_tame n) (written_filled n) rest

theorem less_named (body : a.body = .integer v) : Wrapper.lessFunction a = "bw_integer_less" := by
  unfold Wrapper.lessFunction
  rw [body]
  rfl

variable (runs : E.script = runScript deeper) (body : a.body = .integer v) (fits : Fits wholeText x) (held : Holdable x)

include runs body fits held

theorem checkMin_decides (testing : Testing s x) (limited : ∀ n ∈ v.min, Holdable (toString n)) :
    Decides E (Wrapper.checkMin a) s x (∀ least ∈ v.min, least ≤ integerOf x) := by
  have texts : a.body.texts.min = v.min.map toString := by
    rw [body]
    rfl
  unfold Wrapper.checkMin
  rw [texts, less_named body]
  cases bound : v.min with
  | none => exact (decides_none testing).congr (by simp)
  | some n =>
    refine bound_decides runs testing (fun t there => reads_bare "bw_integer_less" (by decide) (by decide)
      (value_reads there (limit_reads n reads_nil))) fits (written_fits n) held (limited n bound) _ _ ?_
    rw [(toString_whole n).2]
    simp

theorem checkMax_decides (testing : Testing s x) (limited : ∀ n ∈ v.max, Holdable (toString n)) :
    Decides E (Wrapper.checkMax a) s x (∀ most ∈ v.max, integerOf x ≤ most) := by
  have texts : a.body.texts.max = v.max.map toString := by
    rw [body]
    rfl
  unfold Wrapper.checkMax
  rw [texts, less_named body]
  cases bound : v.max with
  | none => exact (decides_none testing).congr (by simp)
  | some n =>
    refine bound_decides runs testing (fun t there => reads_bare "bw_integer_less" (by decide) (by decide)
      (limit_reads n (value_reads there reads_nil))) (written_fits n) fits (limited n bound) held _ _ ?_
    rw [(toString_whole n).2]
    simp

theorem bounds_decide (testing : Testing s x) (low : ∀ n ∈ v.min, Holdable (toString n)) (high : ∀ n ∈ v.max, Holdable (toString n)) :
    Decides E (Wrapper.checkMin a ++ Wrapper.checkMax a) s x (Between v (integerOf x)) := by
  have both := (checkMin_decides runs body fits held testing low).append fun _ t there =>
    checkMax_decides runs body fits held there high
  exact both.congr ⟨fun ⟨above, below⟩ => ⟨above, below⟩, fun between => ⟨between.above, between.below⟩⟩

omit fits in
-- All checks of an integer argument: a value passes where it is written as an integer, is a choice
-- as it is written, and lies between the bounds.
theorem integer_decides (testing : Testing s x) (low : ∀ n ∈ v.min, Holdable (toString n)) (high : ∀ n ∈ v.max, Holdable (toString n)) :
    Decides E (Wrapper.valueChecks a) s x (Fits wholeText x ∧
      (v.choices = [] ∨ integerOf x ∈ v.choices ∧ x = toString (integerOf x)) ∧ Between v (integerOf x)) := by
  have kind : Decides E (Wrapper.checkKind a) s x (Fits wholeText x) :=
    (checkKind_decides runs testing a).congr (by rw [body]; simp [kindText])
  have chosen := kind.append fun _ t there => checkChoices_decides runs there a
  have above := chosen.append fun both t there => checkMin_decides runs body both.1 held there low
  have below := above.append fun both t there => checkMax_decides runs body both.1.1 held there high
  have files : Wrapper.checkFile a = [] := by
    unfold Wrapper.checkFile
    rw [body]
  unfold Wrapper.valueChecks
  rw [files, List.append_nil]
  refine below.congr ?_
  rw [choice_texts body, List.map_eq_nil_iff, written_iff]
  exact ⟨fun ⟨⟨⟨fits, choice⟩, least⟩, most⟩ => ⟨fits, choice, least, most⟩,
    fun ⟨fits, choice, between⟩ => ⟨⟨⟨fits, choice⟩, between.above⟩, between.below⟩⟩

end Bounds

section Checked

variable {s : Session} {x : String}

-- Integers are compared as numbers, however they are written, and the checks of the bounds let a
-- value through where its number lies between them.
theorem bounds_checked (serving : Serving s) (rounds depth : Nat) :
    (∃ f, s.functions.lookup "bw_integer_less" = some f ∧ ∀ x y, Fits wholeText x → Fits wholeText y → Holdable x → Holdable y →
      Lenient s → ∃ t, callFunction (engine rounds (depth + 2)) "bw_integer_less" f [x, y] s = .ok () t ∧
        (t.status = 0 ↔ integerOf x < integerOf y)) ∧
    ∀ (a : Argument) (v : Values Int) (x : String), a.body = .integer v → s.value? "BW_VAL" = some x → Fits wholeText x → Holdable x →
      (∀ n ∈ v.min, Holdable (toString n)) → (∀ n ∈ v.max, Holdable (toString n)) →
      (Accepts (engine rounds (depth + 2)) (Wrapper.checkMin a ++ Wrapper.checkMax a) s ↔ Between v (integerOf x)) ∧
      (Refuses (engine rounds (depth + 2)) (Wrapper.checkMin a ++ Wrapper.checkMax a) s ↔ ¬ Between v (integerOf x)) := by
  constructor
  · obtain ⟨f, n, found, body⟩ := less_provided serving.compares
    refine ⟨f, found, fun x y fits also held other lenient => ?_⟩
    have called := @less_called (engine rounds (depth + 2)) (engine rounds (depth + 1)) s x y rfl serving.quiet lenient serving.uncut
      (fun z listed => serving.plain z (List.mem_append_right _ listed)) f n body (fits_whole fits) (fits_whole also) held other
    obtain ⟨m, ended⟩ := called.run
    refine ⟨_, ended, ?_⟩
    change codeOf (decide (integerOf x < integerOf y)) = 0 ↔ _
    by_cases less : integerOf x < integerOf y <;> simp [less, codeOf]
  · intro a v x body value fits held low high
    have runs : (engine rounds (depth + 2)).script = runScript (engine rounds (depth + 1)) := rfl
    exact (bounds_decide runs body fits held ⟨serving, value⟩ low high).outcome

end Checked

-- A wrapper with its functions, in which the value 007 is tested.
def bench : Session where
  tree := ⟨[]⟩
  here := []
  scopes := [[("BW_VAL", { content := .text "007" })]]
  texts := ["", "", ""]
  descriptors := [(0, .text 0), (1, .text 1), (2, .text 2)]
  functions := [
    ("bw_error", { body := .located 2 (.group [.located 3 errorEcho]), file := "wrapper" }),
    ("bw_warning", { body := .located 5 (.group [.located 6 Memory.warningEcho]), file := "wrapper" }),
    ("bw_is_integer", { body := kindBody wholeText 2, file := "wrapper" }),
    ("bw_is_double", { body := kindBody decimalText 6, file := "wrapper" }),
    ("bw_is_boolean", { body := kindBody booleanText 10, file := "wrapper" }),
    ("bw_double_less", { body := decimalLess 16, file := "wrapper" }),
    ("bw_in_array", { body := arrayBody 21, file := "wrapper" }),
    ("bw_integer_less", { body := lessBody 5, file := "wrapper" })]

theorem bench_serving : Serving bench where
  quiet := ⟨rfl, by decide, rfl, rfl, rfl, rfl, rfl, by decide, by decide⟩
  uncut := List.all_iff_forall_prop.mp (by decide)
  heard := nofun
  filled := List.cons_ne_nil _ _
  plain z _ := ordinarily_all (by decide) z
  reports := by
    refine provides_listed [(2, "bw_error", .located 2 (.group [.located 3 errorEcho])),
      (5, "bw_warning", .located 5 (.group [.located 6 Memory.warningEcho]))] Memory.reporting_read fun f listed => ?_
    simp only [List.mem_cons, List.not_mem_nil, or_false] at listed
    rcases listed with rfl | rfl <;> exact ⟨_, rfl, rfl⟩
  tests := by
    refine provides_listed [(2, "bw_is_integer", kindBody wholeText 2), (6, "bw_is_double", kindBody decimalText 6),
      (10, "bw_is_boolean", kindBody booleanText 10), (16, "bw_double_less", decimalLess 16),
      (21, "bw_in_array", arrayBody 21)] checks_read fun f listed => ?_
    simp only [List.mem_cons, List.not_mem_nil, or_false] at listed
    rcases listed with rfl | rfl | rfl | rfl | rfl <;> exact ⟨_, rfl, rfl⟩
  compares := by
    refine provides_listed [(5, "bw_integer_less", lessBody 5)] less_read fun f listed => ?_
    obtain rfl := List.mem_singleton.mp listed
    exact ⟨_, rfl, rfl⟩

theorem bounds_checked_at_seven : (∃ f, bench.functions.lookup "bw_integer_less" = some f ∧
      ∃ t, callFunction (engine 8 2) "bw_integer_less" f ["-0", "+007"] bench = .ok () t ∧ t.status = 0) ∧
    Accepts (engine 8 2) (Wrapper.checkMin { name := "--n", body := .integer { min := some 0, max := some 10 } } ++
      Wrapper.checkMax { name := "--n", body := .integer { min := some 0, max := some 10 } }) bench ∧
    Refuses (engine 8 2) (Wrapper.checkMin { name := "--n", body := .integer { min := some 8 } } ++
      Wrapper.checkMax { name := "--n", body := .integer { min := some 8 } }) bench := by
  have whole : ∀ x ∈ ["-0", "+007", "007"], Fits wholeText x ∧ Holdable x := by
    intro x listed
    rw [fits_iff]
    simp only [List.mem_cons, List.not_mem_nil, or_false] at listed
    rcases listed with rfl | rfl | rfl <;>
      exact ⟨⟨by decide, List.all_iff_forall_prop.mp (by decide)⟩, by decide⟩
  have zero := whole "-0" (by simp)
  have seven := whole "+007" (by simp)
  have value := whole "007" (by simp)
  obtain ⟨⟨f, found, called⟩, checked⟩ := bounds_checked bench_serving 8 0
  obtain ⟨t, ended, less⟩ := called "-0" "+007" zero.1 seven.1 zero.2 seven.2 (Or.inr (by decide))
  refine ⟨⟨f, found, t, ended, less.mpr (by decide)⟩, ?_, ?_⟩
  · exact (checked _ _ "007" rfl (by decide) value.1 value.2 (by decide) (by decide)).1.mpr ⟨by decide, by decide⟩
  · refine (checked _ _ "007" rfl (by decide) value.1 value.2 (by decide) (by decide)).2.mpr fun between => ?_
    exact absurd (between.above 8 rfl) (by decide)

end Toolwrap.Checking
