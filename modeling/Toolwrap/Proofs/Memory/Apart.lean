import Toolwrap.Proofs.Integers.Less
import Toolwrap.Proofs.Memory.Loop
import Toolwrap.Proofs.Running.Groups
import Toolwrap.Proofs.Running.Trimming

-- A number is taken apart: the digits in front of its point, without zeros at the front, and
-- the digits behind it.

namespace Toolwrap.Memory

open Shell Running

section Texts

variable {a : Amount} {s suffix : List Char}

theorem digits_unpointed {ds : List Char} (digits : ∀ c ∈ ds, isDigit c = true) : '.' ∉ ds := by
  intro inside
  have point := digits _ inside
  cases point

theorem number_pointed (stated : States s a suffix) : '.' ∈ a.numberText ↔ a.fraction ≠ [] := by
  have plain := digits_unpointed stated.whole
  unfold Amount.numberText
  cases shape : a.fraction with
  | nil => simp [plain]
  | cons c ds => simp

theorem whole_trimmed (stated : States s a suffix) :
    bareTrim true false ".*" (String.ofList a.numberText) = String.ofList a.whole := by
  have read : Pattern.ofMarked true (".*".toList.map fun c => (c, false)) = [.char '.', .star] := rfl
  rw [bareTrim, read, Pattern.trim, if_pos rfl, String.toList_ofList]
  unfold Amount.numberText
  cases shape : a.fraction with
  | nil => exact congrArg _ (trim_none_before (digits_unpointed stated.whole))
  | cons c ds =>
    have behind : '.' ∉ c :: ds := shape ▸ digits_unpointed stated.fraction
    exact congrArg _ (trim_before behind)

theorem fraction_trimmed (stated : States s a suffix) (filled : a.fraction ≠ []) :
    bareTrim false false "*." (String.ofList a.numberText) = String.ofList a.fraction := by
  have front : '.' ∉ (String.ofList a.whole).toList := by
    rw [String.toList_ofList]
    exact digits_unpointed stated.whole
  have shape : String.ofList a.numberText = String.ofList a.whole ++ String.singleton '.' ++ String.ofList a.fraction := by
    rw [← String.toList_inj]
    simp [Amount.numberText, filled]
  rw [shape]
  exact behind_trim rfl front rfl

theorem pointed_fits (v : String) : bareFits "*.*" v = decide ('.' ∈ v.toList) := by
  rw [Bool.eq_iff_iff, decide_eq_true_eq]
  exact around_fits

end Texts

-- The names that the function declares.
def memoryNames : List String :=
  ["memory", "regex", "number", "multiplier", "int_part", "frac_part", "frac_bytes", "i"]

-- Where a function may declare them: nothing marks them, and the marks they have are kept.
structure Declarable (c : Session) (marks : String → Bool) : Prop where
  plain : ∀ x ∈ memoryNames, Ordinarily c x
  inherits : ∀ x ∈ memoryNames, marks x = ((c.find? x).map (·.exported)).getD false

section Declaring

variable {E : Engine} {c : Session} {marks : String → Bool} {held : Held} {status : Nat} {v : String}

theorem names_own : ∀ x ∈ memoryNames, isOwn x = true := by decide

theorem Declarable.declares {x : String} (declarable : Declarable c marks) (listed : x ∈ memoryNames)
    (fresh : held.lookup x = none) (value : Option String) : Declares c marks held (x, value) :=
  ⟨names_own x listed, fresh, declarable.plain x listed, declarable.inherits x listed⟩

variable (declarable : Declarable c marks) (quiet : Quiet c) (inside : c.isInFunction = true)

include declarable quiet inside

-- One name is declared, with a value or without one.
theorem one_comesTo (x : String) {word : Word} (value : Option String) (listed : x ∈ memoryNames) (fresh : held.lookup x = none)
    (reads : Reads E (within c marks held status) [word] [Declared.text (x, value)]) :
    ComesTo ((run [bare "local", word]).run E) (within c marks held status)
      (.ok () (within c marks (held ++ [Declared.entry (x, value)]) 0)) := by
  have words := reads_bare "local" (by decide) (by decide) reads
  refine @local_comesTo E c marks held status _ [(x, value)] quiet inside (List.cons_ne_nil _ _) words ?_
    (List.nodup_singleton _)
  intro d member
  rw [List.mem_singleton.mp member]
  exact declarable.declares listed fresh value

theorem given_comesTo (x : String) {front : String} {parts : List Part} (led : front = x ++ "=") (listed : x ∈ memoryNames)
    (fresh : held.lookup x = none) (spelled : Spells E (within c marks held status) parts v) :
    ComesTo ((run [bare "local", [.text front, .double parts]]).run E) (within c marks held status)
      (.ok () (within c marks (held ++ [(x, .text v)]) 0)) := by
  have plain : ∀ x ∈ memoryNames, (x ++ "=").toList.all isTame = true ∧ x ++ "=" ≠ "" := by decide
  obtain ⟨tame, filled⟩ := plain x listed
  rw [← led] at tame filled
  have reads : Reads E (within c marks held status) [[.text front, .double parts]] [Declared.text (x, some v)] := by
    rw [Declared.text, ← led]
    exact reads_led_double tame filled reads_nil spelled
  exact one_comesTo declarable quiet inside x (some v) listed fresh reads

end Declaring

section Lines

variable {E : Engine} {c : Session} {marks : String → Bool} {status n : Nat} {m : String}
  {suffix : List Char} {a : Amount}

-- The digits in front of the point, without zeros at the front; one zero stands for none.
def wholeText (a : Amount) : String :=
  let digits := Integers.stripped (String.ofList a.whole)
  if digits.isEmpty then "0" else digits

def partsOf (m : String) (a : Amount) : Parts :=
  ⟨m, String.ofList a.numberText, a.unit, wholeText a, String.ofList a.fraction⟩

-- What is held where the number and its unit are known.
def known (m : String) (a : Amount) : Held :=
  [("memory", .text m), ("regex", .text shapeText), ("number", .text (String.ofList a.numberText)),
    ("multiplier", .text (toString a.unit.bytes))]

variable (declarable : Declarable c marks) (quiet : Quiet c) (inside : c.isInFunction = true)
  (stated : States m.toList a suffix)

include declarable quiet inside stated

theorem number_comesTo :
    ComesTo (runScript E (((memoryLines n).drop 7).take 3)) (within c marks (known m a) status)
      (.ok () (within c marks (known m a ++ [("int_part", .text (String.ofList a.whole)),
        ("frac_part", .text (String.ofList a.fraction))]) 0)) := by
  have calm : ∀ held status, Quiet (within c marks held status) := fun _ _ => quiet
  let held := known m a ++ [("int_part", .text (String.ofList a.whole)), ("frac_part", .text "")]
  have number : Spells E (within c marks (known m a) status) [.param "number" [] (.trim true false (bare ".*"))]
      (String.ofList a.whole) := by
    rw [← whole_trimmed stated]
    exact trim_spells (calm _ _) (within_stands (by decide) rfl) (by decide) true false
  have whole : ComesTo ((run [bare "local", [.text "int_part=", .double [.param "number" [] (.trim true false (bare ".*"))]]]).run E)
      (within c marks (known m a) status)
      (.ok () (within c marks (known m a ++ [("int_part", .text (String.ofList a.whole))]) 0)) :=
    given_comesTo declarable quiet inside "int_part" rfl (by decide) rfl number
  have empty : ComesTo ((run [bare "local", [.text "frac_part=", .double []]]).run E)
      (within c marks (known m a ++ [("int_part", .text (String.ofList a.whole))]) 0) (.ok () (within c marks held 0)) :=
    given_comesTo declarable quiet inside "frac_part" rfl (by decide) rfl spells_nil
  have stands : Stands (within c marks held 0) "number" (some (String.ofList a.numberText)) :=
    within_stands (by decide) rfl
  refine script_cons (calm _ _) (located_comesTo _ whole) (script_cons (calm _ _) (located_comesTo _ empty)
    (script_one (calm _ _) (located_comesTo _ ?_)))
  let asking : Session := { within c marks held 0 with shielded := true }
  have sheltered : Quiet asking := quiet
  have subject : Spells E asking [ref "number"] (String.ofList a.numberText) :=
    value_spells sheltered (within_stands (c := { c with shielded := true }) (by decide) rfl)
  have fits : Yields ((Test.binary (quotedRef "number") "==" (bare "*.*")).holds E) asking
      (.ofBool (bareFits "*.*" (String.ofList a.numberText))) := fits_holds sheltered subject (by decide)
  rw [pointed_fits] at fits
  have asked := test_asked (calm held 0) fits
  by_cases pointed : '.' ∈ (String.ofList a.numberText).toList
  · have filled : a.fraction ≠ [] := (number_pointed stated).mp (by rwa [String.toList_ofList] at pointed)
    have fraction : Spells E (within c marks held 0) [.param "number" [] (.trim false false (bare "*."))]
        (String.ofList a.fraction) := by
      rw [← fraction_trimmed stated filled]
      exact trim_spells (calm _ _) stands (by decide) false false
    exact when_holds _ (calm _ _) asked pointed (script_one (calm _ _) (located_comesTo _
      (assign_within quiet (by decide) rfl rfl (double_valueText fraction))))
  · have none_ : a.fraction = [] := by
      by_contra filled
      exact pointed (by rw [String.toList_ofList]; exact (number_pointed stated).mpr filled)
    have skipped := when_skips (n + 20) (calm held 0) asked
      [.located (n + 21) (assignQuoted "frac_part" [.param "number" [] (.trim false false (bare "*."))])] pointed
    rw [none_]
    exact skipped

omit stated in
-- Zeros at the front are taken off, and nothing is carried yet.
theorem zeros_comesTo :
    ComesTo (runScript E (((memoryLines n).drop 10).take 3))
      (within c marks (known m a ++ [("int_part", .text (String.ofList a.whole)),
        ("frac_part", .text (String.ofList a.fraction))]) status)
      (.ok () (within c marks ((partsOf m a).counting 0 .declared) 0)) := by
  have calm : ∀ held status, Quiet (within c marks held status) := fun _ _ => quiet
  let digits := Integers.stripped (String.ofList a.whole)
  let held := known m a ++ [("int_part", .text digits), ("frac_part", .text (String.ofList a.fraction))]
  have bared : ComesTo ((Integers.zerosOff "int_part").run E)
      (within c marks (known m a ++ [("int_part", .text (String.ofList a.whole)),
        ("frac_part", .text (String.ofList a.fraction))]) status) (.ok () (within c marks held 0)) :=
    Integers.zerosOff_comesTo quiet (by decide) rfl
  have stands : Stands (within c marks held 0) "int_part" (some digits) := within_stands (by decide) rfl
  have whole : Spells E (within c marks held 0) [.param "int_part" [] (.default .use true (bare "0"))] (wholeText a) := by
    unfold wholeText
    exact default_spells stands "0"
  have kept_ : kept held "int_part" (.text (wholeText a)) = (partsOf m a).held := by
    simp [held, kept, known, partsOf, Parts.held]
  have filled : ComesTo ((assignQuoted "int_part" [.param "int_part" [] (.default .use true (bare "0"))]).run E)
      (within c marks held 0) (.ok () (within c marks (partsOf m a).held 0)) := by
    rw [← kept_]
    exact assign_within quiet (by decide) rfl rfl (double_valueText whole)
  have reads : Reads E (within c marks (partsOf m a).held 0) (["local", "frac_bytes=0", "i"].map bare)
      ("local" :: [("frac_bytes", some "0"), ("i", none)].map Declared.text) :=
    reads_bare "local" (by decide) (by decide) (reads_bare "frac_bytes=0" (by decide) (by decide)
      (reads_bare "i" (by decide) (by decide) reads_nil))
  have declared := local_comesTo quiet inside (List.cons_ne_nil _ _) reads (by
    intro d member
    simp only [List.mem_cons, List.not_mem_nil, or_false] at member
    rcases member with rfl | rfl
    · exact declarable.declares (by decide) rfl _
    · exact declarable.declares (by decide) rfl _) (by decide)
  exact script_cons (calm _ _) (located_comesTo _ bared) (script_cons (calm _ _) (located_comesTo _ filled)
    (script_one (calm _ _) (located_comesTo _ declared)))

end Lines

end Toolwrap.Memory
