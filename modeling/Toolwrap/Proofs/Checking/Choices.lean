import Toolwrap.Proofs.Checking.Kinds
import Toolwrap.Proofs.Memory.Bytes

-- The choices of an argument: a value is let through where it is written like one of them. A number
-- that is written in another way is not, though it is the same number.

namespace Toolwrap.Checking

open Shell Running

theorem array_provided {s : Session} (provides : Provides s Wrapper.Functions.typeChecks) :
    ∃ f n, s.functions.lookup "bw_in_array" = some f ∧ f.body = arrayBody n := by
  obtain ⟨n, all⟩ := provides
  rw [checks_read] at all
  obtain ⟨f, found, body⟩ := all 21 "bw_in_array" (arrayBody 21) (by simp)
  exact ⟨f, n + 21, found, body⟩

section Seeking

variable {E deeper : Engine} {s c : Session} {marks : String → Bool} {x : String} {texts : List String} {status n : Nat}

-- The body of the function: the first argument is sought among the others.
theorem arrayLines_comesTo (quiet : Quiet c) (running : c.isInFunction = true) (args : c.args = x :: texts)
    (plain : ∀ z ∈ ["needle", "item"], Ordinarily c z) (inherits : ∀ z, marks z = ((c.find? z).map (·.exported)).getD false) :
    ∃ j code, ComesTo (runScript E (arrayLines n)) (within c marks [] status)
      (.error (.returned (if x ∈ texts then 0 else 1)) (within { c with args := texts } marks (seeking "needle" x "item" j) code)) := by
  let d : Session := { c with args := texts }
  have calm : ∀ held status, Quiet (within c marks held status) := fun _ _ => quiet
  have later : ∀ held status, Quiet (within d marks held status) := fun _ _ => quiet
  have declared := @seeking_declared E c marks "item" "needle" x status (n + 1) quiet (by decide) (by decide) (by decide) running
    "needle=" texts args plain inherits rfl (by decide) (by decide)
  have shifted := @shift_first E (within c marks (seeking "needle" x "item" .declared) 0) x texts (calm _ _) args
  obtain ⟨j, code, sought⟩ := @sought_comesTo E d marks "item" "needle" x (quotedRef "@") (n + 5) texts quiet (by decide) (by decide)
    (by decide) running arguments_fields
  have front : ∀ {r}, ComesTo (runScript E [.located (n + 4) (.forIn "item" (some [quotedRef "@"])
        [.located (n + 5) (foundReturn "item" "needle" (n + 5))]), .located (n + 9) (say ["return", "1"])])
      (within d marks (seeking "needle" x "item" .declared) 0) r → ComesTo (runScript E (arrayLines n)) (within c marks [] status) r :=
    fun ran => script_append declared (script_cons (calm _ _) (located_comesTo _ shifted) ran)
  by_cases known : x ∈ texts
  · rw [if_pos known] at sought
    refine ⟨j, code, front ?_⟩
    rw [if_pos known]
    exact script_stops (later _ _) (located_comesTo _ sought)
  · rw [if_neg known] at sought
    have reads : Reads E (within d marks (seeking "needle" x "item" j) code) (["return", "1"].map bare) ["return", toString 1] :=
      reads_bare "return" (by decide) (by decide) (reads_bare "1" (by decide) (by decide) reads_nil)
    have returned := return_comesTo (later _ _) running reads (codeOf_numeral "return" (by decide))
    refine ⟨j, code, front ?_⟩
    rw [if_neg known]
    exact script_cons (later _ _) (located_comesTo _ sought) (script_one (later _ _) (located_comesTo _ returned))

-- The function tells whether a text is among others, and leaves nothing else behind.
theorem array_called (runs : E.script = runScript deeper) (quiet : Quiet s) (plain : ∀ z ∈ ["needle", "item"], Ordinarily s z)
    {f : Function} (body : f.body = arrayBody n) :
    ComesTo (callFunction E "bw_in_array" f (x :: texts)) s
      (.ok () { s with status := if x ∈ texts then 0 else 1, givesWay := false }) := by
  let entered : Nat → Session := fun line => opened s "bw_in_array" f (x :: texts) line
  have ran := fun line => @arrayLines_comesTo deeper (entered line) (marksOf s) x texts s.status n quiet rfl rfl plain fun _ => rfl
  choose j code ran using ran
  let left : Nat → Session := fun line =>
    within { entered line with args := texts } (marksOf s) (seeking "needle" x "item" (j line)) (code line)
  have returned : ∀ line, ComesTo (E.script [f.body]) (calling s "bw_in_array" f (x :: texts) line)
      (.error (.returned (if x ∈ texts then 0 else 1)) (left line)) := by
    intro line
    have calm : Quiet (calling s "bw_in_array" f (x :: texts) line) := quiet
    rw [runs, body]
    exact script_one calm (located_comesTo n (group_comesTo (ran line)))
  refine call_returned (t := left) quiet (fun _ => quiet) (fun line => ?_) returned
  have small : (if x ∈ texts then 0 else 1) % 256 = if x ∈ texts then 0 else 1 := by split <;> rfl
  rw [small]
  rfl

end Seeking

section Choices

variable {E deeper : Engine} {s : Session} {x : String} {rounds depth : Nat}

theorem reads_quoted (texts : List String) : Reads E s (texts.map quotedWord) texts := by
  induction texts with
  | nil => exact reads_nil
  | cons text texts more => exact reads_double [text] (double_fields (spells_literal text)) more

-- Whether the value is none of the texts, as a condition asks for it.
theorem array_asked (runs : E.script = runScript deeper) (testing : Testing s x) (texts : List String) :
    ComesTo ((Command.not (run ([bare "bw_in_array", quotedRef "BW_VAL"] ++ texts.map quotedWord))).run E)
      { s with shielded := true } (.ok () { s with shielded := true, status := if x ∈ texts then 1 else 0, givesWay := false }) := by
  let c : Session := { s with shielded := true }
  have sheltered : Testing c x := testing.passed s.status true s.givesWay
  obtain ⟨f, n, found, body⟩ := array_provided sheltered.tests
  have called := @array_called E deeper c x texts n runs sheltered.quiet
    (fun z listed => sheltered.plain z (List.mem_append_left _ (List.mem_append_left _ listed))) f body
  have reads : Reads E c ([bare "bw_in_array", quotedRef "BW_VAL"] ++ texts.map quotedWord) ("bw_in_array" :: x :: texts) :=
    reads_bare "bw_in_array" (by decide) (by decide) (reads_double [x] (double_fields sheltered.spells) (reads_quoted texts))
  have ran := asked_comesTo sheltered reads found called (by decide) (sheltered.passed _ true false) rfl rfl
  have answered := @not_comesTo E c _ _ ran
  have turned : (if (if x ∈ texts then 0 else 1) = 0 then 1 else 0) = if x ∈ texts then 1 else 0 := by
    split <;> simp_all
  rw [← turned]
  exact answered

theorem checkChoices_decides (runs : E.script = runScript deeper) (testing : Testing s x) (a : Argument) :
    Decides E (Wrapper.checkChoices a) s x (a.body.texts.choices = [] ∨ x ∈ a.body.texts.choices) := by
  unfold Wrapper.checkChoices
  cases shape : a.body.texts.choices with
  | nil => exact (decides_none testing).congr (by simp)
  | cons text texts =>
    exact when_decides runs testing (array_asked runs testing (text :: texts)) (testing.passed _ true false) (by simp) fun t there =>
      ⟨_, spells_append (spells_append (spells_cons (spells_text _) (spells_cons there.spells (spells_text _)))
        (spells_literal _)) (spells_text _)⟩

-- A value passes where it is one of the texts in which the choices are stored.
theorem choices_written (testing : Testing s x) (rounds depth : Nat) (a : Argument) :
    (Accepts (engine rounds (depth + 2)) (Wrapper.checkChoices a) s ↔ a.body.texts.choices = [] ∨ x ∈ a.body.texts.choices) ∧
    (Refuses (engine rounds (depth + 2)) (Wrapper.checkChoices a) s ↔ ¬ (a.body.texts.choices = [] ∨ x ∈ a.body.texts.choices)) := by
  have runs : (engine rounds (depth + 2)).script = runScript (engine rounds (depth + 1)) := rfl
  exact (checkChoices_decides runs testing a).outcome

end Choices

section Numbers

open Integers

-- An integer is written as its digits, with a sign where it is negative.
theorem toString_negative (n : Nat) : (toString (Int.negSucc n)).toList = '-' :: (toString (n + 1)).toList := by
  change ("-" ++ toString (n + 1)).toList = _
  rw [String.toList_append]
  rfl

theorem toString_whole (n : Int) : Whole (toString n) ∧ integerOf (toString n) = n := by
  cases n with
  | ofNat n =>
    have numeral := Memory.numeral_integer (toString_numeral n)
    rw [toString_value] at numeral
    exact numeral
  | negSucc n =>
    have behind : behindSign (toString (Int.negSucc n)).toList = (toString (n + 1)).toList := by
      rw [toString_negative]
      rfl
    rw [Whole, integerOf, behind, toString_value, toString_negative]
    exact ⟨(toString_numeral (n + 1)).digits, rfl⟩

variable {s : Session} {x : String} {a : Argument} {v : Values Int}

-- The text of a choice is that of its number alone.
theorem written_iff : x ∈ v.choices.map toString ↔ integerOf x ∈ v.choices ∧ x = toString (integerOf x) := by
  rw [List.mem_map]
  constructor
  · rintro ⟨n, listed, rfl⟩
    rw [(toString_whole n).2]
    exact ⟨listed, rfl⟩
  · rintro ⟨listed, written⟩
    exact ⟨integerOf x, listed, written.symm⟩

theorem choice_texts (body : a.body = .integer v) : a.body.texts.choices = v.choices.map toString := by
  rw [body]
  rfl

-- A value of an integer argument passes where its number is a choice, and where it is written as this number is.
theorem integer_choices (testing : Testing s x) (rounds depth : Nat) (body : a.body = .integer v) (chosen : v.choices ≠ []) :
    Accepts (engine rounds (depth + 2)) (Wrapper.checkChoices a) s ↔ integerOf x ∈ v.choices ∧ x = toString (integerOf x) := by
  rw [(choices_written testing rounds depth a).1, choice_texts body, List.map_eq_nil_iff, or_iff_right chosen, written_iff]

-- A zero in front changes the text, and not the number.
example : integerOf "01" ∈ [(1 : Int)] ∧ "01" ≠ toString (integerOf "01") := by decide

end Numbers

end Toolwrap.Checking
