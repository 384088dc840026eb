import Toolwrap.Proofs.Memory.Function
import Toolwrap.Proofs.Memory.Sums
import Toolwrap.Proofs.Running.Comparing
import Toolwrap.Proofs.Running.Counting

-- The loop over the digits of a fraction, from the last one to the first: what is carried in
-- front of a digit are the bytes of the digits behind it.

namespace Toolwrap.Memory

open Shell Running

-- What the function holds before the loop, and in it.
structure Parts where
  memory : String
  number : String
  unit : ByteUnit
  whole : String
  fraction : String

def Parts.held (p : Parts) : Held :=
  [("memory", .text p.memory), ("regex", .text shapeText), ("number", .text p.number),
    ("multiplier", .text (toString p.unit.bytes)), ("int_part", .text p.whole), ("frac_part", .text p.fraction)]

def Parts.counting (p : Parts) (carry : Nat) (i : Content) : Held :=
  p.held ++ [("frac_bytes", .text (toString carry)), ("i", i)]

section Loop

variable {E : Engine} {c : Session} {marks : String → Bool} {p : Parts} {status carry : Nat} {i : Content}

theorem counting_knows : Knows (within c marks (p.counting carry i) status) (counted p.unit carry) := by
  intro x n found
  unfold counted at found
  split at found
  · rename_i size
    obtain rfl := Option.some.inj found
    rw [size]
    exact within_stands (by decide) rfl
  · split at found
    · rename_i carried
      obtain rfl := Option.some.inj found
      rw [carried]
      exact within_stands (by decide) rfl
    · cases found

theorem counter_asked (quiet : Quiet c) {k : Int} (low : -1 ≤ k) (small : k < 2 ^ 63) :
    ComesTo (asked E [.text " i >= 0"]) (within c marks (p.counting carry (.text (toString k))) status)
      (.ok (some (decide (0 ≤ k))) (within c marks (p.counting carry (.text (toString k))) status)) := by
  let s := within c marks (p.counting carry (.text (toString k))) status
  have calm : Quiet s := quiet
  have read : Arithmetic.read false " i >= 0" =
      ⟨.binary .atLeast (.name ⟨"i", none⟩) (.number 0) "0", none⟩ := by decide
  have held : Stands s "i" (some (toString k)) := within_stands (by decide) rfl
  have valued : Yields ((Arithmetic.Expr.binary .atLeast (.name ⟨"i", none⟩) (.number 0) "0").value
      (Arithmetic.valueOfText "((: " 1023) (Arithmetic.failWith "((: " " i >= 0")) s (Arithmetic.truth (decide (0 ≤ k))) :=
    (name_value held (counter_value calm "((: " 1022 low small)).bind (yields_pure.bind yields_pure)
  have found := asked_comesTo (E := E) calm (List.cons_ne_nil _ _) (spells_text " i >= 0") ⟨'i', by decide, by decide⟩
    (calculate_read calm read valued)
  have same : (Arithmetic.truth (decide (0 ≤ k)) != 0) = decide (0 ≤ k) := by
    cases decide (0 ≤ k) <;> rfl
  rwa [same] at found

theorem counter_stepped (quiet : Quiet c) {k : Int} (low : 0 ≤ k) (small : k < 2 ^ 63) :
    ∃ b, ComesTo (asked E [.text " i-- "]) (within c marks (p.counting carry (.text (toString k))) status)
      (.ok (some b) (within c marks (p.counting carry (.text (toString (k - 1)))) status)) := by
  let s := within c marks (p.counting carry (.text (toString k))) status
  have calm : Quiet s := quiet
  have read : Arithmetic.read false " i-- " = ⟨.step ⟨"i", none⟩ (-1) true, none⟩ := by decide +kernel
  have held : Stands s "i" (some (toString k)) := within_stands (by decide) rfl
  have stored := @within_summed "i" (k - 1) c marks (p.counting carry (.text (toString k))) _ status (by decide) rfl rfl
  have wrapped : Arithmetic.wrap (k + -1) = k - 1 := wrap_within (by omega) (by omega)
  rw [← wrapped] at stored
  have valued : Gives ((Arithmetic.Expr.step ⟨"i", none⟩ (-1) true).value (Arithmetic.valueOfText "((: " 1023)
      (Arithmetic.failWith "((: " " i-- ")) s k (within c marks (p.counting carry (.text (toString (k - 1)))) status) := by
    rw [← wrapped]
    exact step_value held (counter_value calm "((: " 1022 (by omega) small) stored
  exact ⟨_, asked_comesTo calm (List.cons_ne_nil _ _) (spells_text " i-- ") ⟨'i', by decide, by decide⟩
    (calculate_read calm read valued)⟩

variable {ds : List Char} {d : Char} {front : List Char}

theorem step_spells (quiet : Quiet c) (shape : p.fraction = String.ofList (front ++ d :: ds))
    (small : front.length < 2 ^ 63) :
    Spells E (within c marks (p.counting carry (.text (toString (front.length : Int)))) status)
      stepParts (stepText d) := by
  let s := within c marks (p.counting carry (.text (toString (front.length : Int)))) status
  have calm : Quiet s := quiet
  have held : Stands s "i" (some (toString (front.length : Int))) := within_stands (by decide) rfl
  have stands : Stands s "frac_part" (some p.fraction) := within_stands (by decide) rfl
  have read : Arithmetic.read false "i" = ⟨.name ⟨"i", none⟩, none⟩ := by decide
  have offset : ∀ lead, Yields (Arithmetic.calculate lead "i") s (front.length : Int) := fun lead =>
    calculate_read calm read (name_value held (valueOfText_numeral calm lead 1022 small))
  have length : ∀ lead, Yields (Arithmetic.calculate lead "1") s (1 : Int) := fun lead =>
    calculate_numeral (n := 1) calm lead (by decide)
  have there : p.fraction.toList[front.length]? = some d := by
    rw [shape, String.toList_ofList]
    simp
  have digit := slice_values (E := E) calm stands (spells_text "i") (spells_text "1") offset length
    (sliced_one there)
  have text : " " ++ ("(" ++ (String.ofList [d] ++ (" * multiplier + frac_bytes" ++ (")" ++ " / 10 ")))) = stepText d := by
    rw [← String.toList_inj]
    simp [stepText]
  rw [← text]
  exact spells_cons (spells_text _) (spells_cons (spells_text _) (spells_cons (values_spells digit)
    (spells_cons (spells_text _) (spells_cons (spells_text _) (spells_text _)))))

-- A step comes to the bytes of a digit and of the digits behind it.
theorem step_reckons (quiet : Quiet c) (shape : p.fraction = String.ofList (front ++ d :: ds))
    (small : front.length < 2 ^ 63) (digits : ∀ e ∈ d :: ds, isDigit e = true) :
    Reckons E (within c marks (p.counting (carried p.unit.bytes ds) (.text (toString (front.length : Int)))) status)
      stepParts (carried p.unit.bytes (d :: ds)) :=
  ⟨_, _, counting_knows, step_spells quiet shape small, step_exactly digits⟩

theorem step_assigned (quiet : Quiet c) (shape : p.fraction = String.ofList (front ++ d :: ds))
    (small : front.length < 2 ^ 63) (digits : ∀ e ∈ d :: ds, isDigit e = true) :
    ComesTo ((assign "frac_bytes" [.arith stepParts]).run E)
      (within c marks (p.counting (carried p.unit.bytes ds) (.text (toString (front.length : Int)))) status)
      (.ok () (within c marks (p.counting (carried p.unit.bytes (d :: ds)) (.text (toString (front.length : Int)))) 0)) := by
  have calm : Quiet (within c marks (p.counting (carried p.unit.bytes ds) (.text (toString (front.length : Int)))) status) :=
    quiet
  have computed := reckons_values calm (step_reckons (E := E) quiet shape small digits)
  exact assign_within quiet (by decide) rfl rfl (values_valueText computed nofun)

-- Round by round what is carried over the digits behind becomes what is carried over all.
theorem rounds_comesTo (quiet : Quiet c) (n : Nat) {rounds : Nat} (enough : front.length < rounds)
    (small : front.length < 2 ^ 63) (shape : p.fraction = String.ofList (front ++ ds))
    (digits : ∀ e ∈ front ++ ds, isDigit e = true) :
    ∃ i, ComesTo (loopWhile (countRound E [.text " i >= 0"] [.text " i-- "] [.located n (assign "frac_bytes" [.arith stepParts])])
        rounds 0)
      (within c marks (p.counting (carried p.unit.bytes ds) (.text (toString ((front.length : Int) - 1)))) 0)
      (.ok () (within c marks (p.counting (carried p.unit.bytes (front ++ ds)) (.text i)) 0)) := by
  induction front using List.reverseRecOn generalizing ds rounds with
  | nil =>
    obtain ⟨rounds, rfl⟩ := Nat.exists_eq_succ_of_ne_zero (Nat.ne_of_gt enough)
    have ended := @counter_asked E c marks p 0 (carried p.unit.bytes ds) quiet (-1) (by decide) (by decide)
    exact ⟨_, while_ends (count_over ended)⟩
  | append_singleton front d more =>
    obtain ⟨rounds, rfl⟩ := Nat.exists_eq_succ_of_ne_zero (Nat.ne_of_gt (Nat.zero_lt_of_lt enough))
    have length : (((front ++ [d]).length : Nat) : Int) - 1 = front.length := by simp
    rw [List.length_append, List.length_singleton] at enough small
    rw [List.append_assoc] at shape digits ⊢
    rw [length]
    have calm : Quiet (within c marks
        (p.counting (carried p.unit.bytes (d :: ds)) (.text (toString ((front.length : Int) - 1)))) 0) := quiet
    have goesOn := @counter_asked E c marks p 0 (carried p.unit.bytes ds) quiet front.length (by omega) (by omega)
    rw [decide_eq_true (Int.natCast_nonneg _)] at goesOn
    have assigned := @step_assigned E c marks p 0 ds d front quiet shape (by omega)
      fun e inside => digits e (List.mem_append_right _ inside)
    obtain ⟨b, stepped⟩ := @counter_stepped E c marks p 0 (carried p.unit.bytes (d :: ds)) quiet front.length (by omega) (by omega)
    have placed := located_comesTo n assigned
    obtain ⟨i, later⟩ := @more _ rounds (by omega) (by omega) shape digits
    exact ⟨i, while_goes calm (count_goes goesOn (script_one quiet placed) stepped) later⟩

-- The counter begins at the last digit.
theorem counter_started {fs : List Char} (quiet : Quiet c) (small : fs.length < 2 ^ 63)
    (shape : p.fraction = String.ofList fs) :
    ∃ b, ComesTo (asked E [.text " i = ", .param "frac_part" [] .length, .text " - 1"])
      (within c marks (p.counting carry .declared) status)
      (.ok (some b) (within c marks (p.counting carry (.text (toString ((fs.length : Int) - 1)))) status)) := by
  let s := within c marks (p.counting carry .declared) status
  have calm : Quiet s := quiet
  have stands : Stands s "frac_part" (some p.fraction) := within_stands (by decide) rfl
  have length : p.fraction.length = fs.length := by rw [shape, String.length_ofList]
  have size := length_values (E := E) calm stands
  rw [length] at size
  have spelled : Spells E s [.text " i = ", .param "frac_part" [] .length, .text " - 1"] (lastText fs.length) :=
    spells_cons (spells_text _) (spells_cons (values_spells size) (spells_text _))
  have solid : ∃ c ∈ (lastText fs.length).toList, Text.isBlank c = false := ⟨'i', by simp [lastText], by decide⟩
  have wrapped : Arithmetic.wrap ((fs.length : Int) - 1) = fs.length - 1 := wrap_within (by omega) (by omega)
  have found : Yields ((Arithmetic.Expr.binary .sub (.number fs.length) (.number 1) "1").value
      (Arithmetic.valueOfText "((: " 1023) (Arithmetic.failWith "((: " (lastText fs.length))) s ((fs.length : Int) - 1) := by
    refine yields_pure.bind (yields_pure.bind ?_)
    rw [← wrapped]
    exact yields_pure
  have stored := @within_summed "i" (fs.length - 1) c marks (p.counting carry .declared) _ status (by decide) rfl rfl
  exact ⟨_, asked_comesTo calm (List.cons_ne_nil _ _) spelled solid
    (calculate_read calm (last_read small) (assign_value found stored))⟩

-- The loop leaves what is carried over the whole fraction.
theorem fractionLoop_comesTo {fs : List Char} (quiet : Quiet c) (n : Nat) (enough : fs.length < E.rounds)
    (small : fs.length < 2 ^ 63) (shape : p.fraction = String.ofList fs) (digits : ∀ e ∈ fs, isDigit e = true) :
    ∃ i, ComesTo ((fractionLoop n).run E) (within c marks (p.counting 0 .declared) 0)
      (.ok () (within c marks (p.counting (carried p.unit.bytes fs) (.text i)) 0)) := by
  have calm : Quiet { c with loops := c.loops + 1 } := quiet
  obtain ⟨b, started⟩ := @counter_started E { c with loops := c.loops + 1 } marks p 0 0 fs calm small shape
  obtain ⟨i, looped⟩ := @rounds_comesTo E { c with loops := c.loops + 1 } marks p [] fs calm n E.rounds enough small
    (by rwa [List.append_nil]) (by rwa [List.append_nil])
  rw [List.append_nil] at looped
  exact ⟨i, for_comesTo started looped⟩

end Loop

end Toolwrap.Memory
