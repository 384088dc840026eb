import Toolwrap.Proofs.Running.Numerals

-- Numbers compared by their digits: without zeros in front the one with fewer digits is
-- less, and among as many digits the first ones that differ decide.

namespace Toolwrap.Integers

open Running

variable {c d : Char} {ds es : List Char}

def Digits (ds : List Char) : Prop := ∀ c ∈ ds, c.isDigit = true

theorem digits_cons : Digits (c :: ds) ↔ c.isDigit = true ∧ Digits ds := List.forall_mem_cons

theorem value_cons : numeralValue (c :: ds) = 10 ^ ds.length * (c.toNat - 48) + numeralValue ds := by
  rw [numeralValue, Nat.ofDigitChars_cons, Nat.ofDigitChars_eq_ofDigitChars_zero, Nat.mul_zero, Nat.zero_add]
  rfl

theorem value_lt (digits : Digits ds) : numeralValue ds < 10 ^ ds.length := by
  induction ds with
  | nil => decide
  | cons c ds bound =>
    obtain ⟨first, rest⟩ := digits_cons.mp digits
    have small := digit_bounds first
    have scaled : 10 ^ ds.length * (c.toNat - 48) ≤ 10 ^ ds.length * 9 := Nat.mul_le_mul_left _ (by omega)
    have behind := bound rest
    rw [value_cons, List.length_cons, Nat.pow_succ]
    omega

theorem le_value (first : c.isDigit = true) (filled : c ≠ '0') : 10 ^ ds.length ≤ numeralValue (c :: ds) := by
  have bounds := digit_bounds first
  have positive : 0 < c.toNat - 48 := by
    have other : c.toNat ≠ 48 := fun same => filled (Char.toNat_inj.mp same)
    omega
  rw [value_cons]
  exact Nat.le_add_right_of_le (Nat.le_mul_of_pos_right _ positive)

-- Digits without a zero in front.
def Led (ds : List Char) : Prop := ds.head? ≠ some '0'

theorem shorter_less (digits : Digits ds) (also : Digits es) (led : Led es) (shorter : ds.length < es.length) :
    numeralValue ds < numeralValue es := by
  cases es with
  | nil => cases shorter
  | cons c es =>
    have first := (digits_cons.mp also).1
    have filled : c ≠ '0' := fun same => led (congrArg some same)
    calc numeralValue ds < 10 ^ ds.length := value_lt digits
      _ ≤ 10 ^ es.length := Nat.pow_le_pow_right (by decide) (Nat.le_of_lt_succ shorter)
      _ ≤ numeralValue (c :: es) := le_value first filled

theorem digit_less (first : c.isDigit = true) (second : d.isDigit = true) :
    c < d ↔ c.toNat - 48 < d.toNat - 48 := by
  have low := digit_bounds first
  have high := digit_bounds second
  rw [Char.lt_def, UInt32.lt_iff_toNat_lt]
  change c.toNat < d.toNat ↔ _
  omega

theorem same_length_less (digits : Digits ds) (also : Digits es) (same : ds.length = es.length) :
    numeralValue ds < numeralValue es ↔ ds < es := by
  induction ds generalizing es with
  | nil =>
    obtain rfl := List.length_eq_zero_iff.mp same.symm
    simp
  | cons c ds less =>
    cases es with
    | nil => cases same
    | cons d es =>
      obtain ⟨first, rest⟩ := digits_cons.mp digits
      obtain ⟨second, others⟩ := digits_cons.mp also
      have long : ds.length = es.length := Nat.succ.inj same
      have low := value_lt rest
      have high := value_lt others
      have inner := less rest others long
      have order := digit_less first second
      rw [List.cons_lt_cons_iff, value_cons, value_cons, order, ← inner]
      rw [long] at low ⊢
      have bounds := digit_bounds first
      have limits := digit_bounds second
      have equal : c = d ↔ c.toNat - 48 = d.toNat - 48 := by
        rw [← Char.toNat_inj]
        omega
      rw [equal]
      generalize c.toNat - 48 = m
      generalize d.toNat - 48 = n
      constructor
      · intro smaller
        rcases Nat.lt_trichotomy m n with before | rfl | behind
        · exact Or.inl before
        · exact Or.inr ⟨rfl, by omega⟩
        · have scaled : 10 ^ es.length * (n + 1) ≤ 10 ^ es.length * m := Nat.mul_le_mul_left _ behind
          rw [Nat.mul_succ] at scaled
          omega
      · rintro (before | ⟨rfl, rest⟩)
        · have scaled : 10 ^ es.length * (m + 1) ≤ 10 ^ es.length * n := Nat.mul_le_mul_left _ before
          rw [Nat.mul_succ] at scaled
          omega
        · omega

-- Zeros in front change no number.
theorem value_zeros (zeros : List Char) (all : ∀ c ∈ zeros, c = '0') :
    numeralValue (zeros ++ ds) = numeralValue ds := by
  rw [List.eq_replicate_of_mem all, numeralValue, Nat.ofDigitChars_append, Nat.ofDigitChars_replicate_zero]
  simp [numeralValue]

theorem led_value_zero (digits : Digits ds) (led : Led ds) : numeralValue ds = 0 ↔ ds = [] := by
  cases ds with
  | nil => exact ⟨fun _ => rfl, fun _ => rfl⟩
  | cons c ds =>
    have positive := @le_value c ds (digits_cons.mp digits).1 fun same => led (congrArg some same)
    have above : 0 < 10 ^ ds.length := Nat.pow_pos (by decide)
    exact ⟨fun none_ => by omega, nofun⟩

end Toolwrap.Integers
