import Mathlib.Data.List.TakeWhile
import Toolwrap.Proofs.Running.Steps

-- Decimal numerals: what conditions and arithmetic read out of the digits of a number
-- that 64 bits hold.

namespace Toolwrap.Running

open Shell

theorem digit_bounds {c : Char} (digit : c.isDigit = true) : 48 ≤ c.toNat ∧ c.toNat ≤ 57 := by
  simp only [Char.isDigit, Bool.and_eq_true, decide_eq_true_eq, ge_iff_le,
    UInt32.le_iff_toNat_le] at digit
  exact digit

theorem digit_ne {c d : Char} (digit : c.isDigit = true) (other : d.isDigit = false) : c ≠ d := by
  rintro rfl
  rw [digit] at other
  cases other

-- The digits of a text, one at least.
structure Numeral (ds : List Char) : Prop where
  filled : ds ≠ []
  digits : ∀ c ∈ ds, c.isDigit = true

def numeralValue (ds : List Char) : Nat := Nat.ofDigitChars 10 ds 0

theorem toString_numeral (n : Nat) : Numeral (toString n).toList := by
  change Numeral n.repr.toList
  rw [Nat.toList_repr]
  exact ⟨Nat.toDigits_ne_nil, fun c member =>
    Nat.isDigit_of_mem_toDigits (by decide) (by decide) member⟩

theorem toString_value (n : Nat) : numeralValue (toString n).toList = n := by
  change numeralValue n.repr.toList = n
  rw [Nat.toList_repr, numeralValue, Nat.ofDigitChars_ten_toDigits]

-- Only zero is written with a zero in front.
theorem toDigits_front {n : Nat} (positive : 0 < n) : (Nat.toDigits 10 n).head? ≠ some '0' := by
  induction n using Nat.base_induction 10 (by decide) with
  | single m small =>
    rw [Nat.toDigits_of_lt_base small]
    simp only [List.head?_cons, ne_eq, Option.some.injEq, Nat.digitChar_eq_zero]
    omega
  | digit m k small above front =>
    have same : (10 * m + k) / 10 = m := by omega
    rw [Nat.toDigits_of_base_le (by decide) (by omega), same, List.head?_append]
    cases shape : (Nat.toDigits 10 m).head? with
    | none => exact absurd (List.head?_eq_none_iff.mp shape) Nat.toDigits_ne_nil
    | some c =>
      rw [shape] at front
      exact front above

theorem toString_front (n : Nat) : (toString n).toList = ['0'] ∨ (toString n).toList.head? ≠ some '0' := by
  change n.repr.toList = ['0'] ∨ n.repr.toList.head? ≠ some '0'
  rw [Nat.toList_repr]
  cases n with
  | zero => exact Or.inl (Nat.toDigits_zero 10)
  | succ n => exact Or.inr (toDigits_front (Nat.succ_pos n))

theorem foldl_digits {ds : List Char} (n : Nat) (digits : ∀ c ∈ ds, c.isDigit = true) :
    ds.foldl (fun (n : Int) c => 10 * n + (c.toNat - 48)) n = (Nat.ofDigitChars 10 ds n : Int) := by
  induction ds generalizing n with
  | nil => simp
  | cons c rest more =>
    have bounds := digit_bounds (digits c (List.mem_cons_self ..))
    rw [List.foldl_cons, Nat.ofDigitChars_cons, ← more _ fun d member =>
      digits d (List.mem_cons_of_mem _ member)]
    congr 1
    have zero : '0'.toNat = 48 := rfl
    omega

theorem wrap_within {n : Int} (low : -2 ^ 63 ≤ n) (high : n < 2 ^ 63) : Arithmetic.wrap n = n := by
  have bound : Nat.pow 2 64 = 2 ^ 64 := rfl
  rw [Arithmetic.wrap, bound]
  exact Int.bmod_eq_of_le (by omega) (by omega)

theorem wrap_small {n : Int} (natural : 0 ≤ n) (small : n < 2 ^ 63) : Arithmetic.wrap n = n :=
  wrap_within (by omega) small

-- The digits of a number in a base, added one by one.
def addDigit (base n : Nat) (c : Char) : Except String Nat :=
  match Arithmetic.digitIn? base c with
  | some d => if d < base then .ok (base * n + d) else .error "value too great for base"
  | none => .error "invalid number"

theorem digitsIn_added (base : Nat) (ds : List Char) :
    Arithmetic.digitsIn base ds =
      (ds.foldlM (addDigit base) 0).map fun (n : Nat) => Arithmetic.wrap n := by
  change Except.map _ (ds.foldlM (addDigit base) 0 >>= fun n => pure (n : Int)) = _
  cases ds.foldlM (addDigit base) 0 <;> rfl

theorem addDigit_ten {c : Char} (digit : c.isDigit = true) (n : Nat) :
    addDigit 10 n c = .ok (10 * n + (c.toNat - 48)) := by
  have bounds := digit_bounds digit
  have at_ : c ≠ '@' := digit_ne digit rfl
  have line : c ≠ '_' := digit_ne digit rfl
  have found : Arithmetic.digitIn? 10 c = some (c.toNat - 48) := by
    unfold Arithmetic.digitIn? digitOf?
    simp only [beq_iff_eq, at_, line, if_false, Nat.reduceLT, decide_false, Bool.false_and,
      Bool.false_eq_true]
    rw [if_pos]
    simp only [Bool.and_eq_true, decide_eq_true_eq, Char.le_def, UInt32.le_iff_toNat_le]
    exact bounds
  simp only [addDigit, found]
  rw [if_pos (by omega)]

theorem added_numeral {ds : List Char} (n : Nat) (digits : ∀ c ∈ ds, c.isDigit = true) :
    ds.foldlM (addDigit 10) n = .ok (Nat.ofDigitChars 10 ds n) := by
  induction ds generalizing n with
  | nil => simp; rfl
  | cons c rest more =>
    rw [List.foldlM_cons, Nat.ofDigitChars_cons, addDigit_ten (digits c (List.mem_cons_self ..)),
      ← more _ fun d member => digits d (List.mem_cons_of_mem _ member)]
    rfl

section Reading

variable {ds : List Char} (numeral : Numeral ds)

include numeral

theorem dropWhile_numeral {skips : Char → Bool} (kept : ∀ c, c.isDigit = true → skips c = false) :
    ds.dropWhile skips = ds := by
  obtain ⟨filled, digits⟩ := numeral
  cases ds with
  | nil => rfl
  | cons c rest =>
    rw [List.dropWhile_cons_of_neg]
    rw [kept c (digits c (List.mem_cons_self ..))]
    decide

theorem reverse_numeral : Numeral ds.reverse := by
  refine ⟨fun none_ => numeral.filled (List.reverse_eq_nil_iff.mp none_), fun c member => ?_⟩
  exact numeral.digits c (List.mem_reverse.mp member)

theorem integer_numeral : Condition.integer? (String.ofList ds) = some (numeralValue ds : Int) := by
  have solid : ∀ c : Char, c.isDigit = true → (c == ' ' || (9 ≤ c.toNat && c.toNat ≤ 13)) = false := by
    intro c digit
    have bounds := digit_bounds digit
    have blank : c ≠ ' ' := digit_ne digit rfl
    simp [blank]
    omega
  unfold Condition.integer?
  simp only [String.toList_ofList]
  rw [dropWhile_numeral numeral solid, dropWhile_numeral (reverse_numeral numeral) solid,
    List.reverse_reverse]
  have all : ds.all Char.isDigit = true := List.all_eq_true.mpr numeral.digits
  have value := foldl_digits 0 numeral.digits
  obtain ⟨filled, digits⟩ := numeral
  have some_ : ds.isEmpty = false := List.isEmpty_eq_false_iff.mpr filled
  split
  · cases digits '-' (List.mem_cons_self ..)
  · cases digits '+' (List.mem_cons_self ..)
  · simp only [some_, all, Bool.not_true, Bool.or_self, Bool.false_eq_true, if_false]
    exact congrArg some value

theorem word_numeral (small : numeralValue ds < 2 ^ 63) :
    Condition.wordInteger? (String.ofList ds) = some (numeralValue ds : Int) := by
  unfold Condition.wordInteger?
  rw [integer_numeral numeral, Option.filter_some_pos]
  have bound : Nat.pow 2 63 = 2 ^ 63 := rfl
  simp only [Bool.and_eq_true, decide_eq_true_eq, bound]
  omega

theorem digitsIn_numeral :
    Arithmetic.digitsIn 10 ds = .ok (Arithmetic.wrap (numeralValue ds)) := by
  rw [digitsIn_added, added_numeral 0 numeral.digits]
  rfl

-- A numeral without a zero in front is read as the number that it writes.
theorem numberOf_numeral (front : ds = ['0'] ∨ ds.head? ≠ some '0') :
    Arithmetic.numberOf ds = .ok (Arithmetic.wrap (numeralValue ds)) := by
  rcases front with rfl | front
  · exact congrArg Except.ok (wrap_small (by decide) (by decide)).symm
  · have plain : ∀ c ∈ ds, (c != '#') = true := by
      intro c member
      exact bne_iff_ne.mpr (digit_ne (numeral.digits c member) rfl)
    have base : ds.takeWhile (· != '#') = ds := List.takeWhile_eq_self_iff.mpr plain
    unfold Arithmetic.numberOf
    split
    · exact absurd rfl front
    · exact absurd rfl front
    · exact absurd rfl front
    · exact absurd rfl front
    · exact absurd rfl front
    · exact absurd rfl front
    · simp only [base, List.drop_length]
      exact digitsIn_numeral numeral

-- What is left to be read behind a numeral begins with no character of a number.
theorem nextToken_numeral (token before : Arithmetic.Token) (rest : List Char)
    (ended : ∀ c, rest.head? = some c → (c.isAlphanum || c ∈ ['#', '@', '_']) = false)
    (front : ds = ['0'] ∨ ds.head? ≠ some '0') :
    Arithmetic.nextToken token before (ds ++ rest) =
      .ok (.number (Arithmetic.wrap (numeralValue ds)), rest) := by
  have text : (ds ++ rest).takeWhile (fun c => c.isAlphanum || c ∈ ['#', '@', '_']) = ds := by
    rw [List.takeWhile_append_of_pos]
    · cases rest with
      | nil => simp
      | cons c rest =>
        rw [List.takeWhile_cons_of_neg, List.append_nil]
        rw [ended c rfl]
        decide
    · intro c member
      simp [Char.isAlphanum, numeral.digits c member]
  have number := numberOf_numeral numeral front
  cases ds with
  | nil => exact absurd rfl numeral.filled
  | cons c others =>
    have digit := numeral.digits c (List.mem_cons_self ..)
    rw [List.cons_append] at text ⊢
    unfold Arithmetic.nextToken
    simp only [digit, if_true]
    rw [text, number]
    simp

end Reading

open Arithmetic in
theorem listed_number (k : Nat) (n : Int) (before : Token) (shown : List Char) :
    listed (k + 60) ⟨false, [], .number n, before, shown, none⟩ =
      (.number n, ⟨false, [], .finish, .number n, shown, none⟩) := rfl

theorem digit_solid {c : Char} (digit : c.isDigit = true) : Arithmetic.isBlank c = false := by
  have blank : c ≠ ' ' := digit_ne digit rfl
  have tab : c ≠ '\t' := digit_ne digit rfl
  have line : c ≠ '\n' := digit_ne digit rfl
  simp [Arithmetic.isBlank, blank, tab, line]

-- A numeral alone is an expression.
theorem read_numeral {ds : List Char} (numeral : Numeral ds)
    (front : ds = ['0'] ∨ ds.head? ≠ some '0') :
    Arithmetic.read false (String.ofList ds) =
      ⟨.number (Arithmetic.wrap (numeralValue ds)), none⟩ := by
  have some_ : ds.all Arithmetic.isBlank = false := by
    obtain ⟨filled, digits⟩ := numeral
    cases ds with
    | nil => exact absurd rfl filled
    | cons c rest => rw [List.all_cons, digit_solid (digits c (List.mem_cons_self ..)), Bool.false_and]
  have token := nextToken_numeral numeral .finish .finish [] (by simp) front
  rw [List.append_nil] at token
  have advanced : Arithmetic.advance ⟨false, ds, .finish, .finish, ds, none⟩ =
      ((), ⟨false, [], .number (Arithmetic.wrap (numeralValue ds)), .finish, ds, none⟩) := by
    unfold Arithmetic.advance
    simp only [bind, StateT.bind, get, getThe, MonadStateOf.get, StateT.get, pure, Option.isSome_none,
      Bool.false_eq_true, if_false, dropWhile_numeral numeral fun _ => digit_solid, token]
    rfl
  unfold Arithmetic.read
  simp only [String.toList_ofList, some_, Bool.and_false, Bool.false_eq_true, if_false]
  simp only [StateT.run, bind, StateT.bind, advanced, listed_number]
  rfl

theorem word_toString {n : Nat} (small : n < 2 ^ 63) :
    Condition.wordInteger? (toString n) = some (n : Int) := by
  have word := word_numeral (toString_numeral n) (by rw [toString_value]; exact small)
  rw [toString_value, String.ofList_toList] at word
  exact word

end Toolwrap.Running
