import Mathlib.Tactic.IntervalCases
import Mathlib.Tactic.Ring
import Toolwrap.Memory
import Toolwrap.Proofs.Running.Counting
import Toolwrap.Proofs.Running.Expressions

-- The sums from which the bytes of an amount are computed, as the shell reads them. The bytes of a
-- fraction are taken digit by digit from the last one: rounding down at each digit comes to rounding
-- down once.

namespace Toolwrap.Memory

section Digits

variable {c : Char} {ds : List Char}

theorem digitValue_small (digit : isDigit c = true) : digitValue c ≤ 9 := by
  simp only [isDigit, Bool.and_eq_true, decide_eq_true_eq, Char.le_def, UInt32.le_iff_toNat_le] at digit
  have nine : '9'.val.toNat = 57 := rfl
  change c.val.toNat - 48 ≤ 9
  omega

theorem foldl_digits (ds : List Char) (n : Nat) :
    ds.foldl (fun n c => 10 * n + digitValue c) n = n * 10 ^ ds.length + digitsValue ds := by
  induction ds generalizing n with
  | nil => simp [digitsValue]
  | cons c ds shifted =>
    have value : digitsValue (c :: ds) = digitValue c * 10 ^ ds.length + digitsValue ds :=
      (shifted (10 * 0 + digitValue c)).trans (by simp)
    rw [List.foldl_cons, shifted, value, List.length_cons]
    ring

theorem digitsValue_cons (c : Char) (ds : List Char) :
    digitsValue (c :: ds) = digitValue c * 10 ^ ds.length + digitsValue ds := by
  rw [digitsValue, List.foldl_cons, foldl_digits]
  simp

theorem digitsValue_lt (digits : ∀ c ∈ ds, isDigit c = true) : digitsValue ds < 10 ^ ds.length := by
  induction ds with
  | nil => decide
  | cons c ds bound =>
    have first := digitValue_small (digits c (List.mem_cons_self ..))
    have rest := bound fun d later => digits d (List.mem_cons_of_mem _ later)
    rw [digitsValue_cons, List.length_cons, Nat.pow_succ]
    have scaled : digitValue c * 10 ^ ds.length ≤ 9 * 10 ^ ds.length := Nat.mul_le_mul_right _ first
    omega

end Digits

-- What is carried over all digits, the last of which comes first.
def carried (size : Nat) : List Char → Nat
  | [] => 0
  | c :: ds => (digitValue c * size + carried size ds) / 10

section Carried

variable {size : Nat} {c : Char} {ds : List Char}

theorem carried_floor (size : Nat) (ds : List Char) :
    carried size ds = digitsValue ds * size / 10 ^ ds.length := by
  induction ds with
  | nil => simp [carried, digitsValue]
  | cons c ds floor =>
    have positive : 0 < 10 ^ ds.length := Nat.pow_pos (by decide)
    calc carried size (c :: ds)
        = (digitValue c * size + digitsValue ds * size / 10 ^ ds.length) / 10 := by rw [carried, floor]
      _ = (digitsValue ds * size + 10 ^ ds.length * (digitValue c * size)) / 10 ^ ds.length / 10 := by
          rw [Nat.add_mul_div_left _ _ positive, Nat.add_comm]
      _ = (digitsValue ds * size + 10 ^ ds.length * (digitValue c * size)) / (10 ^ ds.length * 10) :=
          Nat.div_div_eq_div_mul ..
      _ = digitsValue (c :: ds) * size / 10 ^ (c :: ds).length := by
          rw [digitsValue_cons, List.length_cons, Nat.pow_succ]
          congr 1
          ring

-- A fraction is less than its unit.
theorem carried_lt (filled : 0 < size) (digits : ∀ c ∈ ds, isDigit c = true) : carried size ds < size := by
  rw [carried_floor, Nat.div_lt_iff_lt_mul (Nat.pow_pos (by decide)), Nat.mul_comm size]
  exact Nat.mul_lt_mul_of_pos_right (digitsValue_lt digits) filled

-- Before it is divided, what is carried is less than ten units.
theorem step_lt (filled : 0 < size) (digits : ∀ d ∈ c :: ds, isDigit d = true) :
    digitValue c * size + carried size ds < 10 * size := by
  have first := digitValue_small (digits c (List.mem_cons_self ..))
  have rest := carried_lt filled fun d later => digits d (List.mem_cons_of_mem _ later)
  have scaled : digitValue c * size ≤ 9 * size := Nat.mul_le_mul_right _ first
  omega

end Carried

section Units

variable (u : ByteUnit)

theorem bytes_pos : 0 < u.bytes := Nat.pow_pos (by decide)

theorem bytes_le : u.bytes ≤ 2 ^ 50 := by
  cases u <;> decide

-- The bytes of an amount are its whole bytes and what is carried over its fraction.
theorem floorBytes_eq (a : Amount) :
    a.floorBytes = digitsValue a.whole * a.unit.bytes + carried a.unit.bytes a.fraction := by
  rw [Amount.floorBytes, carried_floor]
  rfl

-- The greatest number of whole units that fits beside a fraction is found by division.
theorem fits_iff {whole carry : Nat} (small : carry ≤ maxBytes) :
    whole * u.bytes + carry ≤ maxBytes ↔ whole ≤ (maxBytes - carry) / u.bytes := by
  rw [Nat.le_div_iff_mul_le (bytes_pos u)]
  omega

end Units

open Shell Running
open Shell.Arithmetic (Cursor Expr Token)

def size : Expr := .name ⟨"multiplier", none⟩

def carry : Expr := .name ⟨"frac_bytes", none⟩

section Symbolic

def lastText (n : Nat) : String := " i = " ++ (toString n ++ " - 1")

def lastSum (n : Int) : Expr := .assign ⟨"i", none⟩ none (.binary .sub (.number n) (.number 1) "1") "1"

def bytesText (digits : String) : String := " 10#" ++ (digits ++ " * multiplier + frac_bytes ")

def bytesSum (n : Int) : Expr :=
  .binary .add (.binary .mul (.number n) size "multiplier + frac_bytes ") carry "frac_bytes "

theorem less_one_read (n : Int) (before : Token) (shown : List Char) (k : Nat) :
    Arithmetic.level (k + 40 + 1) [sumLevel, productLevel]
        ⟨false, [' ', '-', ' ', '1'], .number n, before, shown, none⟩ =
      (.binary .sub (.number n) (.number 1) "1", ⟨false, [], .finish, .number 0, ['1'], none⟩) := by
  have minus : Goes ⟨false, [' ', '-', ' ', '1'], .number n, before, shown, none⟩
      ⟨false, [' ', '1'], .mark "-", .number n, ['-', ' ', '1'], none⟩ := goes_to rfl rfl nofun
  have one : Goes ⟨false, [' ', '1'], .mark "-", .number n, ['-', ' ', '1'], none⟩
      ⟨false, [], .number 1, .mark "-", ['1'], none⟩ := goes_number (n := 1) (by decide) nofun
  have ended : Goes ⟨false, [], .number 1, .mark "-", ['1'], none⟩
      ⟨false, [], .finish, .number 1, ['1'], none⟩ := goes_out rfl
  have first := number_raised (k := k + 35) rfl minus rfl
  have second := number_raised (k := k + 34) rfl ended rfl
  rw [level_goes (level_goes (level_raised first) |>.trans (joined_over rfl)),
    joined_goes .sub rfl one (level_goes (level_raised second) |>.trans (joined_over rfl)), joined_over rfl]
  rfl

theorem last_read {n : Nat} (small : n < 2 ^ 63) : Arithmetic.read false (lastText n) = ⟨lastSum n, none⟩ := by
  let digits := (toString n).toList
  let after := digits ++ [' ', '-', ' ', '1']
  have shape : lastText n = String.ofList (' ' :: 'i' :: ' ' :: '=' :: ' ' :: after) := by
    rw [← String.toList_inj]
    simp [lastText, after, digits]
  have name : Goes ⟨false, ' ' :: 'i' :: ' ' :: '=' :: ' ' :: after, .finish, .finish, ' ' :: 'i' :: ' ' :: '=' :: ' ' :: after, none⟩
      ⟨false, ' ' :: '=' :: ' ' :: after, .name ⟨"i", none⟩, .finish, 'i' :: ' ' :: '=' :: ' ' :: after, none⟩ :=
    goes_to rfl rfl nofun
  have equals : Goes ⟨false, ' ' :: '=' :: ' ' :: after, .name ⟨"i", none⟩, .finish, 'i' :: ' ' :: '=' :: ' ' :: after, none⟩
      ⟨false, ' ' :: after, .assigning none, .name ⟨"i", none⟩, '=' :: ' ' :: after, none⟩ :=
    goes_to rfl rfl nofun
  have number : Goes ⟨false, ' ' :: after, .assigning none, .name ⟨"i", none⟩, '=' :: ' ' :: after, none⟩
      ⟨false, [' ', '-', ' ', '1'], .number n, .assigning none, after, none⟩ :=
    goes_number small (by simp [Parted])
  have blank : (' ' :: 'i' :: ' ' :: '=' :: ' ' :: after).all Arithmetic.isBlank = false := rfl
  have given : ∀ k, Arithmetic.assigned (k + 58) ⟨false, [' ', '-', ' ', '1'], .number n, .assigning none, after, none⟩ =
      (.binary .sub (.number n) (.number 1) "1", ⟨false, [], .finish, .number 0, ['1'], none⟩) := fun k =>
    assigned_over (chosen_over (less_one_read ..) (by decide) nofun) rfl
  have target : ∀ k, Arithmetic.chosen (k + 58) ⟨false, ' ' :: '=' :: ' ' :: after, .name ⟨"i", none⟩, .finish,
      'i' :: ' ' :: '=' :: ' ' :: after, none⟩ =
      (.name ⟨"i", none⟩, ⟨false, ' ' :: after, .assigning none, .name ⟨"i", none⟩, '=' :: ' ' :: after, none⟩) := by
    intro k
    have alone := name_raised (k := k + 43) rfl equals rfl
    exact chosen_over (level_goes (level_goes (level_raised alone) |>.trans (joined_over rfl)) |>.trans
      (joined_over rfl)) (fun _ _ => rfl) nofun
  rw [shape]
  exact read_whole blank name (fun k => listed_over (assigned_goes (target k) rfl rfl number (given k)) rfl) rfl rfl

theorem bytes_read {ds : List Char} (numeral : Numeral ds) :
    Arithmetic.read false (bytesText (String.ofList ds)) = ⟨bytesSum (Arithmetic.wrap (numeralValue ds)), none⟩ := by
  let n := Arithmetic.wrap (numeralValue ds)
  let after := " * multiplier + frac_bytes ".toList
  let text := ' ' :: '1' :: '0' :: '#' :: (ds ++ after)
  have shape : bytesText (String.ofList ds) = String.ofList text := by
    rw [← String.toList_inj]
    simp [bytesText, text, after]
  have found := @nextToken_based ds after numeral .finish .finish (by simp [Parted, after])
  have number : Goes ⟨false, text, .finish, .finish, text, none⟩
      ⟨false, after, .number n, .finish, '1' :: '0' :: '#' :: (ds ++ after), none⟩ :=
    goes_to rfl found nofun
  have times : Goes ⟨false, after, .number n, .finish, '1' :: '0' :: '#' :: (ds ++ after), none⟩
      ⟨false, " multiplier + frac_bytes ".toList, .mark "*", .number n, "* multiplier + frac_bytes ".toList, none⟩ :=
    goes_to rfl rfl nofun
  have size : Goes ⟨false, " multiplier + frac_bytes ".toList, .mark "*", .number n, "* multiplier + frac_bytes ".toList, none⟩
      ⟨false, " + frac_bytes ".toList, .name ⟨"multiplier", none⟩, .mark "*", "multiplier + frac_bytes ".toList, none⟩ :=
    goes_to rfl rfl nofun
  have plus : Goes ⟨false, " + frac_bytes ".toList, .name ⟨"multiplier", none⟩, .mark "*", "multiplier + frac_bytes ".toList, none⟩
      ⟨false, " frac_bytes ".toList, .mark "+", .name ⟨"multiplier", none⟩, "+ frac_bytes ".toList, none⟩ :=
    goes_to rfl rfl nofun
  have carry : Goes ⟨false, " frac_bytes ".toList, .mark "+", .number 0, "+ frac_bytes ".toList, none⟩
      ⟨false, [' '], .name ⟨"frac_bytes", none⟩, .mark "+", "frac_bytes ".toList, none⟩ :=
    goes_to rfl rfl nofun
  have ended : Goes ⟨false, [' '], .name ⟨"frac_bytes", none⟩, .mark "+", "frac_bytes ".toList, none⟩
      ⟨false, [], .finish, .name ⟨"frac_bytes", none⟩, "frac_bytes ".toList, none⟩ := goes_out rfl
  have blank : text.all Arithmetic.isBlank = false := rfl
  have read : ∀ k, Arithmetic.level (k + 40 + 1) [sumLevel, productLevel]
      ⟨false, after, .number n, .finish, '1' :: '0' :: '#' :: (ds ++ after), none⟩ =
      (bytesSum n, ⟨false, [], .finish, .number 0, "frac_bytes ".toList, none⟩) := by
    intro k
    have first := number_raised (k := k + 35) rfl times rfl
    have second := name_raised (k := k + 34) rfl plus rfl
    have third := name_raised (k := k + 34) rfl ended rfl
    have product : Arithmetic.level (k + 40) [productLevel] ⟨false, after, .number n, .finish, '1' :: '0' :: '#' :: (ds ++ after), none⟩ =
        (.binary .mul (.number n) Memory.size "multiplier + frac_bytes ",
          ⟨false, " frac_bytes ".toList, .mark "+", .number 0, "+ frac_bytes ".toList, none⟩) :=
      (level_goes (level_raised first)).trans
        ((joined_goes .mul rfl size (level_raised second)).trans (joined_over rfl))
    exact (level_goes product).trans ((joined_goes .add rfl carry
      ((level_goes (level_raised third)).trans (joined_over rfl))).trans (joined_over rfl))
  rw [shape]
  exact read_whole blank number (fun k => listed_over (assigned_over (chosen_over (read _) (by decide) nofun) rfl) rfl) rfl rfl

end Symbolic

section Closed

def stepText (digit : Char) : String := " (" ++ (String.singleton digit ++ " * multiplier + frac_bytes) / 10 ")

def stepSum (n : Nat) : Expr :=
  .binary .div
    (.binary .add (.binary .mul (.number n) size "multiplier + frac_bytes) / 10 ") carry "frac_bytes) / 10 ")
    (.number 10) "10 "

def limitText : String := " (9223372036854775807 - frac_bytes) / multiplier "

def limitSum : Expr :=
  .binary .div (.binary .sub (.number 9223372036854775807) carry "frac_bytes) / multiplier ") size "multiplier "

theorem digit_listed {c : Char} (digit : isDigit c = true) : c ∈ "0123456789".toList := by
  have low : 48 ≤ c.toNat ∧ c.toNat ≤ 57 := by
    simp only [isDigit, Bool.and_eq_true, decide_eq_true_eq, Char.le_def, UInt32.le_iff_toNat_le] at digit
    exact digit
  have all : ∀ n : Nat, 48 ≤ n → n ≤ 57 → Char.ofNat n ∈ "0123456789".toList := by
    intro n low high
    interval_cases n <;> decide
  rw [← Char.ofNat_toNat c]
  exact all c.toNat low.1 low.2

theorem step_read {c : Char} (digit : isDigit c = true) :
    Arithmetic.read false (stepText c) = ⟨stepSum (digitValue c), none⟩ := by
  have all : ∀ c ∈ "0123456789".toList, Arithmetic.read false (stepText c) = ⟨stepSum (digitValue c), none⟩ :=
    List.all_iff_forall_prop.mp (by decide +kernel)
  exact all c (digit_listed digit)

theorem limit_read : Arithmetic.read false limitText = ⟨limitSum, none⟩ := by decide +kernel

end Closed

section Exact

variable {u : ByteUnit} {n m : Nat} {c : Char} {ds : List Char}

-- What the variables hold while bytes are computed.
def counted (u : ByteUnit) (carry : Nat) : Known := fun x =>
  if x = "multiplier" then some u.bytes else if x = "frac_bytes" then some carry else none

theorem size_exact (u : ByteUnit) (carry : Nat) : reckoned? (counted u carry) size = some u.bytes := by
  have small : u.bytes < 2 ^ 63 := Nat.lt_of_le_of_lt (bytes_le u) (by decide)
  exact name_exact rfl small

theorem carry_exact (u : ByteUnit) (small : m < 2 ^ 63) : reckoned? (counted u m) carry = some m := by
  exact name_exact rfl small

theorem product_exact (fits : n * u.bytes < 2 ^ 63) (behind : String) :
    reckoned? (counted u m) (.binary .mul (.number n) size behind) = some (n * u.bytes) := by
  have small : n < 2 ^ 63 := Nat.lt_of_le_of_lt (Nat.le_mul_of_pos_right n (bytes_pos u)) fits
  exact binary_exact behind (number_exact small) (size_exact u m) (multiplied fits)

-- The bytes of a digit and of the digits behind it.
theorem step_exactly (digits : ∀ d ∈ c :: ds, isDigit d = true) :
    Exactly (counted u (carried u.bytes ds)) (stepText c) (carried u.bytes (c :: ds)) := by
  have bound := step_lt (bytes_pos u) digits
  have least := bytes_le u
  have low : carried u.bytes ds < 2 ^ 63 := by omega
  have high : digitValue c * u.bytes + carried u.bytes ds < 2 ^ 63 := by omega
  have product := @product_exact u (digitValue c) (carried u.bytes ds) (by omega) "multiplier + frac_bytes) / 10 "
  have sum := binary_exact "frac_bytes) / 10 " product (carry_exact u low) (added high)
  exact ⟨_, step_read (digits c (List.mem_cons_self ..)),
    binary_exact "10 " sum (number_exact (by decide)) (divided high (by decide))⟩

-- The greatest number of whole units beside a fraction.
theorem limit_exactly (fits : m ≤ maxBytes) :
    Exactly (counted u m) limitText ((maxBytes - m) / u.bytes) := by
  have most : maxBytes = 9223372036854775807 := rfl
  rw [most] at fits ⊢
  have small : m < 2 ^ 63 := by omega
  have first := @number_exact (counted u m) 9223372036854775807 (by decide)
  have difference := binary_exact "frac_bytes) / multiplier " first (carry_exact u small) (subtracted (by decide) fits)
  exact ⟨_, limit_read, binary_exact "multiplier " difference (size_exact u m) (divided (by omega) (bytes_pos u))⟩

theorem bytes_exactly (numeral : Numeral ds) (fits : numeralValue ds * u.bytes + m ≤ maxBytes) :
    Exactly (counted u m) (bytesText (String.ofList ds)) (numeralValue ds * u.bytes + m) := by
  have most : maxBytes = 9223372036854775807 := rfl
  rw [most] at fits
  have scaled := Nat.le_mul_of_pos_right (numeralValue ds) (bytes_pos u)
  have read := bytes_read numeral
  rw [wrap_small (by omega) (by omega)] at read
  have product := @product_exact u (numeralValue ds) m (by omega) "multiplier + frac_bytes "
  exact ⟨_, read, binary_exact "frac_bytes " product (carry_exact u (by omega)) (added (by omega))⟩

end Exact

end Toolwrap.Memory
