import Mathlib.Data.Rat.Floor
import Mathlib.Tactic.FieldSimp
import Toolwrap.Proofs.Memory.Agreement

-- The number of bytes of a text, by what it says: a decimal number, which is a rational, times a power
-- of 1024, rounded down once. What is read is that number wherever 63 bits hold it, and so it does not
-- depend on how the same number is written.

namespace Toolwrap.Memory

open Running

section Notation

def digit (k : Fin 10) : Char := Nat.digitChar k

-- The value of digits, the most significant of which comes first.
def wholeOf : List (Fin 10) → ℚ
  | [] => 0
  | k :: ks => k * 10 ^ ks.length + wholeOf ks

-- The value of the digits behind a point.
def fractionOf : List (Fin 10) → ℚ
  | [] => 0
  | k :: ks => (k + fractionOf ks) / 10

inductive Decimal : List Char → ℚ → Prop
  | whole (ks : List (Fin 10)) (filled : ks ≠ []) : Decimal (ks.map digit) (wholeOf ks)
  | mixed (ks fs : List (Fin 10)) (filled : ks ≠ []) (also : fs ≠ []) :
      Decimal (ks.map digit ++ '.' :: fs.map digit) (wholeOf ks + fractionOf fs)
  | fraction (fs : List (Fin 10)) (filled : fs ≠ []) : Decimal ('.' :: fs.map digit) (fractionOf fs)

def unitLetters : List (Char × Nat) := [('k', 1), ('m', 2), ('g', 3), ('t', 4), ('p', 5)]

-- The power of 1024 that is written behind a number.
inductive Power : List Char → Nat → Prop
  | none : Power [] 0
  | bytes : Power ['b'] 0
  | letter {c : Char} {k : Nat} (listed : (c, k) ∈ unitLetters) : Power [c] k
  | closed {c : Char} {k : Nat} (listed : (c, k) ∈ unitLetters) : Power [c, 'b'] k

-- A text amounts to a number of bytes: its rational value, rounded down.
def AmountsTo (t : List Char) (n : Nat) : Prop :=
  ∃ number suffix q k, t = number ++ suffix ∧ Decimal number q ∧ Power suffix k ∧ (n : Int) = ⌊q * 1024 ^ k⌋

end Notation

section Values

variable {ds : List Char} {c : Char} {suffix t : List Char} {k n : Nat} {q : ℚ}

theorem digit_isDigit (k : Fin 10) : isDigit (digit k) = true := by
  revert k
  decide

theorem digitValue_digit (k : Fin 10) : digitValue (digit k) = k := by
  revert k
  decide

theorem isDigit_digit (one : isDigit c = true) : ∃ k, digit k = c := by
  have ascii : isAscii c = true := by
    simp only [isDigit, Bool.and_eq_true, decide_eq_true_eq, Char.le_def, UInt32.le_iff_toNat_le] at one
    refine decide_eq_true (lt_of_le_of_lt one.2 ?_)
    decide
  exact ascii_all (P := fun c => isDigit c = true → ∃ k, digit k = c) (by decide) ascii one

theorem digits_written : (∀ c ∈ ds, isDigit c = true) ↔ ∃ ks : List (Fin 10), ks.map digit = ds := by
  constructor
  · intro digits
    have written : ds ∈ Set.range (List.map digit) := by
      rw [Set.range_list_map]
      exact fun c member => isDigit_digit (digits c member)
    exact written
  · rintro ⟨ks, rfl⟩ c member
    obtain ⟨k, -, rfl⟩ := List.mem_map.mp member
    exact digit_isDigit k

theorem wholeOf_eq (ks : List (Fin 10)) : wholeOf ks = digitsValue (ks.map digit) := by
  induction ks with
  | nil => rfl
  | cons k ks value =>
    rw [wholeOf, value, List.map_cons, digitsValue_cons, digitValue_digit, List.length_map]
    push_cast
    rfl

theorem fractionOf_eq (fs : List (Fin 10)) : fractionOf fs = digitsValue (fs.map digit) / 10 ^ fs.length := by
  induction fs with
  | nil => simp [fractionOf, digitsValue]
  | cons k fs value =>
    rw [fractionOf, value, List.map_cons, digitsValue_cons, digitValue_digit, List.length_map, List.length_cons]
    push_cast
    field_simp
    ring

-- The value of an amount, before its unit.
def Amount.value (a : Amount) : ℚ := digitsValue a.whole + digitsValue a.fraction / 10 ^ a.fraction.length

-- A number is a way to write the digits of an amount.
theorem decimal_iff : Decimal ds q ↔ ∃ a : Amount, (∀ c ∈ a.whole, isDigit c = true) ∧
    (∀ c ∈ a.fraction, isDigit c = true) ∧ (a.fraction = [] → a.whole ≠ []) ∧ ds = a.numberText ∧ q = a.value := by
  constructor
  · have written : ∀ ks : List (Fin 10), ∀ c ∈ ks.map digit, isDigit c = true :=
      fun ks => digits_written.mpr ⟨ks, rfl⟩
    have filled : ∀ {fs : List (Fin 10)}, fs ≠ [] → (fs.map digit).isEmpty = false := by
      intro fs some_
      simpa using some_
    rintro (⟨ks, some_⟩ | ⟨ks, fs, some_, also⟩ | ⟨fs, some_⟩)
    · refine ⟨⟨ks.map digit, [], .b⟩, written ks, List.forall_mem_nil _, fun _ => by simpa using some_, rfl, ?_⟩
      simp [Amount.value, wholeOf_eq, digitsValue]
    · refine ⟨⟨ks.map digit, fs.map digit, .b⟩, written ks, written fs, fun _ => by simpa using some_, ?_, ?_⟩
      · rw [Amount.numberText, if_neg (by simp [also])]
      · simp [Amount.value, wholeOf_eq, fractionOf_eq]
    · refine ⟨⟨[], fs.map digit, .b⟩, List.forall_mem_nil _, written fs, fun none_ => absurd none_ (by simpa using some_), ?_, ?_⟩
      · rw [Amount.numberText, if_neg (by simp [some_])]
        rfl
      · simp [Amount.value, fractionOf_eq, digitsValue]
  · rintro ⟨⟨whole, fraction, u⟩, first, second, filled, rfl, rfl⟩
    obtain ⟨ks, rfl⟩ := digits_written.mp first
    obtain ⟨fs, rfl⟩ := digits_written.mp second
    have value : Amount.value ⟨ks.map digit, fs.map digit, u⟩ = wholeOf ks + fractionOf fs := by
      simp [Amount.value, wholeOf_eq, fractionOf_eq]
    rw [value, Amount.numberText]
    cases fs with
    | nil =>
      have some_ : ks ≠ [] := by simpa using filled rfl
      simpa [fractionOf] using Decimal.whole ks some_
    | cons f fs =>
      rw [if_neg (by simp)]
      cases ks with
      | nil => simpa [wholeOf] using Decimal.fraction (f :: fs) (List.cons_ne_nil _ _)
      | cons k ks => exact Decimal.mixed (k :: ks) (f :: fs) (List.cons_ne_nil _ _) (List.cons_ne_nil _ _)

theorem power_iff : Power suffix k ↔ ∃ u, ByteUnit.ofSuffix? suffix = some u ∧ u.power = k := by
  have listed_cases : ∀ {c : Char} {k : Nat}, (c, k) ∈ unitLetters →
      ∀ rest, rest = [] ∨ rest = ['b'] → ∃ u, ByteUnit.ofSuffix? (c :: rest) = some u ∧ u.power = k := by
    intro c k listed rest closing
    simp only [unitLetters, List.mem_cons, Prod.mk.injEq, List.not_mem_nil, or_false] at listed
    rcases closing with rfl | rfl <;> rcases listed with ⟨rfl, rfl⟩ | ⟨rfl, rfl⟩ | ⟨rfl, rfl⟩ | ⟨rfl, rfl⟩ | ⟨rfl, rfl⟩ <;>
      exact ⟨_, rfl, rfl⟩
  constructor
  · rintro (_ | _ | listed | listed)
    · exact ⟨.b, rfl, rfl⟩
    · exact ⟨.b, rfl, rfl⟩
    · exact listed_cases listed [] (Or.inl rfl)
    · exact listed_cases listed ['b'] (Or.inr rfl)
  · rintro ⟨u, named, rfl⟩
    rcases ofSuffix_cases named with rfl | rfl | ⟨c, led, written⟩
    · obtain rfl := Option.some.inj named
      exact .none
    · obtain rfl := Option.some.inj named
      exact .bytes
    · have listed : (c, u.power) ∈ unitLetters := by
        rcases prefix_cases led with rfl | rfl | rfl | rfl | rfl <;> rcases written with rfl | rfl <;>
          obtain rfl := Option.some.inj named <;> decide
      rcases written with rfl | rfl
      · exact .letter listed
      · exact .closed listed

-- Rounding down the bytes of the fraction rounds down all bytes.
theorem floorBytes_floor (a : Amount) : (a.floorBytes : Int) = ⌊a.value * 1024 ^ a.unit.power⌋ := by
  have parts : a.value * 1024 ^ a.unit.power = ((digitsValue a.whole * a.unit.bytes : Nat) : ℚ) +
      ((digitsValue a.fraction * a.unit.bytes : Nat) : ℚ) / ((10 ^ a.fraction.length : Nat) : ℚ) := by
    have size : (a.unit.bytes : ℚ) = 1024 ^ a.unit.power := by
      rw [ByteUnit.bytes, Nat.pow_eq]
      push_cast
      rfl
    rw [Amount.value, ← size]
    push_cast
    ring
  rw [parts, Int.floor_natCast_add, Rat.floor_natCast_div_natCast]
  rfl

-- The text of an amount amounts to its bytes, and no other number.
theorem amounts_iff : AmountsTo t n ↔ ∃ a, Amount.ofChars? t = some a ∧ a.floorBytes = n := by
  constructor
  · rintro ⟨number, suffix, q, k, rfl, decimal, power, floor⟩
    obtain ⟨⟨whole, fraction, _⟩, first, second, filled, rfl, rfl⟩ := decimal_iff.mp decimal
    obtain ⟨u, named, rfl⟩ := power_iff.mp power
    have stated : States (Amount.numberText ⟨whole, fraction, u⟩ ++ suffix) ⟨whole, fraction, u⟩ suffix :=
      ⟨first, second, filled, named, rfl⟩
    refine ⟨⟨whole, fraction, u⟩, ofChars_states.mpr ⟨suffix, stated⟩, ?_⟩
    rw [← Int.natCast_inj, floor]
    exact floorBytes_floor _
  · rintro ⟨a, read, rfl⟩
    obtain ⟨suffix, stated⟩ := ofChars_states.mp read
    exact ⟨a.numberText, suffix, a.value, a.unit.power, stated.parts,
      decimal_iff.mpr ⟨a, stated.whole, stated.fraction, stated.filled, rfl, rfl⟩,
      power_iff.mpr ⟨a.unit, stated.unit, rfl⟩, floorBytes_floor a⟩

end Values

section Reading

variable {x y : String}

-- What is read where no numeral is too long.
theorem parse_short_eq (short : Short x) :
    parse x = match Amount.ofChars? (normalised x).toList with
      | none => .error (.malformed x)
      | some a => if maxBytes < a.floorBytes then .error (.tooLarge x) else .ok a.floorBytes := by
  rw [parse]
  cases read : Amount.ofChars? (normalised x).toList with
  | none => rfl
  | some a =>
    obtain ⟨suffix, stated⟩ := ofChars_states.mp read
    obtain ⟨whole, fraction⟩ := numerals_short short stated
    simp only [Nat.not_lt.mpr whole, Nat.not_lt.mpr fraction, if_false]

-- Texts of one normal form are read alike.
theorem parse_alike (same : normalised y = normalised x) : (parse y).toOption = (parse x).toOption := by
  rw [parse, parse, same]
  cases Amount.ofChars? (normalised x).toList with
  | none => rfl
  | some a =>
    dsimp only
    split_ifs <;> rfl

-- Texts that state amounts of the same number of bytes are read alike.
theorem parse_worth (short : Short x) (also : Short y)
    (worth : (Amount.ofChars? (normalised y).toList).map Amount.floorBytes =
      (Amount.ofChars? (normalised x).toList).map Amount.floorBytes) :
    (parse y).toOption = (parse x).toOption := by
  have read : ∀ {z : String}, Short z → (parse z).toOption =
      ((Amount.ofChars? (normalised z).toList).map Amount.floorBytes).bind
        fun n => if maxBytes < n then none else some n := by
    intro z few
    rw [parse_short_eq few]
    cases Amount.ofChars? (normalised z).toList with
    | none => rfl
    | some a =>
      rw [Option.map_some, Option.bind_some]
      dsimp only
      split_ifs <;> rfl
  rw [read short, read also, worth]

end Reading

-- The second text is the first one with blanks put in.
inductive Spaced : List Char → List Char → Prop
  | nil : Spaced [] []
  | kept {s t : List Char} (c : Char) (rest : Spaced s t) : Spaced (c :: s) (c :: t)
  | blank {s t : List Char} {c : Char} (one : Text.isBlank c = true) (rest : Spaced s t) : Spaced s (c :: t)

section Normalised

variable {x y : String} {s t : List Char} {c : Char}

theorem spaced_filter (spaced : Spaced s t) :
    t.filter (fun c => !Text.isBlank c) = s.filter (fun c => !Text.isBlank c) := by
  induction spaced with
  | nil => rfl
  | kept c _ same => rw [List.filter_cons, List.filter_cons, same]
  | blank one _ same => rw [List.filter_cons_of_neg (by simp [one]), same]

theorem spaced_normalised (spaced : Spaced x.toList y.toList) : normalised y = normalised x := by
  rw [normalised, normalised, Text.withoutBlanks, Text.withoutBlanks, spaced_filter spaced]

-- What each of the first small letters shares with its capital, every character shares with its small form.
theorem small_alike {α : Type} {f : Char → α} (letters : ∀ b < 26, f (Char.ofNat (97 + b)) = f (Char.ofNat (65 + b))) (c : Char) :
    f c.toLower = f c := by
  by_cases capital : 'A' ≤ c ∧ c ≤ 'Z'
  · have range : 65 ≤ c.toNat ∧ c.toNat ≤ 90 := capital
    obtain ⟨b, place⟩ := Nat.exists_eq_add_of_le range.1
    obtain rfl : c = Char.ofNat (65 + b) := by rw [← place, Char.ofNat_toNat]
    have inside : b < 26 := by omega
    have small : ∀ b < 26, (Char.ofNat (65 + b)).toLower = Char.ofNat (97 + b) := by decide
    rw [small b inside, letters b inside]
  · have other : c.toLower = c := dif_neg capital
    rw [other]

theorem casedAhead_small (s : List Char) : Text.casedAhead (s.map Char.toLower) = Text.casedAhead s := by
  have skipped : Text.isCaseSkipped ∘ Char.toLower = Text.isCaseSkipped :=
    funext (small_alike (f := Text.isCaseSkipped) (by decide +kernel))
  rw [Text.casedAhead, List.dropWhile_map, skipped, Text.casedAhead, List.head?_map]
  cases (s.dropWhile Text.isCaseSkipped).head? with
  | none => rfl
  | some c => exact small_alike (f := Text.isCased) (by decide +kernel) c

theorem lowerFrom_small (s : List Char) (inWord : Bool) :
    Text.lowerFrom inWord (s.map Char.toLower) = Text.lowerFrom inWord s := by
  induction s generalizing inWord with
  | nil => rfl
  | cons c s same =>
    have sigma : (c.toLower == 'Σ') = (c == 'Σ') := small_alike (f := (· == 'Σ')) (by decide +kernel) c
    have letter : Text.lowerChar c.toLower = Text.lowerChar c := small_alike (by decide +kernel) c
    have skipped : Text.isCaseSkipped c.toLower = Text.isCaseSkipped c := small_alike (by decide +kernel) c
    have cased : Text.isCased c.toLower = Text.isCased c := small_alike (by decide +kernel) c
    rw [List.map_cons, Text.lowerFrom, Text.lowerFrom, sigma, letter, skipped, cased, casedAhead_small, same]

theorem cased_normalised (cased : y.toList.map Char.toLower = x.toList.map Char.toLower) : normalised y = normalised x := by
  have blank : (fun c => !Text.isBlank c) ∘ Char.toLower = fun c => !Text.isBlank c :=
    funext (small_alike (f := fun c => !Text.isBlank c) (by decide +kernel))
  have small : ∀ z : String, normalised z =
      String.ofList (Text.lowerFrom false ((z.toList.map Char.toLower).filter fun c => !Text.isBlank c)) := by
    intro z
    rw [normalised, Text.lower, Text.withoutBlanks, String.toList_ofList, List.filter_map, blank, lowerFrom_small]
  rw [small, small, cased]

end Normalised

section Zeros

variable {whole fraction zeros rest t : List Char}

theorem digitsValue_append (ds es : List Char) :
    digitsValue (ds ++ es) = digitsValue ds * 10 ^ es.length + digitsValue es := by
  rw [digitsValue, List.foldl_append, foldl_digits]
  rfl

theorem digitsValue_zeros (zero : ∀ c ∈ zeros, c = '0') : digitsValue zeros = 0 := by
  induction zeros with
  | nil => rfl
  | cons c cs none_ =>
    obtain rfl := zero c (List.mem_cons_self ..)
    rw [digitsValue_cons, none_ fun d member => zero d (List.mem_cons_of_mem _ member)]
    exact Nat.zero_mul _

theorem zeros_digits (zero : ∀ c ∈ zeros, c = '0') : ∀ c ∈ zeros, isDigit c = true :=
  fun c member => zero c member ▸ rfl

-- Zeros in front of a number are more digits of its whole part.
theorem ofChars_leading (zero : ∀ c ∈ zeros, c = '0') (begins : ∃ c ∈ t.head?, isDigit c = true ∨ c = '.') :
    Amount.ofChars? (zeros ++ t) = (Amount.ofChars? t).map fun a => { a with whole := zeros ++ a.whole } := by
  have digits := zeros_digits zero
  unfold Amount.ofChars?
  rw [List.takeWhile_append_of_pos digits, List.dropWhile_append_of_pos digits]
  dsimp only
  split
  · split_ifs
    · rfl
    · rw [Option.map_map]
      rfl
  · rename_i rest other
    have filled : (t.takeWhile isDigit).isEmpty = false := by
      obtain ⟨c, head, one | rfl⟩ := begins
      · cases t with
        | nil => cases head
        | cons d t =>
          obtain rfl := Option.some.inj head
          rw [List.takeWhile_cons_of_pos one]
          rfl
      · cases t with
        | nil => cases head
        | cons d t =>
          obtain rfl := Option.some.inj head
          exact absurd rfl (other t)
    have more : (zeros ++ t.takeWhile isDigit).isEmpty = false := by
      rw [List.isEmpty_eq_false_iff] at filled ⊢
      exact List.append_ne_nil_of_right_ne_nil _ filled
    rw [filled, more, if_neg Bool.false_ne_true, if_neg Bool.false_ne_true, Option.map_map]
    rfl

-- What is read of a number with a fraction, which ends before what is no digit.
theorem ofChars_fraction (digits : ∀ c ∈ whole, isDigit c = true) (also : ∀ c ∈ fraction, isDigit c = true)
    (filled : fraction ≠ []) (apart : ∀ c ∈ rest.head?, isDigit c = false) :
    Amount.ofChars? (whole ++ '.' :: (fraction ++ rest)) = (ByteUnit.ofSuffix? rest).map (⟨whole, fraction, ·⟩) := by
  have outer := @span_digits whole ('.' :: (fraction ++ rest)) digits fun c head => Option.some.inj head ▸ rfl
  have inner := span_digits also apart
  unfold Amount.ofChars?
  simp only [outer.1, outer.2, inner.1, inner.2]
  rw [if_neg (by simpa using filled)]

theorem floorBytes_leading (zero : ∀ c ∈ zeros, c = '0') (a : Amount) :
    ({ a with whole := zeros ++ a.whole } : Amount).floorBytes = a.floorBytes := by
  rw [Amount.floorBytes, Amount.floorBytes, digitsValue_append, digitsValue_zeros zero, Nat.zero_mul, Nat.zero_add]

theorem floorBytes_trailing (zero : ∀ c ∈ zeros, c = '0') (u : ByteUnit) :
    Amount.floorBytes ⟨whole, fraction ++ zeros, u⟩ = Amount.floorBytes ⟨whole, fraction, u⟩ := by
  have scaled : digitsValue (fraction ++ zeros) * u.bytes = digitsValue fraction * u.bytes * 10 ^ zeros.length := by
    rw [digitsValue_append, digitsValue_zeros zero, Nat.add_zero, Nat.mul_right_comm]
  have tens : Nat.pow 10 (fraction ++ zeros).length = Nat.pow 10 fraction.length * 10 ^ zeros.length := by
    rw [List.length_append, Nat.pow_eq, Nat.pow_add]
    rfl
  rw [Amount.floorBytes, Amount.floorBytes]
  dsimp only
  rw [scaled, tens, Nat.mul_div_mul_right _ _ (Nat.pow_pos (by decide))]

end Zeros

section Exact

variable {x : String}

theorem amounts_one {t : List Char} {m n : Nat} (one : AmountsTo t m) (other : AmountsTo t n) : m = n := by
  obtain ⟨a, read, rfl⟩ := amounts_iff.mp one
  obtain ⟨b, again, rfl⟩ := amounts_iff.mp other
  rw [Option.some.inj (read.symm.trans again)]

-- What is read of a text is the number of bytes that it amounts to, if there is one and 63 bits hold it.
theorem parse_cases (short : Short x) :
    (∀ n, parse x = .ok n ↔ AmountsTo (normalised x).toList n ∧ n ≤ 2 ^ 63 - 1) ∧
    (parse x = .error (.malformed x) ↔ ∀ n, ¬ AmountsTo (normalised x).toList n) ∧
    (parse x = .error (.tooLarge x) ↔ ∃ n, AmountsTo (normalised x).toList n ∧ 2 ^ 63 - 1 < n) := by
  rw [parse_short_eq short]
  have bound : maxBytes = 2 ^ 63 - 1 := rfl
  cases read : Amount.ofChars? (normalised x).toList with
  | none =>
    have nothing : ∀ n, ¬ AmountsTo (normalised x).toList n := by
      intro n amounts
      obtain ⟨a, found, -⟩ := amounts_iff.mp amounts
      rw [read] at found
      cases found
    exact ⟨fun n => ⟨nofun, fun amounts => absurd amounts.1 (nothing n)⟩, ⟨fun _ => nothing, fun _ => rfl⟩,
      ⟨nofun, fun ⟨n, amounts, _⟩ => absurd amounts (nothing n)⟩⟩
  | some a =>
    have amounts : AmountsTo (normalised x).toList a.floorBytes := amounts_iff.mpr ⟨a, read, rfl⟩
    dsimp only
    by_cases large : maxBytes < a.floorBytes
    · rw [if_pos large]
      refine ⟨fun n => ⟨nofun, fun ⟨other, fits⟩ => ?_⟩, ⟨nofun, fun nothing => absurd amounts (nothing _)⟩,
        ⟨fun _ => ⟨_, amounts, bound ▸ large⟩, fun _ => rfl⟩⟩
      rw [amounts_one amounts other] at large
      exact absurd (bound ▸ large) (Nat.not_lt.mpr fits)
    · rw [if_neg large]
      refine ⟨fun n => ⟨fun same => ?_, fun ⟨other, _⟩ => congrArg _ (amounts_one amounts other)⟩,
        ⟨nofun, fun nothing => absurd amounts (nothing _)⟩, ⟨nofun, fun ⟨n, other, more⟩ => ?_⟩⟩
      · obtain rfl := Except.ok.inj same
        exact ⟨amounts, bound ▸ Nat.not_lt.mp large⟩
      · rw [amounts_one amounts other] at large
        exact absurd (bound ▸ more) large

theorem leading_zeros_read {y : String} {zeros : List Char} (short : Short x) (also : Short y)
    (zero : ∀ c ∈ zeros, c = '0') (more : (normalised y).toList = zeros ++ (normalised x).toList)
    (begins : ∃ c ∈ (normalised x).toList.head?, isDigit c = true ∨ c = '.') :
    (parse y).toOption = (parse x).toOption := by
  refine parse_worth short also ?_
  have worth : (Amount.floorBytes ∘ fun a => { a with whole := zeros ++ a.whole }) = Amount.floorBytes :=
    funext (floorBytes_leading zero)
  rw [more, ofChars_leading zero begins, Option.map_map, worth]

theorem trailing_zeros_read {y : String} {whole fraction zeros rest : List Char} (short : Short x) (also : Short y)
    (digits : ∀ c ∈ whole ++ fraction, isDigit c = true) (filled : fraction ≠ []) (zero : ∀ c ∈ zeros, c = '0')
    (apart : ∀ c ∈ rest.head?, isDigit c = false)
    (number : (normalised x).toList = whole ++ '.' :: (fraction ++ rest))
    (more : (normalised y).toList = whole ++ '.' :: (fraction ++ zeros ++ rest)) :
    (parse y).toOption = (parse x).toOption := by
  obtain ⟨first, second⟩ := List.forall_mem_append.mp digits
  refine parse_worth short also ?_
  have longer : ∀ c ∈ fraction ++ zeros, isDigit c = true :=
    List.forall_mem_append.mpr ⟨second, zeros_digits zero⟩
  have worth : (Amount.floorBytes ∘ (⟨whole, fraction ++ zeros, ·⟩)) = Amount.floorBytes ∘ (⟨whole, fraction, ·⟩) :=
    funext (floorBytes_trailing zero)
  rw [number, more, ofChars_fraction first second filled apart,
    ofChars_fraction first longer (List.append_ne_nil_of_left_ne_nil filled _) apart, Option.map_map, Option.map_map, worth]

end Exact

-- What is read is the exact floor, and the same however the number is written.
theorem parse_exact {x : String} (short : Short x) :
    (∀ n, parse x = .ok n ↔ AmountsTo (normalised x).toList n ∧ n ≤ 2 ^ 63 - 1) ∧
    (parse x = .error (.malformed x) ↔ ∀ n, ¬ AmountsTo (normalised x).toList n) ∧
    (parse x = .error (.tooLarge x) ↔ ∃ n, AmountsTo (normalised x).toList n ∧ 2 ^ 63 - 1 < n) ∧
    (∀ y, Spaced x.toList y.toList → (parse y).toOption = (parse x).toOption) ∧
    (∀ y, y.toList.map Char.toLower = x.toList.map Char.toLower → (parse y).toOption = (parse x).toOption) ∧
    (∀ y zeros, Short y → (∀ c ∈ zeros, c = '0') → (normalised y).toList = zeros ++ (normalised x).toList →
      (∃ c ∈ (normalised x).toList.head?, isDigit c = true ∨ c = '.') → (parse y).toOption = (parse x).toOption) ∧
    (∀ y whole fraction zeros rest, Short y → (∀ c ∈ whole ++ fraction, isDigit c = true) → fraction ≠ [] →
      (∀ c ∈ zeros, c = '0') → (∀ c ∈ rest.head?, isDigit c = false) →
      (normalised x).toList = whole ++ '.' :: (fraction ++ rest) →
      (normalised y).toList = whole ++ '.' :: (fraction ++ zeros ++ rest) → (parse y).toOption = (parse x).toOption) := by
  obtain ⟨reads, malformed, tooLarge⟩ := parse_cases short
  exact ⟨reads, malformed, tooLarge, fun _ spaced => parse_alike (spaced_normalised spaced),
    fun _ cased => parse_alike (cased_normalised cased),
    fun _ _ also zero more begins => leading_zeros_read short also zero more begins,
    fun _ _ _ _ _ also digits filled zero apart number more =>
      trailing_zeros_read short also digits filled zero apart number more⟩

theorem parse_exact_at_kilobytes : AmountsTo (normalised "1.5kB").toList 1536 ∧ (parse "1.5 kB").toOption = some 1536 ∧
    (parse "1.5KB").toOption = some 1536 ∧ (parse "001.5kb").toOption = some 1536 ∧
    (parse "1.500 kb").toOption = some 1536 := by
  obtain ⟨reads, -, -, spaced, cased, leading, trailing⟩ := @parse_exact "1.5kB" (few_short (by decide))
  have read : parse "1.5kB" = .ok 1536 := by decide
  have same : (parse "1.5kB").toOption = some 1536 := by rw [read]; rfl
  refine ⟨((reads _).mp read).1, ?_, ?_, ?_, ?_⟩
  · have blank : Spaced "1.5kB".toList "1.5 kB".toList :=
      .kept _ (.kept _ (.kept _ (.blank (by decide) (.kept _ (.kept _ .nil)))))
    rw [spaced "1.5 kB" blank, same]
  · rw [cased "1.5KB" (by decide), same]
  · have zeros : ∀ c ∈ ['0', '0'], c = '0' := by simp
    rw [leading "001.5kb" ['0', '0'] (few_short (by decide)) zeros (by decide) ⟨'1', by decide, by decide⟩, same]
  · have digits : ∀ c ∈ ['1'] ++ ['5'], isDigit c = true := List.all_eq_true.mp (by decide)
    have zeros : ∀ c ∈ ['0', '0'], c = '0' := by simp
    have apart : ∀ c ∈ ['k', 'b'].head?, isDigit c = false := by
      rintro c ⟨⟩
      rfl
    rw [trailing "1.500 kb" ['1'] ['5'] ['0', '0'] ['k', 'b'] (few_short (by decide)) digits (by decide) zeros apart
      (by decide) (by decide), same]

end Toolwrap.Memory
