import Toolwrap.Proofs.Integers.Order
import Toolwrap.Proofs.Memory.Match

-- The bytes of an amount: its whole units are compared with the greatest number of them that
-- fits, and what is not too large is printed.

namespace Toolwrap.Memory

open Shell Running

section Wholes

variable {c : Char} {ds : List Char} {a : Amount} {s suffix : List Char} {v : String} {n : Nat}

theorem isDigit_eq (c : Char) : isDigit c = c.isDigit := by
  simp [isDigit, Char.isDigit, Char.le_def, GE.ge]

theorem digits_eq : (∀ c ∈ ds, isDigit c = true) ↔ Integers.Digits ds := by
  simp only [isDigit_eq]
  rfl

theorem value_eq (ds : List Char) : numeralValue ds = digitsValue ds := rfl

-- A numeral is an integer of the value that it writes.
theorem numeral_integer (numeral : Numeral v.toList) :
    Integers.Whole v ∧ Integers.integerOf v = numeralValue v.toList := by
  have first : ∀ sign : Char, sign.isDigit = false → v.toList.head? ≠ some sign := by
    intro sign other head
    exact digit_ne (numeral.digits sign (List.mem_of_head? head)) other rfl
  have same := Integers.behindSign_other (first '-' rfl) (first '+' rfl)
  refine ⟨?_, ?_⟩
  · rw [Integers.Whole, same]
    exact numeral.digits
  · rw [Integers.integerOf, if_neg (first '-' rfl), same]

-- A number has no more digits than it counts, but for zero.
theorem toString_length (n : Nat) : (toString n).length ≤ max 1 n := by
  have value := toString_value n
  have numeral := toString_numeral n
  rw [← String.length_toList]
  cases shape : (toString n).toList with
  | nil => simp
  | cons c ds =>
    rw [shape] at value numeral
    by_cases zero : c = '0'
    · have front := toString_front n
      rw [shape, zero] at front
      rcases front with alone | other
      · have none_ := (List.cons.inj alone).2
        simp [none_]
      · exact absurd rfl other
    · have least := @Integers.le_value c ds (numeral.digits c (List.mem_cons_self ..)) zero
      have small := @Nat.lt_pow_self ds.length 10 (by decide)
      rw [List.length_cons]
      omega

theorem wholeText_numeral (digits : ∀ c ∈ a.whole, isDigit c = true) : Numeral (wholeText a).toList := by
  have all := digits_eq.mp digits
  unfold wholeText
  dsimp only
  split
  · exact ⟨by decide, List.all_iff_forall_prop.mp (by decide)⟩
  · rename_i filled
    refine ⟨?_, ?_⟩
    · simpa using filled
    · intro c member
      rw [Integers.stripped, String.toList_ofList, String.toList_ofList] at member
      exact all c ((List.dropWhile_suffix _).subset member)

theorem wholeText_value (a : Amount) :
    numeralValue (wholeText a).toList = digitsValue a.whole := by
  have value := Integers.stripped_value (String.ofList a.whole)
  rw [String.toList_ofList] at value
  rw [← value_eq, ← value]
  unfold wholeText
  dsimp only
  split
  · rename_i empty
    rw [String.isEmpty_iff] at empty
    rw [empty]
    rfl
  · rfl

theorem wholeText_length (a : Amount) : (wholeText a).length ≤ a.whole.length + 1 := by
  unfold wholeText
  dsimp only
  split
  · exact Nat.le_add_left ..
  · rw [Integers.stripped, String.toList_ofList, String.length_ofList]
    exact Nat.le_succ_of_le (List.dropWhile_suffix _).length_le

end Wholes

section Comparing

variable {E deeper : Engine} {c : Session} {marks : String → Bool} {status n total : Nat} {x m : String} {a : Amount}
  {i : Content}

theorem whole_held : ((partsOf m a).counting total i).lookup "int_part" = some (.text (wholeText a)) := by
  have held : ∀ p : Parts, (p.counting total i).lookup "int_part" = some (.text p.whole) := fun _ => rfl
  rw [held, partsOf]

-- The greatest number of whole units that fits beside a fraction.
theorem limit_reckons (u : total ≤ maxBytes) : Reckons E (within c marks ((partsOf m a).counting total i) status)
    limitParts ((maxBytes - total) / a.unit.bytes) := by
  have parts : limitText = " " ++ ("(" ++ ("9223372036854775807 - frac_bytes" ++ (")" ++ " / multiplier "))) := rfl
  have spelled : Spells E (within c marks ((partsOf m a).counting total i) status) limitParts limitText := by
    rw [parts]
    exact spells_cons (spells_text _) (spells_cons (spells_text _) (spells_cons (spells_text _)
      (spells_cons (spells_text _) (spells_text _))))
  exact ⟨_, _, counting_knows, spelled, limit_exactly u⟩

-- All bytes, where they are not too many.
theorem bytes_reckons (quiet : Quiet c) (digits : ∀ c ∈ a.whole, isDigit c = true)
    (fits : digitsValue a.whole * a.unit.bytes + total ≤ maxBytes) :
    Reckons E (within c marks ((partsOf m a).counting total i) status) bytesParts
      (digitsValue a.whole * a.unit.bytes + total) := by
  let s := within c marks ((partsOf m a).counting total i) status
  have calm : Quiet s := quiet
  have numeral := wholeText_numeral digits
  rw [← wholeText_value] at fits ⊢
  have held : Stands s "int_part" (some (wholeText a)) := within_stands (by decide) whole_held
  have whole : Spells E s [ref "int_part"] (wholeText a) := value_spells calm held
  have spelled : Spells E s bytesParts (bytesText (wholeText a)) :=
    spells_cons (spells_text _) (spells_cons whole (spells_text _))
  have exactly := @bytes_exactly a.unit total _ numeral fits
  rw [String.ofList_toList] at exactly
  exact ⟨_, _, counting_knows, spelled, exactly⟩

variable (runs : E.script = runScript deeper) (serves : Serves c marks x)

include runs serves

-- Whether there are more whole units than fit, as a condition asks for it.
theorem compared_comesTo (digits : ∀ c ∈ a.whole, isDigit c = true) (few : a.whole.length + 1 < 2 ^ 63)
    (u : total ≤ maxBytes) :
    ComesTo (runScript E [.located n (run [bare "bw_integer_less", [.arith limitParts], quotedRef "int_part"])])
      { within c marks ((partsOf m a).counting total i) status with shielded := true }
      (.ok () { within { c with givesWay := false } marks ((partsOf m a).counting total i)
          (Integers.codeOf (decide ((maxBytes - total) / a.unit.bytes < digitsValue a.whole))) with shielded := true }) := by
  let sheltered : Session := { c with shielded := true }
  let held := (partsOf m a).counting total i
  let s := within sheltered marks held status
  let limit := (maxBytes - total) / a.unit.bytes
  have calm : Quiet s := serves.quiet
  have computed : Running.Values E s (.arith limitParts) (toString limit) :=
    reckons_values calm (limit_reckons u)
  have outside : ∀ y, held.lookup y = none → Ordinarily c y → Ordinarily s y := fun y absent plain =>
    within_outside absent plain
  have alike : s.separators = c.separators := separators_like (by unfold Session.value?; rw [within_absent rfl]; rfl)
  have uncut : ∀ d ∈ s.separators.chars, d.isDigit = false := alike ▸ serves.uncut
  have stands : Stands s "int_part" (some (wholeText a)) := within_stands (by decide) whole_held
  have whole : Spells E s [ref "int_part"] (wholeText a) := value_spells calm stands
  have reads : Reads E s [bare "bw_integer_less", [.arith limitParts], quotedRef "int_part"]
      ["bw_integer_less", toString limit, wholeText a] :=
    reads_bare "bw_integer_less" (by decide) (by decide) (reads_cons [toString limit] nofun
      (values_number computed nofun uncut) (reads_double [wholeText a] (double_fields whole) reads_nil))
  have first := numeral_integer (toString_numeral limit)
  have second := numeral_integer (wholeText_numeral digits)
  have most : limit ≤ maxBytes := (Nat.div_le_self _ _).trans (Nat.sub_le ..)
  have short := toString_length limit
  have also := wholeText_length a
  have bound : maxBytes = 9223372036854775807 := rfl
  have fresh : ∀ z ∈ Integers.lessNames, held.lookup z = none := by
    intro z listed
    simp only [Integers.lessNames, List.mem_cons, List.not_mem_nil, or_false] at listed
    rcases listed with rfl | rfl | rfl | rfl | rfl <;> rfl
  obtain ⟨f, line, found, body⟩ := serves.compares
  have called := @Integers.less_called E deeper s (toString limit) (wholeText a) runs calm (Or.inl rfl) uncut
    (fun z listed => outside z (fresh z listed) (serves.comparable z listed)) f line body first.1 second.1 (by omega) (by omega)
  rw [first.2, second.2, toString_value, wholeText_value] at called
  simp only [Nat.cast_lt] at called
  exact script_one calm (located_comesTo n (simple_ok calm reads (List.cons_ne_nil _ _) (not_exec (by decide))
    (invoke_function calm found called) calm rfl (Or.inr (Or.inl rfl))))

end Comparing

section Printing

variable {E deeper : Engine} {c : Session} {marks : String → Bool} {held : Held} {status k n : Nat}

theorem number_ascii (n : Nat) : ∀ c ∈ (toString n ++ "\n").toList, isAscii c = true := by
  intro c member
  rw [String.toList_append] at member
  rcases List.mem_append.mp member with digit | feed
  · have bounds := digit_bounds ((toString_numeral n).digits c digit)
    exact decide_eq_true (by omega)
  · obtain rfl := List.mem_singleton.mp feed
    rfl

theorem number_echoed (n : Nat) : echoText [toString n] = toString n ++ "\n" := by
  rcases echo_cases (toString n) with line | ⟨⟨cs, dashed⟩, -⟩
  · exact line
  · have dash := (toString_numeral n).digits '-' (by rw [dashed]; exact List.mem_cons_self ..)
    cases dash

-- The session once a line is printed, which goes to a text.
def printed (c : Session) (k : Nat) (line : String) : Session := c.setTextOf k (c.textOf k ++ line)

theorem number_printed {parts : List Part} (quiet : Quiet c) (uncut : ∀ d ∈ (within c marks held status).separators.chars, d.isDigit = false)
    (leads : c.channel 1 = .text k) (own : c.shared ≤ k) (reckons : Reckons E (within c marks held status) parts n) :
    ComesTo ((run [bare "echo", [.arith parts]]).run E) (within c marks held status)
      (.ok () (within (printed c k (toString n ++ "\n")) marks held 0)) := by
  let s := within c marks held status
  have calm : Quiet s := quiet
  have channel : s.channel 1 = .text k := leads
  have opened : s.channel 1 ≠ .closed := by
    rw [channel]
    exact nofun
  have reads : Reads E s [bare "echo", [.arith parts]] ["echo", toString n] :=
    reads_bare "echo" (by decide) (by decide) (reads_cons [toString n] nofun
      (values_number (reckons_values calm reckons) nofun uncut) reads_nil)
  have echoed := @echo_gives E s calm opened [toString n]
  have firm := ascii_not_loose (number_ascii n)
  rw [number_echoed, channel, @write_text s k _ own firm] at echoed
  exact builtin_ok Builtin.echo calm reads (by decide) rfl (by decide) echoed.comesTo quiet rfl (Or.inl rfl)

end Printing

end Toolwrap.Memory
