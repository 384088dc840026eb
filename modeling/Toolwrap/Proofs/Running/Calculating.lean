import Toolwrap.Proofs.Running.Questions

-- Arithmetic on natural numbers that 64 bits hold: where the values of all operations of an
-- expression are such numbers, the shell comes to its value and never wraps around.

namespace Toolwrap.Running

open Shell

-- The natural numbers that variables hold.
abbrev Known := String → Option Nat

-- A number that 64 bits hold, of those that are not negative.
def fitting (n : Int) : Option Nat := if 0 ≤ n ∧ n.toNat < 2 ^ 63 then some n.toNat else none

def operated (op : Arithmetic.Binary) (m n : Nat) : Option Nat :=
  match op with
  | .add => fitting (m + n)
  | .sub => fitting (m - n)
  | .mul => fitting (m * n)
  | .div => if n = 0 then none else fitting (m / n)
  | _ => none

-- The value of an expression where no number on the way to it leaves the range.
def reckoned? (known : Known) : Arithmetic.Expr → Option Nat
  | .number n => fitting n
  | .name ⟨x, none⟩ => (known x).bind fun n => fitting n
  | .binary op a b _ => (reckoned? known a).bind fun m => (reckoned? known b).bind (operated op m)
  | _ => none

section Exact

variable {n : Int} {m k p : Nat} {op : Arithmetic.Binary}

theorem fitting_iff : fitting n = some k ↔ n = k ∧ k < 2 ^ 63 := by
  unfold fitting
  split
  · rw [Option.some_inj]
    omega
  · constructor
    · nofun
    · omega

theorem fitting_small (small : k < 2 ^ 63) : fitting k = some k := fitting_iff.mpr ⟨rfl, small⟩

theorem fitting_wrapped (fits : fitting n = some k) : Arithmetic.wrap n = k := by
  obtain ⟨rfl, small⟩ := fitting_iff.mp fits
  exact wrap_small (by omega) (by omega)

theorem operated_value (found : operated op m k = some p) : op.value m k = .ok (p : Int) := by
  cases op with
  | add =>
    have fits : fitting (m + k) = some p := found
    exact congrArg Except.ok (fitting_wrapped fits)
  | sub =>
    have fits : fitting (m - k) = some p := found
    exact congrArg Except.ok (fitting_wrapped fits)
  | mul =>
    have fits : fitting (m * k) = some p := found
    exact congrArg Except.ok (fitting_wrapped fits)
  | div =>
    have guarded : (if k = 0 then none else fitting (m / k)) = some p := found
    by_cases zero : k = 0
    · rw [if_pos zero] at guarded
      cases guarded
    · rw [if_neg zero] at guarded
      have filled : ((k : Int) == 0) = false := beq_eq_false_iff_ne.mpr (by omega)
      unfold Arithmetic.Binary.value
      simp only [filled, Bool.false_eq_true, if_false]
      exact congrArg Except.ok (fitting_wrapped guarded)
  | _ => cases found

end Exact

section Parts

variable {known : Known} {m n : Nat}

theorem name_exact {x : String} (held : known x = some n) (small : n < 2 ^ 63) :
    reckoned? known (.name ⟨x, none⟩) = some n := by
  rw [reckoned?, held, Option.bind_some, fitting_small small]

theorem number_exact (small : n < 2 ^ 63) : reckoned? known (.number n) = some n := fitting_small small

theorem binary_exact {op : Arithmetic.Binary} {a b : Arithmetic.Expr} {p : Nat} (behind : String)
    (first : reckoned? known a = some m) (second : reckoned? known b = some n) (found : operated op m n = some p) :
    reckoned? known (.binary op a b behind) = some p := by
  rw [reckoned?, first, second]
  exact found

theorem added (fits : m + n < 2 ^ 63) : operated .add m n = some (m + n) := fitting_iff.mpr ⟨rfl, fits⟩

theorem multiplied (fits : m * n < 2 ^ 63) : operated .mul m n = some (m * n) := fitting_iff.mpr ⟨rfl, fits⟩

theorem subtracted (small : m < 2 ^ 63) (less : n ≤ m) : operated .sub m n = some (m - n) :=
  fitting_iff.mpr ⟨by omega, by omega⟩

theorem divided (small : m < 2 ^ 63) (filled : 0 < n) : operated .div m n = some (m / n) := by
  have less := Nat.div_le_self m n
  have other : n ≠ 0 := by omega
  unfold operated
  rw [if_neg other]
  exact fitting_iff.mpr ⟨rfl, by omega⟩

end Parts

section Reading

variable {s : Session} {known : Known} {text : String} {e : Arithmetic.Expr} {n : Nat}

-- What the variables of a session hold.
def Knows (s : Session) (known : Known) : Prop := ∀ x n, known x = some n → Stands s x (some (toString n))

theorem held_yields {x : String} {m : Int} {read : String → Run Int} (stands : Stands s x (some text))
    (found : Yields (read text) s m) : Yields (Arithmetic.Expr.value.held read (.whole x)) s m := by
  intro t
  have there : (Arithmetic.Spot.whole x).value? (leaving s t) = some text := stands.found t
  unfold Arithmetic.Expr.value.held
  rw [bind_ok get_ok, there]
  exact found t

theorem name_value {x : String} {m : Int} {read : String → Run Int} {fail : Arithmetic.Fault → Run Int}
    (stands : Stands s x (some text)) (found : Yields (read text) s m) :
    Yields ((Arithmetic.Expr.name ⟨x, none⟩).value read fail) s m :=
  held_yields stands found

theorem exact_value {read : String → Run Int} {fail : Arithmetic.Fault → Run Int} (knows : Knows s known)
    (reads : ∀ n : Nat, n < 2 ^ 63 → Yields (read (toString n)) s (n : Int))
    (exactly : reckoned? known e = some n) : Yields (e.value read fail) s (n : Int) := by
  induction e generalizing n with
  | number k =>
    obtain ⟨rfl, small⟩ := fitting_iff.mp exactly
    exact yields_pure
  | name x =>
    obtain ⟨x, index⟩ := x
    cases index with
    | some index => cases exactly
    | none =>
      obtain ⟨m, held, fits⟩ := Option.bind_eq_some_iff.mp exactly
      obtain ⟨same, small⟩ := fitting_iff.mp fits
      obtain rfl := Int.ofNat.inj same
      exact name_value (knows x m held) (reads m small)
  | binary op a b behind first second =>
    obtain ⟨m, left, more⟩ := Option.bind_eq_some_iff.mp exactly
    obtain ⟨k, right, found⟩ := Option.bind_eq_some_iff.mp more
    have value := operated_value found
    have computed : Yields (Arithmetic.Expr.value.computed fail op m k behind) s (n : Int) := by
      unfold Arithmetic.Expr.value.computed
      rw [value]
      exact yields_pure
    have chained : Yields (do
        let left ← a.value read fail
        let right ← b.value read fail
        Arithmetic.Expr.value.computed fail op left right behind) s (n : Int) :=
      (first left).bind ((second right).bind computed)
    cases op with
    | add => exact chained
    | sub => exact chained
    | mul => exact chained
    | div => exact chained
    | _ => cases found
  | _ => cases exactly

-- A text is read as an expression whose value is a number, and nothing on the way to it
-- leaves the range.
def Exactly (known : Known) (text : String) (n : Nat) : Prop :=
  ∃ e, Arithmetic.read false text = ⟨e, none⟩ ∧ reckoned? known e = some n

theorem calculate_read {n : Int} {t : Session} {lead : String} (quiet : Quiet s)
    (read : Arithmetic.read false text = ⟨e, none⟩)
    (valued : Gives (e.value (Arithmetic.valueOfText lead 1023) (Arithmetic.failWith lead text)) s n t) :
    Gives (Arithmetic.calculate lead text) s n t := by
  intro m
  have full : (leaving s m).isPlain = false := quiet.not_plain
  unfold Arithmetic.calculate
  rw [show Arithmetic.maxDepth = 1023 + 1 from rfl, Arithmetic.valueOfText, bind_ok get_ok, full, read]
  exact bind_ok (valued m)

theorem exactly_calculated (quiet : Quiet s) (knows : Knows s known) (lead : String) (exactly : Exactly known text n) :
    Yields (Arithmetic.calculate lead text) s (n : Int) := by
  obtain ⟨e, read, exactly⟩ := exactly
  exact calculate_read quiet read
    (exact_value knows (fun n small => valueOfText_numeral quiet lead 1022 small) exactly)

-- Parts of a word that come to a number in a session, where nothing on the way to it leaves the
-- range.
def Reckons (E : Engine) (s : Session) (parts : List Part) (n : Nat) : Prop :=
  ∃ known text, Knows s known ∧ Spells E s parts text ∧ Exactly known text n

theorem reckons_values {E : Engine} {parts : List Part} (quiet : Quiet s) (reckons : Reckons E s parts n) :
    Values E s (.arith parts) (toString n) := by
  obtain ⟨known, text, knows, ⟨pieces, ran, _, joined⟩, exactly⟩ := reckons
  intro quoted m
  rw [Part.expand, bind_ok (ran m), fragmentText_kept joined, bind_ok (exactly_calculated quiet knows "" exactly m)]
  rfl

end Reading

section Slices

variable {E : Engine} {s : Session} {name text a b : String} {offset length : List Part} {n m : Int} {cs : List Char}

-- A piece of the value of a parameter.
theorem slice_values (quiet : Quiet s) (stands : Stands s name (some text)) (first : Spells E s offset a)
    (second : Spells E s length b) (offsets : ∀ lead, Yields (Arithmetic.calculate lead a) s n)
    (lengths : ∀ lead, Yields (Arithmetic.calculate lead b) s m)
    (cut : sliced? text.toList n (some m) = some cs) :
    Values E s (.param name [] (.slice offset length)) (String.ofList cs) := by
  obtain ⟨pieces, ran, _, joined⟩ := first
  obtain ⟨others, went, _, flat⟩ := second
  intro quoted t
  have cutting : Op.expand.cut quoted ⟨name, .whole, name ++ inlineIndex []⟩ (.one (some text)) n (some m) (leaving s t) =
      .ok [.ofValue quoted (String.ofList cs)] (leaving s t) := by
    unfold Op.expand.cut
    rw [bind_ok get_ok]
    simp only [Option.map_some, cut]
    rfl
  rw [param_whole, Op.expand, bind_ok get_ok, subject_one stands, bind_ok (needSet_yields quiet _ _ t),
    bind_ok (ran t), fragmentText_kept joined, bind_ok (offsets _ t), bind_ok (went t),
    fragmentText_kept flat, bind_ok (lengths _ t)]
  exact cutting

theorem sliced_one {cs : List Char} {c : Char} {k : Nat} (there : cs[k]? = some c) :
    sliced? cs k (some 1) = some [c] := by
  obtain ⟨inside, found⟩ := List.getElem?_eq_some_iff.mp there
  have rest : cs.drop k = c :: cs.drop (k + 1) := by
    rw [← found]
    exact List.drop_eq_getElem_cons inside
  have natural : ¬ (k : Int) < 0 := by omega
  have within_ : ¬ cs.length < (k : Int) := by omega
  unfold sliced?
  simp [natural, rest]
  omega

end Slices

end Toolwrap.Running
