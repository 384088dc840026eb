import Toolwrap.Component
import Toolwrap.Proofs.Memory.Agreement

-- A default amount of memory, which is read when a component is read and again by the function when the
-- wrapper is run. The first reading leaves out more blanks and knows more letters than the second one, so
-- the two are compared on the plain texts.

namespace Toolwrap.Memory

open Shell Running

section Runs

variable {run front behind suffix : List Char} {c : Char} {u : ByteUnit} {a : Amount}

-- Digits that stand together are on one side of what is not a digit.
theorem run_parted (digits : ∀ d ∈ run, isDigit d = true) (apart : isDigit c = false)
    (part : run <:+: front ++ c :: behind) : run <:+: front ∨ run <:+: behind := by
  have other : c ∉ run := fun member => Bool.false_ne_true (apart.symm.trans (digits c member))
  obtain ⟨first, last, whole⟩ := part
  rcases List.append_eq_append_iff.mp whole with ⟨rest, rfl, -⟩ | ⟨rest, ends, begins⟩
  · exact Or.inl ⟨first, rest, rfl⟩
  · cases rest with
    | nil => exact Or.inl ⟨first, [], by rw [List.append_nil, ends, List.append_nil]⟩
    | cons d rest =>
      obtain ⟨rfl, rfl⟩ := List.cons.inj begins
      rcases List.append_eq_append_iff.mp ends with ⟨more, -, rfl⟩ | ⟨more, rfl, shape⟩
      · exact absurd (List.mem_append_right _ (List.mem_cons_self ..)) other
      · cases more with
        | nil => exact absurd (shape.symm ▸ List.mem_cons_self .. : c ∈ [] ++ run) other
        | cons d more =>
          obtain ⟨rfl, rfl⟩ := List.cons.inj shape
          exact Or.inr ⟨more, last, rfl⟩

theorem run_before (digits : ∀ d ∈ run, isDigit d = true) (none_ : ∀ d ∈ behind, isDigit d = false)
    (part : run <:+: front ++ behind) : run <:+: front := by
  cases behind with
  | nil => rwa [List.append_nil] at part
  | cons c behind =>
    rcases run_parted digits (none_ c (List.mem_cons_self ..)) part with before | later
    · exact before
    · have empty : run = [] := by
        refine List.eq_nil_iff_forall_not_mem.mpr fun d member => ?_
        have apart := none_ d (List.mem_cons_of_mem _ (later.subset member))
        exact Bool.false_ne_true (apart.symm.trans (digits d member))
      exact empty ▸ List.nil_infix

theorem suffix_undigited (named : ByteUnit.ofSuffix? suffix = some u) : ∀ c ∈ suffix, isDigit c = false := by
  have letters : ∀ d, isPrefix d = true → isDigit d = false := by
    intro d first
    rcases prefix_cases first with rfl | rfl | rfl | rfl | rfl <;> decide
  rcases ofSuffix_cases named with rfl | rfl | ⟨d, led, rfl | rfl⟩
  · exact nofun
  · exact List.all_iff_forall_prop.mp (by decide)
  · simpa using letters d led
  · simpa using ⟨letters d led, by decide⟩

-- The numerals of an amount are those of its text.
theorem states_short {x : String} (stated : States (normalised x).toList a suffix)
    (whole : a.whole.length ≤ maxDigits) (fraction : a.fraction.length ≤ maxDigits) : Short x := by
  intro run part digits
  rw [stated.parts] at part
  have inside := run_before digits (suffix_undigited stated.unit) part
  unfold Amount.numberText at inside
  split at inside
  · exact inside.length_le.trans whole
  · rcases run_parted digits (by decide) inside with first | second
    · exact first.length_le.trans whole
    · exact second.length_le.trans fraction

end Runs

theorem parse_short {x : String} {n : Nat} (read : parse x = .ok n) : Short x := by
  cases found : Amount.ofChars? (normalised x).toList with
  | none =>
    rw [parse, found] at read
    cases read
  | some a =>
    obtain ⟨suffix, stated⟩ := ofChars_states.mp found
    rw [parse, found] at read
    simp only at read
    split at read
    · cases read
    · split at read
      · cases read
      · rename_i whole fraction
        exact states_short stated (Nat.not_lt.mp whole) (Nat.not_lt.mp fraction)

-- A plain default that a component is read with is a number of bytes for the function, too.
theorem default_printed {s : Session} {k rounds : Nat} {v : Value} {x : String}
    (given : Component.readMemory v = .ok (some x)) (callable : Callable s k)
    (plain : ∀ c ∈ x.toList, isPlain c = true) (enough : maxDigits < rounds) (depth : Nat) :
    ∃ f n, s.functions.lookup "bw_memory_as_bytes" = some f ∧ parse x = .ok n ∧
      Prints (engine rounds (depth + 2)) s f k x n := by
  obtain ⟨f, line, found, body⟩ := memory_provided callable.converts
  obtain ⟨n, read⟩ : ∃ n, parse x = .ok n := by
    unfold Component.readMemory at given
    split at given
    · cases given
    · split at given
      · rename_i n read
        obtain rfl := Option.some.inj (Except.ok.inj given)
        exact ⟨n, read⟩
      · cases given
  rcases call_outcome callable plain (parse_short read) enough depth body with ⟨m, parsed, prints⟩ | ⟨⟨refusal, refused⟩, -⟩
  · exact ⟨f, m, found, parsed, prints⟩
  · rw [read] at refused
    cases refused

end Toolwrap.Memory
