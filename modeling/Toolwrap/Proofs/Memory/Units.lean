import Toolwrap.Proofs.Memory.Function
import Toolwrap.Proofs.Running.Comparing
import Toolwrap.Proofs.Running.Locals
import Toolwrap.Proofs.Running.Trimming

-- The branch that the suffix of an amount leads to, which says how many bytes its unit has.

namespace Toolwrap.Memory

open Shell Running

section Patterns

variable {E : Engine} {s : Session} {v p : String} {u : ByteUnit}

-- What is written in front of a unit, and the unit.
def prefixed : List (String × ByteUnit) := [("k", .kb), ("m", .mb), ("g", .gb), ("t", .tb), ("p", .pb)]

def knownSuffixes : List String := ["", "b"] ++ prefixed.flatMap fun d => [d.1, d.1 ++ "b"]

theorem suffix_listed (named : ByteUnit.ofSuffix? v.toList = some u) : v ∈ knownSuffixes := by
  have texts : ∀ c, isPrefix c = true → String.ofList [c] ∈ knownSuffixes ∧ String.ofList [c, 'b'] ∈ knownSuffixes := by
    intro c first
    rcases prefix_cases first with rfl | rfl | rfl | rfl | rfl <;> decide
  rw [← String.ofList_toList (s := v)]
  rcases ofSuffix_cases named with none_ | one | ⟨c, first, shape | shape⟩
  · rw [none_]
    decide
  · rw [one]
    decide
  · rw [shape]
    exact (texts c first).1
  · rw [shape]
    exact (texts c first).2

theorem none_named : ByteUnit.ofSuffix? v.toList = some .b ↔ v = "" ∨ v = "b" := by
  have all : ∀ w ∈ knownSuffixes, ByteUnit.ofSuffix? w.toList = some .b → w = "" ∨ w = "b" := by decide
  constructor
  · exact fun named => all v (suffix_listed named) named
  · rintro (rfl | rfl) <;> rfl

theorem prefix_named (listed : (p, u) ∈ prefixed) :
    ByteUnit.ofSuffix? v.toList = some u ↔ v = p ∨ v = p ++ "b" := by
  have all : ∀ w ∈ knownSuffixes, ∀ d ∈ prefixed, ByteUnit.ofSuffix? w.toList = some d.2 →
      w = d.1 ∨ w = d.1 ++ "b" := by decide
  have back : ∀ d ∈ prefixed, ByteUnit.ofSuffix? d.1.toList = some d.2 ∧
      ByteUnit.ofSuffix? (d.1 ++ "b").toList = some d.2 := by decide
  constructor
  · exact fun named => all v (suffix_listed named) _ listed named
  · rintro (rfl | rfl)
    · exact (back _ listed).1
    · exact (back _ listed).2

theorem none_fits (quiet : Quiet s) :
    Yields (fitsAny E v [[.single ""], bare "b"]) s (decide (ByteUnit.ofSuffix? v.toList = some .b)) := by
  have letter := @fitsAny_bare E s quiet ["b"] v (by decide)
  have either := @fitsAny_single E s v "" _ _ quiet letter
  have same : (decide (v = "") || ["b"].any fun p => bareFits p v) =
      decide (ByteUnit.ofSuffix? v.toList = some .b) := by
    have fits := @word_fits "b" v (List.all_iff_forall_prop.mp (by decide))
    rw [Bool.eq_iff_iff]
    simp [none_named, fits]
  rwa [same] at either

theorem prefix_fits (quiet : Quiet s) (listed : (p, u) ∈ prefixed) :
    Yields (fitsAny E v [bare p, bare (p ++ "b")]) s (decide (ByteUnit.ofSuffix? v.toList = some u)) := by
  have plain : ∀ d ∈ prefixed, ∀ q ∈ [d.1, d.1 ++ "b"],
      (q.toList.all fun c => (isTame c = true ∧ c ≠ '\\') ∧ c ≠ '~') = true := by decide
  have tame : ∀ q ∈ [p, p ++ "b"], ∀ c ∈ q.toList, (isTame c = true ∧ c ≠ '\\') ∧ c ≠ '~' :=
    fun q member => List.all_iff_forall_prop.mp (plain _ listed q member)
  have found := @fitsAny_bare E s quiet [p, p ++ "b"] v fun q member inside => (tame q member _ inside).2 rfl
  have same : ([p, p ++ "b"].any fun p => bareFits p v) = decide (ByteUnit.ofSuffix? v.toList = some u) := by
    have first := @word_fits p v fun c inside => (tame p (by simp) c inside).1
    have second := @word_fits (p ++ "b") v fun c inside => (tame (p ++ "b") (by simp) c inside).1
    rw [Bool.eq_iff_iff]
    simp [prefix_named listed, first, second]
  rwa [same] at found

end Patterns

section Units

variable {E : Engine} {c : Session} {marks : String → Bool} {held : Held} {k : Content} {status n : Nat} {v : String}
  {u : ByteUnit}

-- A branch for each unit: its line, its patterns and the unit.
def unitTable (n : Nat) : List (Nat × List Word × ByteUnit) := [
  (n, [[.single ""], bare "b"], .b), (n + 1, [bare "k", bare "kb"], .kb), (n + 2, [bare "m", bare "mb"], .mb),
  (n + 3, [bare "g", bare "gb"], .gb), (n + 4, [bare "t", bare "tb"], .tb), (n + 5, [bare "p", bare "pb"], .pb)]

def tableClauses (table : List (Nat × List Word × ByteUnit)) : List Clause :=
  table.map fun d => unitClause d.1 d.2.1 d.2.2

theorem unit_listed (u : ByteUnit) (n : Nat) : u ∈ (unitTable n).map (·.2.2) := by
  cases u <;> simp [unitTable]

theorem table_fits {s : Session} (quiet : Quiet s) : ∀ d ∈ unitTable n,
    Yields (fitsAny E v d.2.1) s (decide (ByteUnit.ofSuffix? v.toList = some d.2.2)) := by
  intro d listed
  simp only [unitTable, List.mem_cons, List.not_mem_nil, or_false] at listed
  rcases listed with rfl | rfl | rfl | rfl | rfl | rfl
  · exact none_fits quiet
  · exact @prefix_fits E s v "k" .kb quiet (by decide)
  · exact @prefix_fits E s v "m" .mb quiet (by decide)
  · exact @prefix_fits E s v "g" .gb quiet (by decide)
  · exact @prefix_fits E s v "t" .tb quiet (by decide)
  · exact @prefix_fits E s v "p" .pb quiet (by decide)

-- The one branch whose unit the suffix names is taken.
theorem table_chosen (quiet : Quiet c) (there : held.lookup "multiplier" = some k) (flat : k.isArray = false)
    {table : List (Nat × List Word × ByteUnit)} (listed : u ∈ table.map (·.2.2))
    (named : ByteUnit.ofSuffix? v.toList = some u)
    (fits : ∀ d ∈ table, Yields (fitsAny E v d.2.1) (within c marks held status)
      (decide (ByteUnit.ofSuffix? v.toList = some d.2.2))) :
    ComesTo (runClauses E v false (tableClauses table)) (within c marks held status)
      (.ok () (within c marks (kept held "multiplier" (.text (toString u.bytes))) 0)) := by
  have calm : Quiet (within c marks held status) := quiet
  induction table with
  | nil => cases listed
  | cons d table chosen =>
    have asked := fits d (List.mem_cons_self ..)
    by_cases same : d.2.2 = u
    · rw [same, decide_eq_true named] at asked
      have other : ∀ c : Char, c.isDigit = false → c ∉ (toString u.bytes).toList := fun c other inside =>
        digit_ne ((toString_numeral u.bytes).digits c inside) other rfl
      have assigned := @assign_within c marks held status "multiplier" _ k E _ quiet (by decide) there flat
        (plain_valueText (other '~' rfl) (other ':' rfl))
      rw [tableClauses, List.map_cons, unitClause, same]
      exact branch_taken asked (List.cons_ne_nil _ _) (script_one calm (located_comesTo d.1 assigned))
    · have skipped : ByteUnit.ofSuffix? v.toList ≠ some d.2.2 := by
        rw [named]
        exact fun equal => same (Option.some.inj equal).symm
      rw [decide_eq_false skipped] at asked
      have later : u ∈ table.map (·.2.2) := by
        rcases List.mem_cons.mp listed with here | later
        · exact absurd here.symm same
        · exact later
      exact branch_skipped asked (chosen later fun e member => fits e (List.mem_cons_of_mem _ member))

theorem unitCase_comesTo (quiet : Quiet c) (there : held.lookup "multiplier" = some k) (flat : k.isArray = false)
    (spelled : Spells E (within c marks held status) [matched "3"] v)
    (named : ByteUnit.ofSuffix? v.toList = some u) :
    ComesTo ((unitCase n).run E) (within c marks held status)
      (.ok () (within c marks (kept held "multiplier" (.text (toString u.bytes))) 0)) := by
  have calm : Quiet (within c marks held status) := quiet
  exact case_comesTo calm (double_text spelled)
    (table_chosen quiet there flat (unit_listed u n) named (table_fits calm))

end Units

end Toolwrap.Memory
