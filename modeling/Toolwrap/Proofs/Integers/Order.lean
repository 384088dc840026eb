import Toolwrap.Proofs.Integers.Less

-- What the function decides is which of two integers is less, and a call of it leaves nothing
-- else behind than its answer.

namespace Toolwrap.Integers

open Shell Running

section Meaning

variable {a b x y : String}

-- A text of digits with a sign in front or none, and the number that it stands for.
def Whole (v : String) : Prop := Digits (behindSign v.toList)

def integerOf (v : String) : Int :=
  if v.toList.head? = some '-' then -(numeralValue (behindSign v.toList) : Int) else numeralValue (behindSign v.toList)

-- Digits without zeros in front.
structure Bare (a : String) : Prop where
  digits : Digits a.toList
  led : Led a.toList

def magnitude (a : String) : Nat := numeralValue a.toList

theorem digitsOf_bare (whole : Whole x) : Bare (digitsOf x) := by
  have shape : (digitsOf x).toList = (behindSign x.toList).dropWhile isZero := by
    simp [digitsOf, stripped, unsigned]
  refine ⟨?_, ?_⟩
  · intro c member
    rw [shape] at member
    exact whole c ((List.dropWhile_suffix isZero).subset member)
  · intro first
    have other := List.head?_dropWhile_not isZero (behindSign x.toList)
    rw [← shape, first] at other
    cases other

theorem stripped_value (v : String) : numeralValue (stripped v).toList = numeralValue v.toList := by
  have split := List.takeWhile_append_dropWhile (p := isZero) (l := v.toList)
  have zeros : ∀ c ∈ v.toList.takeWhile isZero, c = '0' := fun c member =>
    beq_iff_eq.mp (List.all_eq_true.mp List.all_takeWhile c member)
  rw [← split, value_zeros _ zeros, stripped, String.toList_ofList]

theorem digitsOf_magnitude (x : String) : magnitude (digitsOf x) = numeralValue (behindSign x.toList) := by
  rw [magnitude, digitsOf, stripped_value, unsigned, String.toList_ofList]

theorem shorter_iff (bare : Bare a) (also : Bare b) : shorter a b = decide (magnitude a < magnitude b) := by
  have sizes : ∀ v : String, v.length = v.toList.length := fun v => String.length_toList.symm
  unfold shorter magnitude
  rw [sizes a, sizes b]
  by_cases same : a.toList.length = b.toList.length
  · rw [if_neg (not_not_intro same), decide_eq_decide, String.lt_iff]
    exact (same_length_less bare.digits also.digits same).symm
  · rw [if_pos same, decide_eq_decide]
    constructor
    · exact shorter_less bare.digits also.digits also.led
    · intro less
      refine Nat.lt_of_not_le fun longer => ?_
      have greater := shorter_less also.digits bare.digits bare.led (by omega)
      omega

theorem magnitude_inj (bare : Bare a) (also : Bare b) : magnitude a = magnitude b ↔ a = b := by
  refine ⟨fun same => ?_, fun same => congrArg _ same⟩
  have one := shorter_iff bare also
  have other := shorter_iff also bare
  rw [same, decide_eq_false (Nat.lt_irrefl _)] at one other
  unfold shorter at one other
  by_cases long : a.length = b.length
  · rw [if_neg (not_not_intro long), decide_eq_false_iff_not] at one
    rw [if_neg (not_not_intro long.symm), decide_eq_false_iff_not] at other
    exact String.le_antisymm (String.not_lt.mp other) (String.not_lt.mp one)
  · rw [if_pos long, decide_eq_false_iff_not] at one
    rw [if_pos (Ne.symm long), decide_eq_false_iff_not] at other
    omega

theorem magnitude_zero (bare : Bare a) : magnitude a = 0 ↔ a.isEmpty = true := by
  rw [magnitude, led_value_zero bare.digits bare.led, String.isEmpty_iff, String.toList_eq_nil_iff]

-- The sign counts where there are digits behind it.
theorem signOf_minus (whole : Whole x) : signOf x = "-" ↔ integerOf x < 0 := by
  have zero := magnitude_zero (digitsOf_bare whole)
  rw [digitsOf_magnitude] at zero
  unfold signOf signText integerOf
  by_cases empty : (digitsOf x).isEmpty = true
  · have none_ := zero.mpr empty
    rw [if_pos empty, none_]
    simp
  · have some_ := mt zero.mp empty
    rw [if_neg empty]
    split
    · simp
      omega
    · simp

theorem integerOf_size (x : String) :
    integerOf x = if integerOf x < 0 then -(magnitude (digitsOf x) : Int) else magnitude (digitsOf x) := by
  rw [digitsOf_magnitude]
  unfold integerOf
  split
  · split <;> omega
  · split <;> omega

-- What the function decides is which number is less.
theorem lessThan_iff (whole : Whole x) (also : Whole y) :
    lessThan (signOf x) (digitsOf x) (signOf y) (digitsOf y) = decide (integerOf x < integerOf y) := by
  have first := digitsOf_bare whole
  have second := digitsOf_bare also
  have size := integerOf_size x
  have measure := integerOf_size y
  have equal := magnitude_inj first second
  have minus := signOf_minus whole
  have less := signOf_minus also
  have pure_ : ∀ v, signOf v = "-" ∨ signOf v = "+" := by
    intro v
    unfold signOf signText
    split
    · exact Or.inr rfl
    · split
      · exact Or.inl rfl
      · exact Or.inr rfl
  unfold lessThan
  rw [shorter_iff first second]
  by_cases negative : integerOf x < 0
  · rw [if_pos negative] at size
    rw [minus.mpr negative]
    by_cases below : integerOf y < 0
    · rw [if_pos below] at measure
      rw [less.mpr below, if_neg (not_not_intro rfl), if_pos rfl]
      by_cases same : digitsOf x = digitsOf y
      · rw [if_pos same, eq_comm, decide_eq_false_iff_not, size, measure, same]
        omega
      · have other := mt equal.mp same
        rw [if_neg same, ← decide_not, decide_eq_decide]
        omega
    · rw [if_neg below] at measure
      have plus : signOf y ≠ "-" := mt less.mp below
      rw [if_pos plus.symm]
      simp
      omega
  · rw [if_neg negative] at size
    have plus : signOf x ≠ "-" := mt minus.mp negative
    rw [(pure_ x).resolve_left plus]
    by_cases below : integerOf y < 0
    · rw [if_pos below] at measure
      rw [less.mpr below, if_pos (by decide)]
      simp
      omega
    · rw [if_neg below] at measure
      have positive : signOf y ≠ "-" := mt less.mp below
      have unlike : ("+" : String) ≠ "-" := by decide
      rw [(pure_ y).resolve_left positive, if_neg (not_not_intro rfl), if_neg unlike]
      by_cases same : digitsOf x = digitsOf y
      · rw [if_pos same, eq_comm, decide_eq_false_iff_not, size, measure, same]
        omega
      · rw [if_neg same, decide_eq_decide]
        omega

end Meaning

section Called

variable {E deeper : Engine} {s : Session} {x y : String}

theorem less_called (runs : E.script = runScript deeper) (quiet : Quiet s) (lenient : Lenient s)
    (uncut : ∀ d ∈ s.separators.chars, d.isDigit = false) (plain : ∀ z ∈ lessNames, Ordinarily s z)
    {f : Function} {n : Nat} (body : f.body = lessBody n) (whole : Whole x) (also : Whole y)
    (small : x.length < 2 ^ 63) (little : y.length < 2 ^ 63) :
    ComesTo (callFunction E "bw_integer_less" f [x, y]) s
      (.ok () { s with status := codeOf (decide (integerOf x < integerOf y)), givesWay := false }) := by
  let opened : Nat → Session := fun line =>
    { calling s "bw_integer_less" f [x, y] line with scopes := s.scopes }
  let marks : String → Bool := fun z => ((s.find? z).map (·.exported)).getD false
  have calm : ∀ line, Quiet (opened line) := fun _ => quiet
  have ran := fun line => @lessLines_comesTo deeper (opened line) marks s.status x y (calm line) lenient
    (by rwa [@separators_like s (opened line) rfl]) rfl rfl plain (fun _ => rfl) n small little
  simp only [lessThan_iff whole also] at ran
  choose lt final ran using ran
  let left : Nat → Session := fun line => within (opened line) marks
    (heldAs (digitsOf x) (digitsOf y) (signOf x) (signOf y) (lt line)) (final line)
  have returned : ∀ line, ComesTo (E.script [f.body]) (calling s "bw_integer_less" f [x, y] line)
      (.error (.returned (codeOf (decide (integerOf x < integerOf y)))) (left line)) := by
    intro line
    have quietly : Quiet (calling s "bw_integer_less" f [x, y] line) := quiet
    rw [runs, body]
    exact script_one quietly (located_comesTo n (group_comesTo (ran line)))
  refine call_returned (t := left) quiet (fun line => calm line) (fun line => ?_) returned
  have code : codeOf (decide (integerOf x < integerOf y)) % 256 = codeOf (decide (integerOf x < integerOf y)) := by
    cases decide (integerOf x < integerOf y) <;> rfl
  rw [code]
  rfl

end Called

end Toolwrap.Integers
