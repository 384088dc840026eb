import Mathlib.Data.Rat.Cast.Order
import Mathlib.Algebra.Order.Field.Power
import Toolwrap.Proofs.Arguments.Reading

-- What holds of every argument that is read, whatever it is read from: its names, its default and its
-- bounds agree with each other. And an argument written back, field by field, is read as the same one.

namespace Toolwrap

namespace Double

section Order

variable {x y : Double}

-- The number that a finite double stands for.
def value : Double → ℚ
  | finite negative mantissa exponent => signed negative mantissa * 2 ^ exponent
  | _ => 0

theorem signed_scaled (s : Bool) (m k : Nat) : (signed s (m * 2 ^ k) : ℚ) = signed s m * 2 ^ k := by
  cases s <;> simp [signed]

-- A mantissa over a lower exponent stands for the same number.
theorem value_lowered (s : Bool) (m : Nat) {e low : Int} (below : low ≤ e) :
    value (finite s m e) = signed s (m * Nat.pow 2 (e - low).toNat) * 2 ^ low := by
  have power : (2 : ℚ) ^ e = 2 ^ (e - low).toNat * 2 ^ low := by
    rw [← zpow_natCast, Int.toNat_of_nonneg (Int.sub_nonneg.mpr below), ← zpow_add₀ two_ne_zero, Int.sub_add_cancel]
  rw [value, Nat.pow_eq, signed_scaled, power, mul_assoc]

-- Two finite doubles are compared by their mantissas over one exponent.
theorem compare_aligned (one : x.isFinite = true) (other : y.isFinite = true) : ∃ (m n low : Int),
    compare? x y = some (compare m n) ∧ x.value = m * 2 ^ low ∧ y.value = n * 2 ^ low := by
  cases x with
  | infinite s => cases one
  | nan => cases one
  | finite s m e =>
    cases y with
    | infinite t => cases other
    | nan => cases other
    | finite t n f =>
      exact ⟨_, _, min e f, rfl, value_lowered s m (min_le_left e f), value_lowered t n (min_le_right e f)⟩

theorem less_iff (one : x.isFinite = true) (other : y.isFinite = true) : x.less y = true ↔ x.value < y.value := by
  obtain ⟨m, n, low, compared, first, second⟩ := compare_aligned one other
  have positive : (0 : ℚ) < 2 ^ low := zpow_pos two_pos low
  rw [less, compared, beq_iff_eq, Option.some.injEq, compare_lt_iff_lt, first, second, mul_lt_mul_iff_left₀ positive,
    Int.cast_lt]

theorem same_iff (one : x.isFinite = true) (other : y.isFinite = true) : x.same y = true ↔ x.value = y.value := by
  obtain ⟨m, n, low, compared, first, second⟩ := compare_aligned one other
  have positive : (0 : ℚ) < 2 ^ low := zpow_pos two_pos low
  rw [same, compared, beq_iff_eq, Option.some.injEq, compare_eq_iff_eq, first, second, mul_left_inj' positive.ne',
    Int.cast_inj]

-- The double that is nearest to an integer is finite, if there is one.
theorem ofInt_finite {n : Int} (near : ofInt? n = some x) : x.isFinite = true := by
  have ratio : ∀ s num den, ofRatio s num den ≠ nan := by
    intro s num den
    unfold ofRatio zero
    dsimp only
    split_ifs <;> exact nofun
  unfold ofInt? at near
  split at near
  · cases near
  · rename_i other
    obtain rfl := Option.some.inj near
    cases found : ofRatio (n < 0) n.natAbs 1 with
    | finite s m e => rfl
    | infinite s => exact absurd found (other s)
    | nan => exact absurd found (ratio _ _ _)

end Order

end Double

namespace Arguments

open Argument

-- Which bounds and choices a default agrees with, where values stand for numbers.
structure Within {α β : Type} [LinearOrder β] (worth : α → β) (v : Values α) : Prop where
  ordered : ∀ low ∈ v.min, ∀ high ∈ v.max, worth low ≤ worth high
  above : ∀ x ∈ v.default, ∀ low ∈ v.min, worth low ≤ worth x
  below : ∀ x ∈ v.default, ∀ high ∈ v.max, worth x ≤ worth high
  chosen : ∀ x ∈ v.default, v.choices ≠ [] → ∃ y ∈ v.choices, worth x = worth y

-- All values that are known.
def known {α : Type} (v : Values α) : List α :=
  v.default ++ v.examples ++ v.choices ++ v.min.toList ++ v.max.toList

-- What the kind of an argument asks of its values and of the argument itself.
def Fitting (a : Argument) : Prop :=
  match a.body with
  | .string v => ∀ x ∈ v.default, v.choices ≠ [] → x ∈ v.choices
  | .integer v => Within id v
  | .double v => (∀ x ∈ known v, x.isFinite = true) ∧ Within Double.value v
  | .flag _ v => a.isPositional = false ∧ a.multiple = false ∧ a.required = false ∧ v.default.length = 1
  | .boolean _ => True
  | .file _ _ _ => True

structure Consistent (a : Argument) : Prop where
  required : a.required = true → a.body.texts.default = []
  single : a.multiple = false → a.body.texts.default.length ≤ 1
  positional : a.isPositional = true → a.alternatives = []
  dashed : ∀ alternative ∈ a.alternatives, alternative.toList.head? = some '-'
  unreserved : ∀ spelling ∈ a.spellings, ¬"---".toList <+: spelling.toList
  fitting : Fitting a

section Holding

variable {α β : Type} {c : Carrier α} {fields : Fields} {required multiple : Bool} {v : Values α} {kind : Kind} {a : Argument}

theorem within_ranged [LinearOrder β] {worth : α → β} (ranged : Ranged c fields required multiple v)
    (less : ∀ x ∈ known v, ∀ y ∈ known v, c.less x y = true ↔ worth x < worth y)
    (same : ∀ x ∈ known v, ∀ y ∈ known v, c.same x y = true ↔ worth x = worth y) : Within worth v := by
  have apart : ∀ x ∈ known v, ∀ y ∈ known v, c.less y x = false → worth x ≤ worth y := by
    intro x first y second free
    rw [← not_lt, ← less y second x first, free]
    exact Bool.false_ne_true
  have default : ∀ x ∈ v.default, x ∈ known v := by simp +contextual [known]
  have choice : ∀ x ∈ v.choices, x ∈ known v := by simp +contextual [known]
  have low : ∀ x ∈ v.min, x ∈ known v := by simp +contextual [known]
  have high : ∀ x ∈ v.max, x ∈ known v := by simp +contextual [known]
  refine ⟨fun l least h most => ?_, fun x given l least => ?_, fun x given h most => ?_, fun x given some_ => ?_⟩
  · exact apart l (low l least) h (high h most) (ranged.ordered l least h most)
  · exact apart l (low l least) x (default x given) ((ranged.suits x given).above l least)
  · exact apart x (default x given) h (high h most) ((ranged.suits x given).below h most)
  · obtain none_ | ⟨y, listed, equal⟩ := (ranged.suits x given).chosen
    · exact absurd none_ some_
    · exact ⟨y, listed, (same x (default x given) y (choice y listed)).mp equal⟩

theorem read_forall {P : α → Prop} {values : List Value} {xs : List α} (read : List.Forall₂ (fun v x => c.read v = .ok x) values xs)
    (each : ∀ v x, c.read v = .ok x → P x) : ∀ x ∈ xs, P x := by
  induction read with
  | nil => exact nofun
  | cons first _ others => exact List.forall_mem_cons.mpr ⟨each _ _ first, others⟩

-- What holds of each value that can be read holds of all known values.
theorem ranged_forall {P : α → Prop} (ranged : Ranged c fields required multiple v)
    (each : ∀ v x, c.read v = .ok x → P x) : ∀ x ∈ known v, P x := by
  have bound : ∀ {value : Value} {b : Option α}, Bound c value b → ∀ x ∈ b, P x := by
    rintro value b (⟨-, rfl⟩ | ⟨-, x, read, rfl⟩) y same
    · cases same
    · exact Option.some.inj same ▸ each _ _ read
  intro x member
  simp only [known, List.mem_append, Option.mem_toList] at member
  rcases member with (((given | sample) | choice) | low) | high
  · exact read_forall ranged.default each x given
  · exact read_forall ranged.examples each x sample
  · exact read_forall ranged.choices each x choice
  · exact bound ranged.min x low
  · exact bound ranged.max x high

theorem double_finite {value : Value} {x : Double} (read : Carrier.double.read value = .ok x) : x.isFinite = true := by
  unfold Carrier.double at read
  dsimp only at read
  split at read
  · rename_i n
    cases near : Double.ofInt? n with
    | none =>
      rw [near] at read
      cases read
    | some y =>
      rw [near] at read
      obtain rfl := Except.ok.inj read
      exact Double.ofInt_finite near
  · split at read
    · obtain rfl := Except.ok.inj read
      assumption
    · cases read
  · cases read

-- A flag has one default: the one that is given, or the one that it does not store.
theorem flag_single {stored : Bool} {v w : Values Bool} (few : w.default.length ≤ 1)
    (shape : v = { default := if w.default.isEmpty then [!stored] else w.default, examples := w.examples }) :
    v.default.length = 1 := by
  rw [shape]
  dsimp only
  split
  · rfl
  · rename_i filled
    rw [List.isEmpty_iff, ← List.length_eq_zero_iff] at filled
    omega

theorem made_counts {name : String} {body : Body} (made : Made name fields required multiple body) :
    (required = true → body.texts.default = []) ∧ (multiple = false → body.texts.default.length ≤ 1) := by
  have counted : ∀ {α : Type} {c : Carrier α} {v : Values α} (f : α → String), Given c fields required multiple v →
      (required = true → v.default.map f = []) ∧ (multiple = false → (v.default.map f).length ≤ 1) := by
    intro α c v f given
    refine ⟨fun needed => ?_, fun alone => ?_⟩
    · rw [given.required needed, List.map_nil]
    · rw [List.length_map]
      exact given.single alone
  cases body with
  | string v => exact ⟨made.required, made.single⟩
  | integer v => exact counted _ made.toGiven
  | double v => exact counted _ made.toGiven
  | boolean v => exact counted _ made.1
  | file v mustExist createParent => exact ⟨made.1.1.required, made.1.1.single⟩
  | flag stored v =>
    obtain ⟨-, alone, free, w, given, shape⟩ := made
    refine ⟨fun needed => ?_, fun _ => ?_⟩
    · rw [free] at needed
      cases needed
    · rw [Body.texts, Values.map, List.length_map]
      exact (flag_single (given.single alone) shape).le

theorem made_fitting (made : Made a.name fields a.required a.multiple a.body) : Fitting a := by
  unfold Fitting
  cases body : a.body with
  | string v =>
    rw [body] at made
    intro x given some_
    obtain none_ | ⟨y, listed, same⟩ := (made.suits x given).chosen
    · exact absurd none_ some_
    · exact (beq_iff_eq.mp same : x = y) ▸ listed
  | integer v =>
    rw [body] at made
    exact within_ranged made (fun _ _ _ _ => decide_eq_true_iff) (fun _ _ _ _ => beq_iff_eq)
  | double v =>
    rw [body] at made
    have finite := ranged_forall made fun _ _ read => double_finite read
    exact ⟨finite, within_ranged made (fun x first y second => Double.less_iff (finite x first) (finite y second))
      (fun x first y second => Double.same_iff (finite x first) (finite y second))⟩
  | boolean v => trivial
  | file v mustExist createParent => trivial
  | flag stored v =>
    rw [body] at made
    obtain ⟨dashed, alone, free, w, given, shape⟩ := made
    exact ⟨beq_eq_false_iff_ne.mpr dashed, alone, free, flag_single (given.single alone) shape⟩

theorem dashed_head {spelling : String} (dashed : passing spelling ≠ .positional) : spelling.toList.head? = some '-' := by
  unfold passing Passing.ofChars at dashed
  split at dashed
  · rename_i shape
    rw [shape]
    rfl
  · rename_i shape
    rw [shape]
    rfl
  · exact absurd rfl dashed

theorem parts_consistent (parts : Parts kind fields a) : Consistent a where
  required := (made_counts parts.body).1
  single := (made_counts parts.body).2
  positional placed := parts.spelled.positional (beq_iff_eq.mp placed)
  dashed alternative listed := dashed_head (parts.spelled.dashed alternative listed)
  unreserved spelling listed := (checkSpelling_iff.mp (parts.spelled.each spelling listed)).1
  fitting := made_fitting parts.body

theorem separator_given {name : String} {given : Option Value} {separator : Char}
    (read : readSeparator name given = .ok separator) :
    given = none ∧ separator = ':' ∨ given = some (.text (String.ofList [separator])) := by
  unfold readSeparator at read
  split at read
  · exact Or.inl ⟨rfl, (Except.ok.inj read).symm⟩
  · rename_i s
    split at read
    · rename_i d shape
      obtain rfl := Except.ok.inj read
      refine Or.inr (congrArg (fun t => some (Value.text t)) ?_)
      rw [← shape, String.ofList_toList]
    · cases read
  · cases read

end Holding

section Again

variable {α : Type} {c : Carrier α} {write : α → Value} {fields own : Fields} {required multiple : Bool} {v : Values α}
  {a : Argument} {raw : String → Value} {key : String}

-- The values of a body as they are written.
def written : Body → Values Value
  | .string v => v.map .text
  | .integer v => v.map .int
  | .double v => v.map .double
  | .boolean v => v.map .bool
  | .flag _ v => v.map .bool
  | .file v _ _ => v.map .text

-- A field of an argument as it is written. What the switches were given is not normalised: it is taken as
-- it is from elsewhere.
def ownField (a : Argument) (raw : String → Value) : String → Value
  | "name" => .text a.name
  | "alternatives" => .list (a.alternatives.map .text)
  | "description" => a.description
  | "example" => .list (written a.body).examples
  | "default" => .list (written a.body).default
  | "direction" => .text a.direction.name
  | "multiple_sep" => .text a.separatorText
  | "choice_values" => .list (written a.body).choices
  | "min_value" => (written a.body).min.getD .null
  | "max_value" => (written a.body).max.getD .null
  | switch => raw switch

def ownFields (a : Argument) (raw : String → Value) : Fields :=
  (kindOf a.body).fields.map fun key => (.text key, ownField a raw key)

def switches (a : Argument) : List (String × Bool) :=
  [("required", a.required), ("multiple", a.multiple)] ++
    match a.body with
    | .file _ mustExist createParent => [("must_exist", mustExist), ("create_parent", createParent)]
    | _ => []

theorem fields_canonical (kind : Kind) : ∀ key ∈ kind.fields, canonicalField key = key ∧ key ≠ "type" := by
  cases kind with
  | flag stored => cases stored <;> decide
  | _ => decide

theorem common_known (kind : Kind) : ∀ key ∈ commonFields, key ∈ kind.fields := by
  cases kind with
  | flag stored => cases stored <;> decide
  | _ => decide

theorem field_own (listed : key ∈ (kindOf a.body).fields) : field? (ownFields a raw) key = some (ownField a raw key) := by
  have canonical : ∀ k ∈ (kindOf a.body).fields, canonicalField k = k := fun k known => (fields_canonical _ k known).1
  unfold field? ownFields
  rw [← List.map_reverse, List.find?_map, Option.map_map]
  -- the field that is found is the one of this key
  cases found : (kindOf a.body).fields.reverse.find? _ with
  | none =>
    have other := List.find?_eq_none.mp found key (List.mem_reverse.mpr listed)
    exact absurd (beq_iff_eq.mpr (canonical key listed)) other
  | some k =>
    have same : (canonicalField k == key) = true := @List.find?_some _ _ k _ found
    rw [beq_iff_eq] at same
    rw [canonical k (List.mem_reverse.mp (List.mem_of_find?_eq_some found))] at same
    rw [same]
    rfl

theorem fieldD_own (listed : key ∈ (kindOf a.body).fields) : fieldD (ownFields a raw) key = ownField a raw key := by
  rw [fieldD, field_own listed]
  rfl

theorem switch_own {absent : Bool} (listed : key ∈ (kindOf a.body).fields) :
    switch (ownFields a raw) key absent = (ownField a raw key).isGiven := by
  rw [switch, field_own listed]

theorem written_read {xs : List α} (each : ∀ x ∈ xs, c.read (write x) = .ok x) :
    List.Forall₂ (fun v x => c.read v = .ok x) (Value.list (xs.map write)).asList xs := by
  change List.Forall₂ _ (xs.map write) xs
  rw [List.forall₂_map_left_iff, List.forall₂_same]
  exact each

theorem written_bound {b : Option α} (each : ∀ x ∈ b, c.read (write x) = .ok x) (filled : ∀ x, write x ≠ .null) :
    Bound c ((b.map write).getD .null) b := by
  cases b with
  | none => exact Or.inl ⟨rfl, rfl⟩
  | some x => exact Or.inr ⟨filled x, x, each x rfl, rfl⟩

section Values

variable (wrote : written a.body = v.map write) (each : ∀ x ∈ known v, c.read (write x) = .ok x)

include wrote each

theorem given_again (unset : required = true → v.default = []) (few : multiple = false → v.default.length ≤ 1) :
    Given c (ownFields a raw) required multiple v where
  default := by
    rw [fieldD_own (common_known _ _ (by decide))]
    change List.Forall₂ _ (Value.list (written a.body).default).asList _
    rw [wrote]
    exact written_read fun x member => each x (by simp [known, member])
  examples := by
    rw [fieldD_own (common_known _ _ (by decide))]
    change List.Forall₂ _ (Value.list (written a.body).examples).asList _
    rw [wrote]
    exact written_read fun x member => each x (by simp [known, member])
  required := unset
  single := few

theorem choices_again (listed : "choice_values" ∈ (kindOf a.body).fields) :
    List.Forall₂ (fun v x => c.read v = .ok x) (fieldD (ownFields a raw) "choice_values").asList v.choices := by
  rw [fieldD_own listed]
  change List.Forall₂ _ (Value.list (written a.body).choices).asList _
  rw [wrote]
  exact written_read fun x member => each x (by simp [known, member])

theorem ranged_again (fields_ : (kindOf a.body).fields = Kind.integer.fields) (filled : ∀ x, write x ≠ .null)
    (ranged : Ranged c fields required multiple v) : Ranged c (ownFields a raw) required multiple v where
  toGiven := given_again wrote each ranged.required ranged.single
  choices := choices_again wrote each (fields_ ▸ by decide)
  min := by
    rw [fieldD_own (fields_ ▸ by decide)]
    change Bound c ((written a.body).min.getD .null) v.min
    rw [wrote]
    exact written_bound (fun x member => each x (by simp [known, Option.mem_toList.mpr member])) filled
  max := by
    rw [fieldD_own (fields_ ▸ by decide)]
    change Bound c ((written a.body).max.getD .null) v.max
    rw [wrote]
    exact written_bound (fun x member => each x (by simp [known, Option.mem_toList.mpr member])) filled
  ordered := ranged.ordered
  suits := ranged.suits

end Values

theorem made_again (made : Made a.name fields a.required a.multiple a.body)
    (counts : ∀ s ∈ switches a, (raw s.1).isGiven = s.2) :
    Made a.name (ownFields a raw) a.required a.multiple a.body := by
  cases body : a.body with
  | string v =>
    rw [body] at made
    have wrote : written a.body = v.map .text := by rw [body]; rfl
    have same : (kindOf a.body).fields = Kind.string.fields := by rw [body]; rfl
    have each : ∀ x ∈ known v, Carrier.string.read (.text x) = .ok x := fun _ _ => rfl
    exact {
      given_again wrote each made.required made.single with
      choices := choices_again wrote each (same ▸ by decide)
      unbounded := made.unbounded
      suits := made.suits }
  | integer v =>
    rw [body] at made
    have wrote : written a.body = v.map .int := by rw [body]; rfl
    exact ranged_again wrote (fun _ _ => rfl) (by rw [body]; rfl) (fun _ null => by cases null) made
  | double v =>
    rw [body] at made
    have wrote : written a.body = v.map .double := by rw [body]; rfl
    have finite := ranged_forall made fun _ _ read => double_finite read
    exact ranged_again wrote (fun x member => if_pos (finite x member)) (by rw [body]; rfl) (fun _ null => by cases null) made
  | boolean v =>
    rw [body] at made
    have wrote : written a.body = v.map .bool := by rw [body]; rfl
    exact ⟨given_again wrote (fun _ _ => rfl) made.1.required made.1.single, made.2⟩
  | flag stored v =>
    rw [body] at made
    obtain ⟨dashed, alone, free, w, given, shape⟩ := made
    have wrote : written a.body = v.map .bool := by rw [body]; rfl
    -- a default that was added is read back like one that was given
    have single : v.default.length = 1 := flag_single (given.single alone) shape
    have filled : v.default.isEmpty = false := by
      rw [List.isEmpty_eq_false_iff, ← List.length_pos_iff, single]
      exact Nat.one_pos
    refine ⟨dashed, alone, free, v, given_again wrote (fun _ _ => rfl) ?_ fun _ => single.le, ?_⟩
    · rw [free]
      exact fun required => Bool.noConfusion required
    · rw [filled, shape]
      rfl
  | file v mustExist createParent =>
    rw [body] at made
    have wrote : written a.body = v.map .text := by rw [body]; rfl
    have same : (kindOf a.body).fields = Kind.file.fields := by rw [body]; rfl
    have exist := counts ("must_exist", mustExist) (by simp [switches, body])
    have create := counts ("create_parent", createParent) (by simp [switches, body])
    refine ⟨⟨given_again wrote (fun _ _ => rfl) made.1.1.required made.1.1.single, made.1.2⟩, ?_, ?_⟩
    · rw [switch_own (same ▸ by decide)]
      exact exist.symm
    · rw [switch_own (same ▸ by decide)]
      exact create.symm

theorem direction_again (shown : String) (direction : Direction) :
    readDirection shown (some (.text direction.name)) = .ok direction := by
  have input : Text.lower (Value.text "input").display = "input" := by decide +kernel
  have output : Text.lower (Value.text "output").display = "output" := by decide +kernel
  cases direction
  · simp only [readDirection, Direction.name, input]
  · simp only [readDirection, Direction.name, output]

theorem separator_again (name : String) (separator : Char) :
    readSeparator name (some (.text (String.ofList [separator]))) = .ok separator := by
  simp only [readSeparator, String.toList_ofList]

theorem parts_again {kind : Kind} (parts : Parts kind fields a) (counts : ∀ s ∈ switches a, (raw s.1).isGiven = s.2) :
    Parts kind (ownFields a raw) a where
  direction := by
    rw [field_own (common_known _ _ (by decide))]
    exact direction_again _ _
  name := fieldD_own (common_known _ _ (by decide))
  alternatives := by
    rw [fieldD_own (common_known _ _ (by decide))]
    change (a.alternatives.map Value.text).map Value.display = a.alternatives
    rw [List.map_map]
    exact List.map_id _
  spelled := parts.spelled
  separator := by
    rw [field_own (common_known _ _ (by decide))]
    exact separator_again _ _
  required := by
    rw [switch_own (common_known _ _ (by decide))]
    exact counts _ (List.mem_cons_self ..)
  multiple := by
    rw [switch_own (common_known _ _ (by decide))]
    exact counts _ (List.mem_cons_of_mem _ (List.mem_cons_self ..))
  kind := parts.kind
  body := made_again parts.body counts
  description := fieldD_own (common_known _ _ (by decide))

theorem kind_found (kind : Kind) : Kind.all.find? (fun k => k.name == Text.lower kind.name) = some kind := by
  cases kind with
  | flag stored => cases stored <;> decide +kernel
  | _ => decide +kernel

-- An argument with its type.
def ownMapping (a : Argument) (raw : String → Value) : Fields :=
  (.text "type", .text a.body.type) :: ownFields a raw

theorem own_erased : (ownMapping a raw).erase "type" = ownFields a raw := by
  have others : ∀ f ∈ ownFields a raw, (f.1 != .text "type") = true := by
    intro f member
    obtain ⟨key, listed, rfl⟩ := List.mem_map.mp member
    have other := (fields_canonical _ key listed).2
    simpa using other
  exact List.filter_eq_self.mpr others

theorem own_read {kind : Kind} (parts : Parts kind fields a) (counts : ∀ s ∈ switches a, (raw s.1).isGiven = s.2) :
    ofMapping (ownMapping a raw) = .ok a := by
  have type : typeOf (ownMapping a raw) = (kindOf a.body).name := type_name a.body
  refine ofMapping_iff.mpr ⟨kindOf a.body, ?_, ?_, fun f member => ?_, ?_⟩
  · rw [type]
    exact kind_found _
  · rw [own_erased]
    exact List.any_eq_true.mpr ⟨_, List.mem_map_of_mem (common_known _ "name" (by decide)), by simp⟩
  · rw [own_erased] at member
    obtain ⟨key, listed, rfl⟩ := List.mem_map.mp member
    exact ⟨key, rfl, (fields_canonical _ key listed).1.symm ▸ listed⟩
  · rw [own_erased]
    exact parts.kind ▸ parts_again parts counts

end Again

-- Every argument that is read is consistent, its separator is the character that was given or a colon, and
-- what is written of it, with anything that counts alike for its switches, is read as the argument itself.
theorem read_consistent {given : Fields} {a : Argument} (read : Argument.ofValue (.map given) = .ok a) :
    Consistent a ∧
    (field? (given.erase "type") "multiple_sep" = none ∧ a.separator = ':' ∨
      field? (given.erase "type") "multiple_sep" = some (.text (String.ofList [a.separator]))) ∧
    ∀ raw : String → Value, (∀ s ∈ switches a, (raw s.1).isGiven = s.2) →
      Argument.ofValue (.map (ownMapping a raw)) = .ok a := by
  obtain ⟨kind, -, -, -, parts⟩ := ofMapping_iff.mp read
  exact ⟨parts_consistent parts, separator_given parts.separator, fun raw counts => own_read parts counts⟩

def levelFields : Fields :=
  [(.text "name", .text "--level"), (.text "type", .text "Integer"), (.text "alternatives", .text "-l"),
    (.text "default", .int 3), (.text "min", .int 1), (.text "choices", .list [.int 1, .int 3]), (.text "required", .int 0)]

theorem read_consistent_at_levels : ∃ a, Argument.ofValue (.map levelFields) = .ok a ∧ Consistent a ∧
    Argument.ofValue (.map (ownMapping a fun _ => .int 0)) = .ok a := by
  have read : ∃ a, Argument.ofValue (.map levelFields) = .ok a ∧ switches a = [("required", false), ("multiple", false)] :=
    ⟨_, rfl, rfl⟩
  obtain ⟨a, read, off⟩ := read
  obtain ⟨consistent, -, again⟩ := read_consistent read
  refine ⟨a, read, consistent, again _ fun s member => ?_⟩
  rw [off] at member
  rcases List.mem_cons.mp member with rfl | member
  · rfl
  · rw [List.mem_singleton.mp member]
    rfl

end Arguments

end Toolwrap
