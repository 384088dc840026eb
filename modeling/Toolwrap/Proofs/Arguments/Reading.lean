import Toolwrap.Proofs.Parsing.Names

-- What an argument is read from, as an equivalence for each reader: a description is read exactly where
-- its fields are read and the rules between them hold. The readers are written with early ends; what is
-- said of them here has no order.

namespace Toolwrap.Arguments

section Checks

variable {α β : Type} {check : Checked α} {next : α → Checked β} {cause : Misconfiguration} {b : β} {p : Bool}

theorem bind_iff : (check >>= next) = .ok b ↔ ∃ a, check = .ok a ∧ next a = .ok b := by
  refine ⟨Checked.bind_ok, ?_⟩
  rintro ⟨a, rfl, rest⟩
  exact rest

theorem map_iff {f : α → β} : f <$> check = .ok b ↔ ∃ a, check = .ok a ∧ f a = b := by
  cases check with
  | error fault => exact ⟨nofun, nofun⟩
  | ok a => simp [Functor.map, Except.map]

-- A rule that refuses, in front of what is done otherwise.
theorem guard_iff {rest : Unit → Checked β} :
    (if p = true then refuse cause >>= rest else rest ()) = .ok b ↔ p = false ∧ rest () = .ok b := by
  cases p with
  | true => exact ⟨nofun, nofun⟩
  | false => simp

-- A rule for each member of a list.
theorem each_iff {step : α → Unit → Checked (ForInStep Unit)} {good : α → Prop}
    (one : ∀ x r, step x () = .ok r ↔ good x ∧ r = .yield ()) (l : List α) {u : Unit} :
    forIn l () step = .ok u ↔ ∀ x ∈ l, good x := by
  induction l with
  | nil => exact ⟨fun _ => nofun, fun _ => rfl⟩
  | cons x l others =>
    rw [List.forIn_cons, bind_iff, List.forall_mem_cons, ← others]
    constructor
    · rintro ⟨r, stepped, rest⟩
      obtain ⟨holds, rfl⟩ := (one x r).mp stepped
      exact ⟨holds, rest⟩
    · rintro ⟨holds, rest⟩
      exact ⟨_, (one x _).mpr ⟨holds, rfl⟩, rest⟩

-- A list of such rules, as the last thing that is checked.
theorem rules_iff {step : α → Unit → Checked (ForInStep Unit)} {good : α → Prop} {l : List α}
    (one : ∀ x r, step x () = .ok r ↔ good x ∧ r = .yield ()) :
    (forIn l () step >>= fun _ => pure ()) = .ok () ↔ ∀ x ∈ l, good x := by
  rw [bind_iff]
  constructor
  · rintro ⟨u, looped, -⟩
    exact (each_iff one l).mp looped
  · exact fun all => ⟨(), (each_iff one l).mpr all, rfl⟩

theorem yield_iff {r : ForInStep Unit} : (pure (.yield ()) : Checked (ForInStep Unit)) = .ok r ↔ r = .yield () :=
  ⟨fun same => (Except.ok.inj same).symm, fun same => congrArg Except.ok same.symm⟩

end Checks

open Argument

section Readers

variable {α : Type} {c : Carrier α} {name : String} {fields : Fields} {required multiple : Bool} {v w : Values α}
  {x : α} {value : Value} {role : Role} {kind : Kind} {a : Argument}

theorem readAs_iff : c.readAs name role value = .ok x ↔ c.read value = .ok x := by
  unfold Carrier.readAs
  cases c.read value with
  | ok y => exact Iff.of_eq (by rw [Except.ok.injEq, Except.ok.injEq])
  | error unread => cases unread <;> exact ⟨nofun, nofun⟩

-- Values are read one by one.
theorem mapM_iff {γ δ : Type} {f : γ → Checked δ} {l : List γ} {m : List δ} :
    l.mapM f = .ok m ↔ List.Forall₂ (fun a b => f a = .ok b) l m := by
  induction l generalizing m with
  | nil => exact ⟨fun ok => Except.ok.inj ok ▸ .nil, fun none_ => by cases none_; rfl⟩
  | cons a l others =>
    rw [List.mapM_cons]
    constructor
    · intro ok
      obtain ⟨b, first, ok⟩ := Checked.bind_ok ok
      obtain ⟨rest, later, ok⟩ := Checked.bind_ok ok
      obtain rfl := Except.ok.inj ok
      exact .cons first (others.mp later)
    · rintro (_ | ⟨first, rest⟩)
      exact bind_iff.mpr ⟨_, first, bind_iff.mpr ⟨_, others.mpr rest, rfl⟩⟩

theorem readAll_iff {xs : List α} :
    c.readAll name role value = .ok xs ↔ List.Forall₂ (fun v x => c.read v = .ok x) value.asList xs := by
  simp only [Carrier.readAll, mapM_iff, readAs_iff]

-- What a bound is read from.
def Bound (c : Carrier α) (value : Value) (bound : Option α) : Prop :=
  (value = .null ∧ bound = none) ∨ value ≠ .null ∧ ∃ x, c.read value = .ok x ∧ bound = some x

theorem readBound_iff {bound : Option α} : c.readBound name role value = .ok bound ↔ Bound c value bound := by
  unfold Carrier.readBound
  split
  · simp [Bound, eq_comm]
  · rename_i given
    rw [map_iff]
    simp only [readAs_iff]
    constructor
    · rintro ⟨x, found, rfl⟩
      exact Or.inr ⟨given, x, found, rfl⟩
    · rintro (⟨none_, -⟩ | ⟨-, x, found, rfl⟩)
      · exact absurd none_ given
      · exact ⟨x, found, rfl⟩

-- What a default and examples are read from.
structure Given (c : Carrier α) (fields : Fields) (required multiple : Bool) (v : Values α) : Prop where
  default : List.Forall₂ (fun v x => c.read v = .ok x) (fieldD fields "default").asList v.default
  examples : List.Forall₂ (fun v x => c.read v = .ok x) (fieldD fields "example").asList v.examples
  required : required = true → v.default = []
  single : multiple = false → v.default.length ≤ 1

theorem Given.alone (given : Given c fields required multiple v) :
    Given c fields required multiple { default := v.default, examples := v.examples } :=
  ⟨given.default, given.examples, given.required, given.single⟩

theorem readGiven_iff : readGiven c name fields required multiple = .ok v ↔
    Given c fields required multiple v ∧ v = { default := v.default, examples := v.examples } := by
  unfold readGiven
  simp only [bind_iff, guard_iff, readAll_iff]
  constructor
  · rintro ⟨default, first, examples, second, unset, few, read⟩
    obtain rfl := Except.ok.inj read
    refine ⟨⟨first, second, fun needed => ?_, fun alone => ?_⟩, rfl⟩
    · simpa [needed] using unset
    · simpa [alone] using few
  · rintro ⟨given, shape⟩
    refine ⟨_, given.default, _, given.examples, ?_, ?_, congrArg Except.ok shape.symm⟩
    · cases required with
      | false => rfl
      | true => simpa using given.required rfl
    · cases multiple with
      | true => simp
      | false => simpa using given.single rfl

theorem readChoices_iff : readChoices c name fields v = .ok w ↔
    List.Forall₂ (fun v x => c.read v = .ok x) (fieldD fields "choice_values").asList w.choices ∧
      w = { v with choices := w.choices } := by
  unfold readChoices
  simp only [bind_iff, readAll_iff]
  constructor
  · rintro ⟨choices, read, made⟩
    obtain rfl := Except.ok.inj made
    exact ⟨read, rfl⟩
  · rintro ⟨read, shape⟩
    exact ⟨_, read, congrArg Except.ok shape.symm⟩

theorem readBounds_iff : readBounds c name fields v = .ok w ↔
    Bound c (fieldD fields "min_value") w.min ∧ Bound c (fieldD fields "max_value") w.max ∧
      w = { v with min := w.min, max := w.max } := by
  unfold readBounds
  simp only [bind_iff, readBound_iff]
  constructor
  · rintro ⟨min, low, max, high, made⟩
    obtain rfl := Except.ok.inj made
    exact ⟨low, high, rfl⟩
  · rintro ⟨low, high, shape⟩
    exact ⟨_, low, _, high, congrArg Except.ok shape.symm⟩

-- A default suits the choices and the bounds.
structure Suits (c : Carrier α) (v : Values α) (x : α) : Prop where
  chosen : v.choices = [] ∨ ∃ y ∈ v.choices, c.same x y = true
  above : ∀ low ∈ v.min, c.less x low = false
  below : ∀ high ∈ v.max, c.less high x = false

theorem suits_iff : Suits c v x ↔ (!v.choices.isEmpty && !v.choices.any (c.same x)) = false ∧
    (∀ low ∈ v.min, c.less x low = false) ∧ ∀ high ∈ v.max, c.less high x = false := by
  have chosen : (!v.choices.isEmpty && !v.choices.any (c.same x)) = false ↔
      v.choices = [] ∨ ∃ y ∈ v.choices, c.same x y = true := by
    rw [Bool.and_eq_false_iff, Bool.not_eq_false', Bool.not_eq_false', List.isEmpty_iff, List.any_eq_true]
  rw [chosen]
  exact ⟨fun suits => ⟨suits.chosen, suits.above, suits.below⟩, fun ⟨chosen, above, below⟩ => ⟨chosen, above, below⟩⟩

theorem checkDefaults_iff : c.checkDefaults name v = .ok () ↔
    (∀ low ∈ v.min, ∀ high ∈ v.max, c.less high low = false) ∧ ∀ x ∈ v.default, Suits c v x := by
  unfold Carrier.checkDefaults
  obtain ⟨default, examples, choices, min, max⟩ := v
  cases min with
  | none =>
    cases max with
    | none =>
      refine (rules_iff fun x r => ?_).trans ⟨fun all => ⟨nofun, all⟩, And.right⟩
      simp only [guard_iff, yield_iff, suits_iff]
      simp
    | some high =>
      refine (rules_iff fun x r => ?_).trans ⟨fun all => ⟨nofun, all⟩, And.right⟩
      simp only [guard_iff, yield_iff, suits_iff]
      simp [and_assoc]
  | some low =>
    cases max with
    | none =>
      refine (rules_iff fun x r => ?_).trans ⟨fun all => ⟨nofun, all⟩, And.right⟩
      simp only [guard_iff, yield_iff, suits_iff]
      simp [and_assoc]
    | some high =>
      refine guard_iff.trans (and_congr (by simp) (rules_iff fun x r => ?_))
      simp only [guard_iff, yield_iff, suits_iff]
      simp [and_assoc]

-- What the values of a kind with choices and bounds are read from.
structure Ranged (c : Carrier α) (fields : Fields) (required multiple : Bool) (v : Values α) : Prop
    extends Given c fields required multiple v where
  choices : List.Forall₂ (fun v x => c.read v = .ok x) (fieldD fields "choice_values").asList v.choices
  min : Bound c (fieldD fields "min_value") v.min
  max : Bound c (fieldD fields "max_value") v.max
  ordered : ∀ low ∈ v.min, ∀ high ∈ v.max, c.less high low = false
  suits : ∀ x ∈ v.default, Suits c v x

theorem readRange_iff : readRange c name fields required multiple = .ok v ↔ Ranged c fields required multiple v := by
  unfold readRange
  simp only [bind_iff, readGiven_iff, readChoices_iff, readBounds_iff]
  constructor
  · rintro ⟨given, ⟨first, shape⟩, choices, ⟨chosen, more⟩, range, ⟨low, high, all⟩, ⟨⟩, checked, made⟩
    obtain rfl := Except.ok.inj made
    obtain ⟨ordered, suits⟩ := checkDefaults_iff.mp checked
    rw [more] at all
    rw [all] at ordered suits ⊢
    exact { first with choices := chosen, min := low, max := high, ordered, suits }
  · intro ranged
    exact ⟨{ default := v.default, examples := v.examples }, ⟨ranged.toGiven.alone, rfl⟩,
      { default := v.default, examples := v.examples, choices := v.choices }, ⟨ranged.choices, rfl⟩,
      v, ⟨ranged.min, ranged.max, rfl⟩, (), checkDefaults_iff.mpr ⟨ranged.ordered, ranged.suits⟩, rfl⟩

-- What the values of a kind with choices alone are read from.
structure Chosen (c : Carrier α) (fields : Fields) (required multiple : Bool) (v : Values α) : Prop
    extends Given c fields required multiple v where
  choices : List.Forall₂ (fun v x => c.read v = .ok x) (fieldD fields "choice_values").asList v.choices
  unbounded : v.min = none ∧ v.max = none
  suits : ∀ x ∈ v.default, Suits c v x

theorem readString_iff {body : Body} : readBody .string name fields required multiple = .ok body ↔
    ∃ v, Chosen Carrier.string fields required multiple v ∧ body = .string v := by
  unfold readBody
  simp only [bind_iff, readGiven_iff, readChoices_iff]
  constructor
  · rintro ⟨given, ⟨first, shape⟩, v, ⟨chosen, all⟩, ⟨⟩, checked, made⟩
    obtain rfl := Except.ok.inj made
    obtain ⟨-, suits⟩ := checkDefaults_iff.mp checked
    rw [shape] at all
    refine ⟨v, ?_, rfl⟩
    rw [all] at suits ⊢
    exact { first with choices := chosen, unbounded := ⟨rfl, rfl⟩, suits }
  · rintro ⟨⟨default, examples, choices, min, max⟩, chosen, rfl⟩
    obtain ⟨rfl, rfl⟩ := chosen.unbounded
    exact ⟨{ default, examples }, ⟨chosen.toGiven.alone, rfl⟩, _,
      ⟨chosen.choices, rfl⟩, (), checkDefaults_iff.mpr ⟨nofun, chosen.suits⟩, rfl⟩

-- A flag is read like a truth value; what it does not store is its default if none is given.
theorem readFlag_iff {stored : Bool} {body : Body} : readFlag stored name fields required multiple = .ok body ↔
    ∃ v, Given Carrier.boolean fields required multiple v ∧ passing name ≠ .positional ∧ multiple = false ∧
      required = false ∧ body = .flag stored
        { default := if v.default.isEmpty then [!stored] else v.default, examples := v.examples } := by
  unfold readFlag
  simp only [bind_iff, guard_iff, readGiven_iff]
  constructor
  · rintro ⟨v, ⟨given, shape⟩, dashed, alone, free, made⟩
    obtain rfl := Except.ok.inj made
    exact ⟨v, given, by simpa using dashed, alone, free, by rw [shape]⟩
  · rintro ⟨v, given, dashed, alone, free, rfl⟩
    exact ⟨{ default := v.default, examples := v.examples }, ⟨given.alone, rfl⟩, by simpa using dashed, alone, free, rfl⟩

def kindOf : Body → Kind
  | .string _ => .string
  | .integer _ => .integer
  | .double _ => .double
  | .boolean _ => .boolean
  | .flag stored _ => .flag stored
  | .file _ _ _ => .file

theorem type_name (body : Body) : body.type = (kindOf body).name := by
  cases body with
  | flag stored v => cases stored <;> rfl
  | _ => rfl

-- What a body is read from.
def Made (name : String) (fields : Fields) (required multiple : Bool) : Body → Prop
  | .string v => Chosen Carrier.string fields required multiple v
  | .integer v => Ranged Carrier.integer fields required multiple v
  | .double v => Ranged Carrier.double fields required multiple v
  | .boolean v => Given Carrier.boolean fields required multiple v ∧ v = { default := v.default, examples := v.examples }
  | .flag stored v => passing name ≠ .positional ∧ multiple = false ∧ required = false ∧
      ∃ w, Given Carrier.boolean fields required multiple w ∧
        v = { default := if w.default.isEmpty then [!stored] else w.default, examples := w.examples }
  | .file v mustExist createParent =>
      (Given Carrier.file fields required multiple v ∧ v = { default := v.default, examples := v.examples }) ∧
        mustExist = switch fields "must_exist" false ∧ createParent = switch fields "create_parent" true

theorem readBody_iff {body : Body} : readBody kind name fields required multiple = .ok body ↔
    kind = kindOf body ∧ Made name fields required multiple body := by
  constructor
  · intro read
    cases kind with
    | string =>
      obtain ⟨v, chosen, rfl⟩ := readString_iff.mp read
      exact ⟨rfl, chosen⟩
    | integer =>
      obtain ⟨v, ranged, rfl⟩ := map_iff.mp read
      exact ⟨rfl, readRange_iff.mp ranged⟩
    | double =>
      obtain ⟨v, ranged, rfl⟩ := map_iff.mp read
      exact ⟨rfl, readRange_iff.mp ranged⟩
    | boolean =>
      obtain ⟨v, given, rfl⟩ := map_iff.mp read
      exact ⟨rfl, readGiven_iff.mp given⟩
    | flag stored =>
      obtain ⟨v, given, dashed, alone, free, rfl⟩ := readFlag_iff.mp read
      exact ⟨rfl, dashed, alone, free, v, given, rfl⟩
    | file =>
      obtain ⟨v, given, made⟩ := Checked.bind_ok read
      obtain rfl := Except.ok.inj made
      exact ⟨rfl, readGiven_iff.mp given, rfl, rfl⟩
  · rintro ⟨rfl, made⟩
    cases body with
    | string v => exact readString_iff.mpr ⟨v, made, rfl⟩
    | integer v => exact map_iff.mpr ⟨v, readRange_iff.mpr made, rfl⟩
    | double v => exact map_iff.mpr ⟨v, readRange_iff.mpr made, rfl⟩
    | boolean v => exact map_iff.mpr ⟨v, readGiven_iff.mpr made, rfl⟩
    | flag stored v =>
      obtain ⟨dashed, alone, free, w, given, rfl⟩ := made
      exact readFlag_iff.mpr ⟨w, given, dashed, alone, free, rfl⟩
    | file v mustExist createParent =>
      obtain ⟨given, rfl, rfl⟩ := made
      exact bind_iff.mpr ⟨v, readGiven_iff.mpr given, rfl⟩

theorem checkSpelling_iff {spelling : String} : checkSpelling spelling = .ok () ↔
    ¬"---".toList <+: spelling.toList ∧ isSpelling spelling.toList = true := by
  unfold checkSpelling
  rw [← List.isPrefixOf_iff_prefix]
  split
  · rename_i led
    exact ⟨nofun, fun free => absurd led free.1⟩
  · rename_i free
    split
    · rename_i spelled
      exact ⟨fun _ => ⟨free, spelled⟩, fun _ => rfl⟩
    · rename_i other
      exact ⟨nofun, fun spelled => absurd spelled.2 other⟩

-- What the names of an argument have to be.
structure Spelled (name : String) (alternatives : List String) : Prop where
  each : ∀ spelling ∈ name :: alternatives, checkSpelling spelling = .ok ()
  positional : passing name = .positional → alternatives = []
  dashed : ∀ alternative ∈ alternatives, passing alternative ≠ .positional

theorem checkNames_iff {alternatives : List String} :
    checkNames name alternatives = .ok () ↔ Spelled name alternatives := by
  unfold checkNames
  rw [bind_iff]
  simp only [guard_iff]
  have each : ∀ spelling (r : ForInStep Unit), (checkSpelling spelling >>= fun _ => pure (.yield ())) = .ok r ↔
      checkSpelling spelling = .ok () ∧ r = .yield () := by
    intro spelling r
    rw [bind_iff]
    exact ⟨fun ⟨_, checked, made⟩ => ⟨checked, yield_iff.mp made⟩, fun ⟨checked, made⟩ => ⟨(), checked, yield_iff.mpr made⟩⟩
  have dashed : (forIn alternatives () fun alternative _ =>
      if (passing alternative == .positional) = true then do
        refuse (.positionalAlternative name alternative)
        pure (.yield ())
      else pure (.yield ())) >>= (fun _ => pure ()) = (.ok () : Checked Unit) ↔
        ∀ alternative ∈ alternatives, passing alternative ≠ .positional :=
    rules_iff fun alternative r => by simp only [guard_iff, yield_iff, beq_eq_false_iff_ne, ne_eq]
  constructor
  · rintro ⟨u, looped, alone, rest⟩
    refine ⟨(each_iff each _).mp looped, fun placed => ?_, dashed.mp rest⟩
    simpa [placed] using alone
  · intro spelled
    refine ⟨(), (each_iff each _).mpr spelled.each, ?_, dashed.mpr spelled.dashed⟩
    by_cases placed : passing name = .positional
    · simp [spelled.positional placed]
    · simp [placed]

-- What an argument of a kind is read from.
structure Parts (kind : Kind) (fields : Fields) (a : Argument) : Prop where
  direction : readDirection (fieldD fields "name").display (field? fields "direction") = .ok a.direction
  name : fieldD fields "name" = .text a.name
  alternatives : (fieldD fields "alternatives").asList.map Value.display = a.alternatives
  spelled : Spelled a.name a.alternatives
  separator : readSeparator a.name (field? fields "multiple_sep") = .ok a.separator
  required : switch fields "required" false = a.required
  multiple : switch fields "multiple" false = a.multiple
  kind : kind = kindOf a.body
  body : Made a.name fields a.required a.multiple a.body
  description : fieldD fields "description" = a.description

theorem needText_iff {s : String} : value.needText = .ok s ↔ value = .text s := by
  unfold Value.needText
  split
  · simp
  · rename_i other
    exact ⟨nofun, fun text => absurd text (other s)⟩

theorem ofFields_iff : ofFields kind fields = .ok a ↔ Parts kind fields a := by
  unfold ofFields
  simp only [bind_iff, needText_iff]
  constructor
  · rintro ⟨direction, led, name, named, ⟨⟩, spelled, separator, parted, body, read, made⟩
    obtain rfl := Except.ok.inj made
    obtain ⟨same, made⟩ := readBody_iff.mp read
    exact ⟨led, named, rfl, checkNames_iff.mp spelled, parted, rfl, rfl, same, made, rfl⟩
  · rintro parts
    refine ⟨_, parts.direction, _, parts.name, (), ?_, _, parts.separator, a.body, ?_, ?_⟩
    · rw [parts.alternatives]
      exact checkNames_iff.mpr parts.spelled
    · rw [parts.required, parts.multiple]
      exact readBody_iff.mpr ⟨parts.kind, parts.body⟩
    · rw [parts.alternatives, parts.required, parts.multiple, parts.description]
      rfl

-- A field that a kind knows.
def Known (kind : Kind) (key : Scalar) : Prop := ∃ k, key = .text k ∧ canonicalField k ∈ kind.fields

theorem checkFields_iff {shown type : String} :
    checkFields kind shown type fields = .ok () ↔ ∀ f ∈ fields, Known kind f.1 := by
  unfold checkFields
  refine rules_iff fun f r => ?_
  obtain ⟨key, value⟩ := f
  dsimp only
  rw [guard_iff, yield_iff]
  refine and_congr ?_ Iff.rfl
  unfold Known
  cases key <;> simp

def typeOf (given : Fields) : String := ((given.get? "type").getD (.text "string")).display

theorem ofMapping_iff {given : Fields} : ofMapping given = .ok a ↔
    ∃ kind, Kind.all.find? (fun k => k.name == Text.lower (typeOf given)) = some kind ∧
      (given.erase "type").contains "name" = true ∧ (∀ f ∈ given.erase "type", Known kind f.1) ∧
      Parts kind (given.erase "type") a := by
  have type : ((given.get? "type").getD (.text "string")).display = typeOf given := rfl
  unfold ofMapping
  dsimp only
  rw [type]
  cases Kind.all.find? fun k => k.name == Text.lower (typeOf given) with
  | none =>
    constructor
    · intro read
      cases read
    · rintro ⟨_, missing, -⟩
      cases missing
  | some kind =>
    dsimp only
    rw [guard_iff, bind_iff]
    simp only [ofFields_iff, Option.some.injEq, Bool.not_eq_false']
    constructor
    · rintro ⟨named, ⟨⟩, known, parts⟩
      exact ⟨kind, rfl, named, checkFields_iff.mp known, parts⟩
    · rintro ⟨_, rfl, named, known, parts⟩
      exact ⟨named, (), checkFields_iff.mpr known, parts⟩

end Readers

end Toolwrap.Arguments
