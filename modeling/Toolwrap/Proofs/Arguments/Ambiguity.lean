import Mathlib.Data.List.Duplicate
import Mathlib.Data.List.Flatten
import Mathlib.Data.List.Nodup
import Toolwrap.Argument.Read
import Toolwrap.Proofs.Parsing.Spellings

-- Which lists of arguments are refused: exactly those in which a spelling or a variable would belong
-- to two owners, or in which a positional argument would leave nothing to the ones behind it.

namespace Toolwrap.Arguments

section Refusing

variable {α β : Type}

-- A check that fails in no other way than by refusing the description.
def OnlyRefuses (check : Checked α) : Prop :=
  ∀ fault, check = .error fault → ∃ cause, fault = .configuration cause

theorem onlyRefuses_ok (a : α) : OnlyRefuses (.ok a : Checked α) := nofun

theorem onlyRefuses_refuse (cause : Misconfiguration) : OnlyRefuses (refuse cause : Checked α) := by
  intro fault refused
  exact ⟨cause, (Except.error.inj refused).symm⟩

theorem onlyRefuses_bind {check : Checked α} {next : α → Checked β} (first : OnlyRefuses check)
    (others : ∀ a, OnlyRefuses (next a)) : OnlyRefuses (check >>= next) := by
  cases check with
  | error fault =>
    intro other refused
    obtain rfl := Except.error.inj refused
    exact first fault rfl
  | ok a => exact others a

theorem onlyRefuses_foldlM {step : β → α → Checked β} (steps : ∀ b a, OnlyRefuses (step b a)) (l : List α) (b : β) :
    OnlyRefuses (l.foldlM step b) := by
  induction l generalizing b with
  | nil => exact onlyRefuses_ok b
  | cons a l more =>
    rw [List.foldlM_cons]
    exact onlyRefuses_bind (steps b a) more

end Refusing

section Taking

variable {forbidden known more others : List String} {taken after : Taken} {owner spelling x : String}
  {a : Argument} {A : List Argument}

-- Keys that can be taken one after the other: none is forbidden or taken before, and none comes twice.
def Takable (forbidden known more : List String) : Prop :=
  more.Nodup ∧ ∀ x ∈ more, x ∉ forbidden ∧ x ∉ known

theorem takable_nil : Takable forbidden known [] := ⟨List.nodup_nil, nofun⟩

theorem takable_single : Takable forbidden known [x] ↔ x ∉ forbidden ∧ x ∉ known := by
  simp [Takable]

theorem takable_append : Takable forbidden known (more ++ others) ↔
    Takable forbidden known more ∧ Takable forbidden (more.reverse ++ known) others := by
  unfold Takable
  rw [List.nodup_append]
  constructor
  · rintro ⟨⟨first, second, apart⟩, free⟩
    refine ⟨⟨first, fun x member => free x (List.mem_append_left _ member)⟩, second, fun x member => ?_⟩
    obtain ⟨allowed, fresh⟩ := free x (List.mem_append_right _ member)
    refine ⟨allowed, fun again => ?_⟩
    rcases List.mem_append.mp again with before | earlier
    · exact apart x (List.mem_reverse.mp before) x member rfl
    · exact fresh earlier
  · rintro ⟨⟨first, free⟩, second, later⟩
    refine ⟨⟨first, second, ?_⟩, fun x member => ?_⟩
    · rintro x before _ member rfl
      exact (later x member).2 (List.mem_append_left _ (List.mem_reverse.mpr before))
    · rcases List.mem_append.mp member with before | behind
      · exact free x before
      · exact ⟨(later x behind).1, fun earlier => (later x behind).2 (List.mem_append_right _ earlier)⟩

theorem takable_cons : Takable forbidden known (x :: more) ↔
    Takable forbidden known [x] ∧ Takable forbidden (x :: known) more :=
  @takable_append forbidden known [x] more

theorem takable_perm (same : more.Perm others) (takable : Takable forbidden known more) :
    Takable forbidden known others :=
  ⟨same.nodup_iff.mp takable.1, fun x member => takable.2 x (same.mem_iff.mpr member)⟩

theorem takable_sublist (fewer : others.Sublist more) (takable : Takable forbidden known more) :
    Takable forbidden known others :=
  ⟨takable.1.sublist fewer, fun x member => takable.2 x (fewer.subset member)⟩

def spellingsOf (t : Taken) : List String := t.spellings.map (·.1)

def variablesOf (t : Taken) : List String := t.envNames.map (·.1)

theorem lookup_free {entries : List (String × String)} :
    entries.lookup x = none ↔ x ∉ entries.map (·.1) := by
  constructor
  · intro absent member
    obtain ⟨entry, listed, rfl⟩ := List.mem_map.mp member
    exact absurd (List.lookup_eq_none_iff.mp absent entry listed) (by simp)
  · intro absent
    refine List.lookup_eq_none_iff.mpr fun entry listed => bne_iff_ne.mpr ?_
    rintro rfl
    exact absent (List.mem_map_of_mem listed)

-- Spellings and variables are taken in one way: a key that is forbidden or taken is refused.
theorem guarded_iff {entries : List (String × String)} {own : Misconfiguration}
    {clash : String → Misconfiguration} {result : Taken} :
    (if x ∈ forbidden then refuse own
      else match entries.lookup x with
        | some other => refuse (clash other)
        | none => .ok result) = .ok after ↔
      Takable forbidden (entries.map (·.1)) [x] ∧ after = result := by
  rw [takable_single]
  by_cases banned : x ∈ forbidden
  · rw [if_pos banned]
    exact ⟨nofun, fun free => absurd banned free.1.1⟩
  · rw [if_neg banned]
    cases found : entries.lookup x with
    | none => exact ⟨fun ok => ⟨⟨banned, lookup_free.mp found⟩, (Except.ok.inj ok).symm⟩, fun free => free.2 ▸ rfl⟩
    | some other =>
      refine ⟨nofun, fun free => ?_⟩
      rw [lookup_free.mpr free.1.2] at found
      cases found

theorem guarded_refuses {entries : List (String × String)} {own : Misconfiguration}
    {clash : String → Misconfiguration} {result : Taken} :
    OnlyRefuses (if x ∈ forbidden then refuse own
      else match entries.lookup x with
        | some other => refuse (clash other)
        | none => .ok result) := by
  split
  · exact onlyRefuses_refuse _
  · split
    · exact onlyRefuses_refuse _
    · exact onlyRefuses_ok _

theorem takeSpelling_iff : Taken.takeSpelling owner taken spelling = .ok after ↔
    Takable reservedSpellings (spellingsOf taken) [spelling] ∧
      after = { taken with spellings := (spelling, owner) :: taken.spellings } := guarded_iff

theorem takeVariable_iff : Taken.takeVariable owner x taken = .ok after ↔
    Takable metaVariables (variablesOf taken) [x] ∧
      after = { taken with envNames := (x, owner) :: taken.envNames } := guarded_iff

-- What is taken once an argument is taken, too.
def recorded (taken : Taken) (a : Argument) : Taken where
  spellings := (a.spellings.map (·, a.name)).reverse ++ taken.spellings
  envNames := (a.envName, a.name) :: taken.envNames

theorem recorded_spellings : spellingsOf (recorded taken a) = a.spellings.reverse ++ spellingsOf taken := by
  simp [spellingsOf, recorded, Function.comp_def]

theorem takeSpellings_iff : more.foldlM (Taken.takeSpelling owner) taken = .ok after ↔
    Takable reservedSpellings (spellingsOf taken) more ∧
      after = { taken with spellings := (more.map (·, owner)).reverse ++ taken.spellings } := by
  induction more generalizing taken with
  | nil =>
    have kept : (pure taken : Checked Taken) = .ok after ↔ after = taken :=
      ⟨fun same => (Except.ok.inj same).symm, fun same => same ▸ rfl⟩
    simpa [takable_nil] using kept
  | cons first more further =>
    rw [List.foldlM_cons, takable_cons]
    constructor
    · intro ok
      obtain ⟨next, stepped, rest⟩ := Checked.bind_ok ok
      obtain ⟨single, rfl⟩ := takeSpelling_iff.mp stepped
      obtain ⟨behind, rfl⟩ := further.mp rest
      exact ⟨⟨single, behind⟩, by simp⟩
    · rintro ⟨⟨single, behind⟩, rfl⟩
      rw [takeSpelling_iff.mpr ⟨single, rfl⟩]
      exact further.mpr ⟨behind, by simp⟩

theorem take_iff : taken.take a = .ok after ↔
    Takable reservedSpellings (spellingsOf taken) a.spellings ∧
      Takable metaVariables (variablesOf taken) [a.envName] ∧ after = recorded taken a := by
  unfold Taken.take
  constructor
  · intro ok
    obtain ⟨next, stepped, last⟩ := Checked.bind_ok ok
    obtain ⟨spelled, rfl⟩ := takeSpellings_iff.mp stepped
    obtain ⟨named, rfl⟩ := takeVariable_iff.mp last
    exact ⟨spelled, named, rfl⟩
  · rintro ⟨spelled, named, rfl⟩
    have first : a.spellings.foldlM (Taken.takeSpelling a.name) taken = .ok _ := takeSpellings_iff.mpr ⟨spelled, rfl⟩
    rw [first]
    change Taken.takeVariable a.name a.envName _ = _
    exact takeVariable_iff.mpr ⟨named, rfl⟩

-- By induction on the arguments: they can be taken exactly if all their spellings can be, and all
-- their variables.
theorem takes_iff : A.foldlM Taken.take taken = .ok after ↔
    Takable reservedSpellings (spellingsOf taken) (A.flatMap Argument.spellings) ∧
      Takable metaVariables (variablesOf taken) (A.map Argument.envName) ∧ after = A.foldl recorded taken := by
  induction A generalizing taken with
  | nil =>
    have kept : (pure taken : Checked Taken) = .ok after ↔ after = taken :=
      ⟨fun same => (Except.ok.inj same).symm, fun same => same ▸ rfl⟩
    simpa [takable_nil] using kept
  | cons a A further =>
    rw [List.foldlM_cons, List.flatMap_cons, List.map_cons, takable_append, takable_cons, ← recorded_spellings]
    constructor
    · intro ok
      obtain ⟨next, stepped, rest⟩ := Checked.bind_ok ok
      obtain ⟨spelled, named, rfl⟩ := take_iff.mp stepped
      obtain ⟨also, others, rfl⟩ := further.mp rest
      exact ⟨⟨spelled, also⟩, ⟨named, others⟩, rfl⟩
    · rintro ⟨⟨spelled, also⟩, ⟨named, others⟩, rfl⟩
      rw [take_iff.mpr ⟨spelled, named, rfl⟩]
      exact further.mpr ⟨also, others, rfl⟩

theorem checkPositionals_iff : checkPositionals A = .ok () ↔ ∀ a ∈ A.dropLast, a.multiple = false := by
  fun_induction checkPositionals A with
  | case1 => simp
  | case2 a => simp
  | case3 a rest filled several =>
    refine ⟨nofun, fun single => ?_⟩
    have listed : a ∈ (a :: rest).dropLast := by
      rw [List.dropLast_cons_of_ne_nil filled]
      exact List.mem_cons_self ..
    rw [single a listed] at several
    cases several
  | case4 a rest filled single more =>
    rw [more, List.dropLast_cons_of_ne_nil filled, List.forall_mem_cons]
    exact ⟨fun others => ⟨Bool.not_eq_true _ ▸ single, others⟩, fun all => all.2⟩

end Taking

section Checking

variable {A B : List Argument}

theorem envName_free (a : Argument) : a.envName ∉ metaVariables := by
  have other : ∀ x ∈ metaVariables, x.toList.take 7 ≠ "BW_PAR_".toList := by decide
  exact fun listed => Parsing.envName_apart (other _ listed) rfl

theorem checked_iff : checkArguments A = .ok () ↔ Takable reservedSpellings [] (A.flatMap Argument.spellings) ∧
    (A.map Argument.envName).Nodup ∧
    ∀ a ∈ (A.filter Argument.isPositional).dropLast, a.multiple = false := by
  have named : Takable metaVariables [] (A.map Argument.envName) ↔ (A.map Argument.envName).Nodup := by
    refine and_iff_left fun x member => ⟨?_, List.not_mem_nil⟩
    obtain ⟨a, _, rfl⟩ := List.mem_map.mp member
    exact envName_free a
  unfold checkArguments
  rw [← named, ← checkPositionals_iff]
  constructor
  · intro ok
    obtain ⟨after, folded, placed⟩ := Checked.bind_ok ok
    obtain ⟨spelled, apart, -⟩ := takes_iff.mp folded
    exact ⟨spelled, apart, placed⟩
  · rintro ⟨spelled, apart, placed⟩
    have folded : A.foldlM Taken.take {} = .ok _ := takes_iff.mpr ⟨spelled, apart, rfl⟩
    rw [folded]
    exact placed

theorem checkPositionals_refuses (A : List Argument) : OnlyRefuses (checkPositionals A) := by
  fun_induction checkPositionals A with
  | case1 => exact onlyRefuses_ok ()
  | case2 a => exact onlyRefuses_ok ()
  | case3 a rest => exact onlyRefuses_refuse _
  | case4 a rest filled single more => exact more

theorem take_refuses (taken : Taken) (a : Argument) : OnlyRefuses (taken.take a) :=
  onlyRefuses_bind (onlyRefuses_foldlM (fun _ _ => guarded_refuses) _ _) fun _ => guarded_refuses

theorem checkArguments_refuses (A : List Argument) : OnlyRefuses (checkArguments A) :=
  onlyRefuses_bind (onlyRefuses_foldlM take_refuses A {}) fun _ => checkPositionals_refuses _

-- What makes a list of arguments ambiguous: a spelling that the wrapper handles itself or that stands
-- twice, a variable of two arguments, or a positional argument that takes all tokens of later ones.
inductive Ambiguous (A : List Argument) : Prop where
  | reserved {spelling : String} (listed : spelling ∈ A.flatMap Argument.spellings)
      (own : spelling = "-h" ∨ spelling = "--help" ∨ spelling = "--version")
  | repeated {spelling : String} (twice : (A.flatMap Argument.spellings).Duplicate spelling)
  | shared {x : String} (twice : (A.map Argument.envName).Duplicate x)
  | greedy {a : Argument} (early : a ∈ (A.filter Argument.isPositional).dropLast) (several : a.multiple = true)

theorem reserved_iff {spelling : String} : spelling ∈ reservedSpellings ↔
    spelling = "-h" ∨ spelling = "--help" ∨ spelling = "--version" := by
  simp [reservedSpellings]

theorem accepted_iff : checkArguments A = .ok () ↔ ¬ Ambiguous A := by
  rw [checked_iff]
  constructor
  · rintro ⟨⟨unique, free⟩, apart, single⟩ (⟨listed, own⟩ | ⟨twice⟩ | ⟨twice⟩ | ⟨early, several⟩)
    · exact (free _ listed).1 (reserved_iff.mpr own)
    · exact twice.not_nodup unique
    · exact twice.not_nodup apart
    · rw [single _ early] at several
      cases several
  · intro clear
    refine ⟨⟨List.nodup_iff_forall_not_duplicate.mpr fun spelling twice => clear (.repeated twice), ?_⟩,
      List.nodup_iff_forall_not_duplicate.mpr fun x twice => clear (.shared twice), ?_⟩
    · exact fun spelling listed => ⟨fun own => clear (.reserved listed (reserved_iff.mp own)), List.not_mem_nil⟩
    · exact fun a early => Bool.eq_false_iff.mpr fun several => clear (.greedy early several)

theorem refused_iff : (∃ cause, checkArguments A = .error (.configuration cause)) ↔ Ambiguous A := by
  constructor
  · rintro ⟨cause, refused⟩
    by_contra clear
    rw [accepted_iff.mpr clear] at refused
    cases refused
  · intro ambiguous
    cases checked : checkArguments A with
    | ok => exact absurd ambiguous (accepted_iff.mp checked)
    | error fault =>
      obtain ⟨cause, rfl⟩ := checkArguments_refuses A fault checked
      exact ⟨cause, rfl⟩

theorem dropLast_sublist_of (fewer : B.Sublist A) : B.dropLast.Sublist A.dropLast := by
  have reversed := fewer.reverse.tail
  rw [List.tail_reverse, List.tail_reverse] at reversed
  exact List.reverse_sublist.mp reversed

theorem checked_sublist (fewer : B.Sublist A) (ok : checkArguments A = .ok ()) : checkArguments B = .ok () := by
  obtain ⟨spelled, apart, single⟩ := checked_iff.mp ok
  refine checked_iff.mpr ⟨takable_sublist (fewer.flatMap _) spelled, apart.sublist (fewer.map _), fun a early => ?_⟩
  exact single a ((dropLast_sublist_of (fewer.filter _)).subset early)

theorem checked_perm (same : B.Perm A)
    (placed : B.filter Argument.isPositional = A.filter Argument.isPositional)
    (ok : checkArguments A = .ok ()) : checkArguments B = .ok () := by
  obtain ⟨spelled, apart, single⟩ := checked_iff.mp ok
  refine checked_iff.mpr ⟨takable_perm (same.symm.flatMap_right _) spelled, (same.map _).nodup_iff.mpr apart, ?_⟩
  rwa [placed]

-- The lists that are refused are the ambiguous ones; all others are accepted, and what is accepted
-- stays so when arguments are removed, or moved without changing the order of the positional ones.
theorem ambiguous_refused (A : List Argument) :
    ((∃ cause, checkArguments A = .error (.configuration cause)) ↔ Ambiguous A) ∧
      (checkArguments A = .ok () ↔ ¬ Ambiguous A) ∧
      (checkArguments A = .ok () → (∀ B, B.Sublist A → checkArguments B = .ok ()) ∧
        ∀ B, B.Perm A → B.filter Argument.isPositional = A.filter Argument.isPositional →
          checkArguments B = .ok ()) :=
  ⟨refused_iff, accepted_iff, fun ok => ⟨fun _ fewer => checked_sublist fewer ok,
    fun _ same placed => checked_perm same placed ok⟩⟩

end Checking

-- Two options whose names come to one variable.
def crossed : List Argument := [{ name := "--a-b", body := .string {} }, { name := "--A_b", body := .string {} }]

-- An option, and positional arguments of which the last one takes what is left.
def inOrder : List Argument :=
  [{ name := "--size", alternatives := ["-s"], body := .integer {} }, { name := "first", body := .string {} },
    { name := "rest", multiple := true, body := .string {} }]

theorem ambiguous_refused_at_names : (∃ cause, checkArguments crossed = .error (.configuration cause)) ∧
    checkArguments inOrder = .ok () ∧ checkArguments (inOrder.take 2) = .ok () ∧
      checkArguments (inOrder.drop 1 ++ inOrder.take 1) = .ok () := by
  obtain ⟨refused, -, -⟩ := ambiguous_refused crossed
  obtain ⟨-, -, kept⟩ := ambiguous_refused inOrder
  have twice : (crossed.map Argument.envName).Duplicate "BW_PAR_A_B" := by decide
  have ok : checkArguments inOrder = .ok () := Running.ok_of_toOption (by decide)
  obtain ⟨fewer, moved⟩ := kept ok
  exact ⟨refused.mpr (.shared twice), ok, fewer _ (List.take_sublist 2 inOrder), moved _ List.perm_append_comm rfl⟩

end Toolwrap.Arguments
