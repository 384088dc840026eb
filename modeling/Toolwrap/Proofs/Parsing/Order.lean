import Toolwrap.Proofs.Parsing.Spellings

-- Options in any order: as long as the groups of one variable keep their order, and the positional
-- arguments theirs, a command line is read with the same outcome.

namespace Toolwrap.Parsing

-- What a group of tokens does.
inductive Step where
  | value (x : String) (rule : Rule) (text : String)
  | flag (x text : String)
  | positional (token : String)

-- The variable that it is about; the positional arguments are about none.
def Step.owner : Step → Option String
  | .value x .. => some x
  | .flag x .. => some x
  | .positional .. => none

def Step.take (stored : Stored) : Step → Option Stored
  | .value x rule text => stored.give x rule text
  | .flag x text => some (stored.set x text)
  | .positional token => some (stored.add [token])

-- The tokens of a group.
inductive Written (A : List Argument) : Step → List String → Prop where
  | apart {spelling x text : String} {rule : Rule} (told : tokenOf A spelling = .value x rule) :
      Written A (.value x rule text) [spelling, text]
  | attached {token x text : String} {rule : Rule} (told : tokenOf A token = .attached x rule text) :
      Written A (.value x rule text) [token]
  | flag {token x text : String} (told : tokenOf A token = .flag x text) : Written A (.flag x text) [token]
  | positional {token : String} (told : tokenOf A token = .positional) :
      Written A (.positional token) [token]

structure Group (A : List Argument) where
  step : Step
  tokens : List String
  written : Written A step tokens

def Group.owner {A : List Argument} (g : Group A) : Option String := g.step.owner

def ofStored : Option Stored → Outcome
  | some final => .stored final
  | none => .exits 1

section Reading

variable {A : List Argument} {gs hs : List (Group A)} {stored : Stored}

-- One group is read as what it does.
theorem read_group (g : Group A) (rest : List String) (stored : Stored) :
    read A (g.tokens ++ rest) stored = ((g.step.take stored).elim (.exits 1) (read A rest)) := by
  obtain ⟨step, tokens, written⟩ := g
  cases written with
  | apart told =>
    simp only [List.cons_append, List.nil_append, read, told, Step.take]
    cases stored.give _ _ _ <;> rfl
  | attached told =>
    simp only [List.cons_append, List.nil_append, read, told, Step.take]
    cases stored.give _ _ _ <;> rfl
  | flag told =>
    simp only [List.cons_append, List.nil_append, read, told]
    rfl
  | positional told =>
    simp only [List.cons_append, List.nil_append, read, told]
    rfl

def taken (gs : List (Group A)) (stored : Stored) : Option Stored :=
  gs.foldlM (fun stored g => g.step.take stored) stored

theorem taken_cons (g : Group A) (gs : List (Group A)) (stored : Stored) :
    taken (g :: gs) stored = (g.step.take stored).bind (taken gs) := rfl

-- By induction on the groups: a command line is read as all that they do, one after the other.
theorem read_groups (gs : List (Group A)) (stored : Stored) :
    read A (gs.flatMap Group.tokens) stored = ofStored (taken gs stored) := by
  induction gs generalizing stored with
  | nil => rfl
  | cons g gs more =>
    rw [List.flatMap_cons, read_group, taken_cons]
    cases g.step.take stored with
    | none => rfl
    | some next => exact more next

end Reading

section Rearranging

variable {A : List Argument} {gs hs : List (Group A)} {g p : Group A} {stored : Stored}

-- What is about a variable looks at its value and gives it another one.
theorem take_owned {step : Step} {x : String} (owned : step.owner = some x) :
    ∃ change : Option String → Option String, ∀ stored,
      step.take stored = (change (stored.values x)).map (stored.set x) := by
  cases step with
  | value y rule text =>
    obtain rfl := Option.some.inj owned
    exact ⟨(rule.store · text), fun _ => rfl⟩
  | flag y text =>
    obtain rfl := Option.some.inj owned
    exact ⟨fun _ => some text, fun _ => rfl⟩
  | positional token => cases owned

theorem take_unowned {step : Step} (unowned : step.owner = none) :
    ∃ token, ∀ stored, step.take stored = some (stored.add [token]) := by
  cases step with
  | positional token => exact ⟨token, fun _ => rfl⟩
  | value => cases unowned
  | flag => cases unowned

theorem set_comm {x y : String} (apart : x ≠ y) (stored : Stored) (v w : String) :
    (stored.set x v).set y w = (stored.set y w).set x v := by
  unfold Stored.set
  congr 1
  funext z
  by_cases first : z = x
  · subst first
    simp [apart]
  · simp [first]

-- Two groups that are about different things can change places.
theorem take_comm {first second : Step} (apart : first.owner ≠ second.owner) (stored : Stored) :
    (first.take stored).bind second.take = (second.take stored).bind first.take := by
  cases one : first.owner with
  | none =>
    obtain ⟨token, adds⟩ := take_unowned one
    cases other : second.owner with
    | none => exact absurd (one.trans other.symm) apart
    | some y =>
      obtain ⟨change, takes⟩ := take_owned other
      simp only [adds, takes, Option.bind_some, Option.bind_map]
      cases same : change (stored.values y) <;> simp [Stored.add, Stored.set, same]
  | some x =>
    obtain ⟨change, takes⟩ := take_owned one
    cases other : second.owner with
    | none =>
      obtain ⟨token, adds⟩ := take_unowned other
      cases same : change (stored.values x) <;> simp [Stored.add, Stored.set, same, adds, takes]
    | some y =>
      obtain ⟨alter, changes⟩ := take_owned other
      have unlike : x ≠ y := fun same => apart (by rw [one, other, same])
      have kept : ∀ v, (stored.set x v).values y = stored.values y := fun v => if_neg unlike.symm
      have left : ∀ v, (stored.set y v).values x = stored.values x := fun v => if_neg unlike
      cases here : change (stored.values x) <;> cases there : alter (stored.values y) <;>
        simp [takes, changes, here, there, kept, left, set_comm unlike]

-- A group can be read in front of others that are about other things.
theorem taken_front (apart : ∀ p ∈ gs, p.owner ≠ g.owner) (hs : List (Group A)) (stored : Stored) :
    taken (gs ++ g :: hs) stored = taken (g :: (gs ++ hs)) stored := by
  induction gs generalizing stored with
  | nil => rfl
  | cons p gs more =>
    have others : taken (gs ++ g :: hs) = fun next => (g.step.take next).bind (taken (gs ++ hs)) :=
      funext (more fun q member => apart q (List.mem_cons_of_mem _ member))
    have swapped := take_comm (apart p (List.mem_cons_self ..)) stored
    calc taken (p :: gs ++ g :: hs) stored
        = ((p.step.take stored).bind g.step.take).bind (taken (gs ++ hs)) := by
          rw [List.cons_append, taken_cons, others, Option.bind_assoc]
      _ = ((g.step.take stored).bind p.step.take).bind (taken (gs ++ hs)) := by rw [swapped]
      _ = taken (g :: (p :: gs ++ hs)) stored := by
          rw [Option.bind_assoc]
          rfl

-- The groups of one owner, in their order.
def ownedBy (k : Option String) (gs : List (Group A)) : List (Group A) := gs.filter (·.owner = k)

-- By induction on the groups of one order: its first one is brought to the front of the other order.
theorem taken_same (same : ∀ k, ownedBy k gs = ownedBy k hs) (stored : Stored) :
    taken gs stored = taken hs stored := by
  induction gs generalizing hs stored with
  | nil =>
    cases hs with
    | nil => rfl
    | cons h hs =>
      have none_ : [] = ownedBy h.owner (h :: hs) := same h.owner
      have own : ownedBy h.owner (h :: hs) = h :: ownedBy h.owner hs :=
        List.filter_cons_of_pos (decide_eq_true rfl)
      rw [own] at none_
      cases none_
  | cons g gs more =>
    have own : ownedBy g.owner (g :: gs) = g :: ownedBy g.owner gs :=
      List.filter_cons_of_pos (decide_eq_true rfl)
    obtain ⟨front, rest, rfl, passed, _, behind⟩ := List.filter_eq_cons_iff.mp ((same g.owner).symm.trans own)
    have apart : ∀ p ∈ front, p.owner ≠ g.owner := fun p member equal =>
      passed p member (decide_eq_true equal)
    have left : ∀ k, ownedBy k gs = ownedBy k (front ++ rest) := by
      intro k
      have whole := same k
      unfold ownedBy at whole behind ⊢
      rw [List.filter_append] at whole ⊢
      by_cases mine : g.owner = k
      · subst mine
        rw [List.filter_eq_nil_iff.mpr passed, List.nil_append, behind]
      · rwa [List.filter_cons_of_neg (by simpa using mine), List.filter_cons_of_neg (by simpa using mine)]
          at whole
    rw [taken_front apart, taken_cons, taken_cons]
    exact congrArg _ (funext fun next => more left next)

-- Two orders that agree on the groups of each argument, of each flag and of the positional arguments
-- store the same, or both are refused with the code one.
theorem groups_rearranged (same : ∀ k, ownedBy k gs = ownedBy k hs)
    (stored : Stored) :
    read A (gs.flatMap Group.tokens) stored = read A (hs.flatMap Group.tokens) stored ∧
      ((∃ final, read A (gs.flatMap Group.tokens) stored = .stored final) ∨
        read A (gs.flatMap Group.tokens) stored = .exits 1) := by
  rw [read_groups, read_groups, taken_same same]
  refine ⟨rfl, ?_⟩
  cases taken hs stored with
  | none => exact Or.inr rfl
  | some final => exact Or.inl ⟨final, rfl⟩

end Rearranging

end Toolwrap.Parsing
