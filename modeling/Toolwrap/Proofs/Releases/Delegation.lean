import Toolwrap.Proofs.Mounting.Paths
import Toolwrap.Release

-- The program that a call is handed to. Nothing checks the name of a release, so that a name
-- which is no single part of a path leads elsewhere; any other name stays below the releases.

namespace Toolwrap.Release

open Mounting Running

section Parts

variable {home : Path} {name : String}

theorem parse_whole (whole : '/' ∉ name.toList) :
    Path.parse name = ⟨.here, [name].filter fun p => p != "" && p != "."⟩ := by
  have anchor : Path.anchorOf name.toList = .here := by
    cases shape : name.toList with
    | nil => rfl
    | cons c rest =>
      have other : c ≠ '/' := by
        rintro rfl
        exact whole (shape ▸ List.mem_cons_self ..)
      unfold Path.anchorOf
      split <;> simp_all
  unfold Path.parse Text.splitAt
  rw [anchor, splitAt_absent whole, List.map_singleton, String.ofList_toList]

theorem parse_step (whole : '/' ∉ name.toList) (filled : name ≠ "") (dot : name ≠ ".") :
    Path.parse name = ⟨.here, [name]⟩ := by
  rw [parse_whole whole]
  simp [filled, dot]

-- A part of a path is a name without slashes that is no single dot.
theorem part_whole {text : String} (member : name ∈ (Path.parse text).parts) : '/' ∉ name.toList ∧ name ≠ "." := by
  obtain ⟨piece, kept⟩ := List.mem_filter.mp member
  refine ⟨splitAt_whole name piece, ?_⟩
  rintro rfl
  cases kept

theorem child_step (whole : '/' ∉ name.toList) (filled : name ≠ "") (dot : name ≠ ".") :
    home.child name = ⟨home.anchor, home.parts ++ [name]⟩ := by
  rw [Path.child, parse_step whole filled dot]
  rfl

-- The parts of a name are behind those of the directory, or they are all there is.
theorem child_cases (home : Path) (name : String) :
    (home.child name).parts = home.parts ++ (Path.parse name).parts ∨
      (home.child name).parts = (Path.parse name).parts := by
  unfold Path.child Path.join
  split
  · exact Or.inr rfl
  · exact Or.inl rfl

end Parts

-- The program of a release in the home directory.
def program (home : Path) (name : String) : Path := ⟨home.anchor, home.parts ++ ["releases", name, "bashwrap"]⟩

section Programs

variable {home p : Path} {name current : String} {requested : Option String}

theorem stays_iff : delegatePath (some name) current home = none ↔
    name = "" ∨ name = noDelegation ∨ name = current := by
  have answers : delegatePath (some name) current home = none ↔
      (name.isEmpty || name == noDelegation || name == current) = true := by
    unfold delegatePath
    dsimp only
    split
    · rename_i stays
      exact iff_of_true rfl stays
    · rename_i goes
      exact iff_of_false nofun goes
  rw [answers]
  simp [or_assoc]

theorem delegated (asked : delegatePath (some name) current home = some p) :
    name ≠ "" ∧ p = ((home.child "releases").child name).child "bashwrap" := by
  unfold delegatePath at asked
  dsimp only at asked
  split at asked
  · cases asked
  · rename_i goes
    refine ⟨?_, (Option.some.inj asked).symm⟩
    rintro rfl
    exact goes rfl

theorem delegated_parts (asked : delegatePath (some name) current home = some p) :
    p.parts = home.parts ++ "releases" :: (Path.parse name).parts ++ ["bashwrap"] ∨
      p.parts = (Path.parse name).parts ++ ["bashwrap"] := by
  obtain ⟨-, rfl⟩ := delegated asked
  have releases : home.child "releases" = ⟨home.anchor, home.parts ++ ["releases"]⟩ :=
    child_step (by decide) (by decide) (by decide)
  have behind : ∀ q : Path, (q.child "bashwrap").parts = q.parts ++ ["bashwrap"] := fun q =>
    congrArg Path.parts (@child_step q "bashwrap" (by decide) (by decide) (by decide))
  rw [behind]
  rcases child_cases (home.child "releases") name with below | alone
  · rw [below, releases]
    left
    simp
  · rw [alone]
    exact Or.inr rfl

theorem delegated_step (asked : delegatePath (some name) current home = some p) (whole : '/' ∉ name.toList)
    (dot : name ≠ ".") : p = program home name := by
  obtain ⟨filled, rfl⟩ := delegated asked
  rw [child_step (by decide) (by decide) (by decide), child_step whole filled dot,
    child_step (by decide) (by decide) (by decide), program]
  simp

-- Only a name that is one part of a path is one of the program.
theorem delegated_whole (asked : delegatePath (some name) current home = some p) (inside : p = program home name) :
    '/' ∉ name.toList ∧ name ≠ "." := by
  have member : name ∈ (Path.parse name).parts := by
    have shape : p.parts = home.parts ++ ["releases", name] ++ ["bashwrap"] := by
      rw [inside, program]
      simp
    rcases delegated_parts asked with below | alone
    · rw [shape] at below
      have same := List.append_cancel_right below
      have rest := List.append_cancel_left same
      rw [← List.tail_eq_of_cons_eq rest]
      exact List.mem_singleton_self name
    · rw [shape] at alone
      have same := List.append_cancel_right alone
      rw [← same]
      exact List.mem_append_right _ (by simp)
  exact part_whole member

theorem program_settles (step : IsStep name) (start : Place) :
    (program home name).settle start = home.settle start ++ ["releases", name, "bashwrap"] := by
  have same : (program home name).isAbsolute = home.isAbsolute := rfl
  unfold Path.settle
  rw [same, program, List.foldl_append]
  simp [step.dots]

-- A call stays here exactly if no release is asked for, or none by an empty name, by the dash or
-- by the name of this one. Otherwise it is handed to the program of the release exactly if the name
-- is one part of a path, and that program lies below the releases of the home directory unless the
-- name is the way up.
theorem delegation_contained (requested : Option String) (current : String) (home : Path) :
    (delegatePath requested current home = none ↔
      requested = none ∨ requested = some "" ∨ requested = some noDelegation ∨ requested = some current) ∧
    ∀ name p, requested = some name → delegatePath requested current home = some p →
      (p = program home name ↔ '/' ∉ name.toList ∧ name ≠ ".") ∧
        (IsStep name → ∀ start, p.settle start = home.settle start ++ ["releases", name, "bashwrap"]) := by
  refine ⟨?_, ?_⟩
  · cases requested with
    | none => exact iff_of_true rfl (Or.inl rfl)
    | some name =>
      rw [stays_iff]
      simp
  · rintro name p rfl asked
    refine ⟨⟨delegated_whole asked, fun single => delegated_step asked single.1 single.2⟩, fun step start => ?_⟩
    rw [delegated_step asked step.whole step.dot]
    exact program_settles step start

-- A name with the way up in it, and one from the root, lead out of the home directory.
theorem delegation_leaves_home :
    (delegatePath (some "../../evil") release ⟨.root, ["home", ".bashwrap"]⟩).map (·.settle []) =
        some ["home", "evil", "bashwrap"] ∧
      delegatePath (some "/evil") release ⟨.root, ["home", ".bashwrap"]⟩ = some ⟨.root, ["evil", "bashwrap"]⟩ := by
  decide

end Programs

end Toolwrap.Release
