import Toolwrap.Proofs.Mounting.Functions
import Toolwrap.Proofs.Running.Elements

-- The function that adds a volume to those that are collected: one that is among them is not added again.

namespace Toolwrap.Mounting

open Shell Running

-- The collected volumes, each behind a flag, with one more.
def extended (mounts : List String) (spec : String) : List String :=
  if spec ∈ mounts then mounts else mounts ++ ["-v", spec]

section Collected

variable {mounts specs : List String} {spec : String}

def flagged (specs : List String) : List String := specs.flatMap fun spec => ["-v", spec]

-- Every volume is behind a flag of its own, and none is there twice. A flag may have been given as a volume.
structure Orderly (mounts : List String) : Prop where
  led : ∃ specs, mounts = flagged specs
  once : ∀ spec, spec ≠ "-v" → mounts.count spec ≤ 1

theorem empty_orderly : Orderly [] := ⟨⟨[], rfl⟩, fun _ _ => Nat.zero_le _⟩

theorem extended_front : mounts <+: extended mounts spec := by
  unfold extended
  split
  · exact List.prefix_refl _
  · exact List.prefix_append _ _

theorem extended_listed : spec ∈ extended mounts spec := by
  unfold extended
  split
  · assumption
  · exact List.mem_append_right _ (by simp)

theorem extended_orderly (orderly : Orderly mounts) : Orderly (extended mounts spec) := by
  obtain ⟨⟨specs, led⟩, once⟩ := orderly
  unfold extended
  split
  · exact ⟨⟨specs, led⟩, once⟩
  · rename_i absent
    refine ⟨⟨specs ++ [spec], by rw [led, flagged, flagged, List.flatMap_append]; rfl⟩, fun other apart => ?_⟩
    rw [List.count_append, List.count_cons_of_ne (Ne.symm apart)]
    by_cases same : other = spec
    · subst same
      rw [List.count_eq_zero_of_not_mem absent, Nat.zero_add]
      exact List.count_le_length
    · rw [List.count_cons_of_ne (Ne.symm same), List.count_nil]
      exact once other apart

-- What has been collected stays in its place.
theorem collected_front : mounts <+: specs.foldl extended mounts := by
  induction specs generalizing mounts with
  | nil => exact List.prefix_refl _
  | cons spec specs more => exact extended_front.trans more

theorem collected_listed (member : spec ∈ specs) : spec ∈ specs.foldl extended mounts := by
  induction specs generalizing mounts with
  | nil => cases member
  | cons first specs more =>
    rcases List.mem_cons.mp member with rfl | later
    · exact (@collected_front (extended mounts spec) specs).subset extended_listed
    · exact more later

theorem collected_orderly (orderly : Orderly mounts) : Orderly (specs.foldl extended mounts) := by
  induction specs generalizing mounts with
  | nil => exact orderly
  | cons spec specs more => exact more (extended_orderly orderly)

theorem Orderly.flagged (orderly : Orderly mounts) (member : spec ∈ mounts) (other : spec ≠ "-v") : ["-v", spec] <:+: mounts := by
  obtain ⟨⟨specs, rfl⟩, -⟩ := orderly
  unfold flagged at member ⊢
  obtain ⟨one, listed, inside⟩ := List.mem_flatMap.mp member
  obtain rfl : spec = one := by simpa [other] using inside
  obtain ⟨front, behind, rfl⟩ := List.append_of_mem listed
  refine ⟨flagged front, flagged behind, ?_⟩
  rw [List.flatMap_append, List.flatMap_cons, List.append_assoc]
  rfl

theorem Orderly.single (orderly : Orderly mounts) (member : spec ∈ mounts) (other : spec ≠ "-v") : mounts.count spec = 1 :=
  Nat.le_antisymm (orderly.once spec other) (List.count_pos_iff.mpr member)

end Collected

-- What the function holds: the volume, and the one that is looked at.
def specHeld (spec : String) (existing : Content) : Held := [("spec", .text spec), ("existing", existing)]

section Adding

variable {E deeper : Engine} {s c : Session} {marks : String → Bool} {spec : String} {mounts : List String} {status n : Nat}

-- The body of the function: it is called with a volume, and the collected ones are at hand.
structure Adds (c : Session) (marks : String → Bool) (spec : String) (mounts : List String) : Prop where
  quiet : Quiet c
  running : c.isInFunction = true
  args : c.args = [spec]
  filled : c.scopes ≠ []
  inherits : ∀ x, marks x = ((c.find? x).map (·.exported)).getD false
  plain : ∀ x ∈ ["BW_EXTRA_MOUNTS", "spec", "existing"], Ordinarily c x
  lists : Lists c "BW_EXTRA_MOUNTS" mounts

theorem spec_declared (adds : Adds c marks spec mounts) :
    ComesTo (runScript E ((addLines n).take 2)) (within c marks [] status) (.ok () (within c marks (specHeld spec .declared) 0)) := by
  obtain ⟨quiet, running, args, filled, inherits, plain, lists⟩ := adds
  refine seeking_declared quiet (by decide) (by decide) (by decide) running args ?_ inherits rfl (by decide) (by decide)
  exact fun z listed => plain z (List.mem_cons_of_mem _ listed)

-- The volumes are looked through.
theorem known_sought (adds : Adds c marks spec mounts) : ∃ j code,
    ComesTo ((Command.forIn "existing" (some [Docker.mounts]) [.located (n + 4) (knownReturn (n + 4))]).run E)
      (within c marks (specHeld spec .declared) 0)
      (if spec ∈ mounts then .error (.returned 0) (within c marks (specHeld spec j) code)
        else .ok () (within c marks (specHeld spec j) code)) := by
  obtain ⟨quiet, running, args, filled, inherits, plain, lists⟩ := adds
  have calm : Quiet (within c marks (specHeld spec .declared) 0) := quiet
  refine sought_comesTo quiet (by decide) (by decide) (by decide) running ?_
  refine items_fields calm (by decide) (within_outside rfl (plain _ (by decide))) ?_
  obtain ⟨v, found, content⟩ := lists
  exact ⟨v, (within_absent rfl).trans found, content⟩

theorem body_adds (adds : Adds c marks spec mounts) : ∃ j code,
    ComesTo (runScript E (addLines n)) (within c marks [] status)
      (if spec ∈ mounts then .error (.returned 0) (within c marks (specHeld spec j) code)
        else .ok () (within (listing c "BW_EXTRA_MOUNTS" (mounts ++ ["-v", spec])) marks (specHeld spec j) 0)) := by
  obtain ⟨j, code, sought⟩ := @known_sought E c marks spec mounts n adds
  have declared := @spec_declared E c marks spec mounts status n adds
  obtain ⟨quiet, running, args, filled, inherits, plain, lists⟩ := adds
  have calm : ∀ held status, Quiet (within c marks held status) := fun _ _ => quiet
  refine ⟨j, code, script_append declared ?_⟩
  by_cases known : spec ∈ mounts
  · rw [if_pos known] at sought ⊢
    exact script_stops (calm _ _) (located_comesTo _ sought)
  · rw [if_neg known] at sought ⊢
    have there : Lists (within c marks (specHeld spec j) code) "BW_EXTRA_MOUNTS" mounts := by
      obtain ⟨v, found, content⟩ := lists
      exact ⟨v, (within_absent rfl).trans found, content⟩
    have word : Spells E (within c marks (specHeld spec j) code) [ref "spec"] spec :=
      value_spells (calm _ _) (within_stands (by decide) rfl)
    have added := extended_comesTo (calm (specHeld spec j) code) (by decide) (within_outside rfl (plain _ (by decide))) there
      (.cons (tame_word (E := E) "-v" (by decide) (by decide)) (.cons (double_fields word) .nil))
    have left : listing (within c marks (specHeld spec j) code) "BW_EXTRA_MOUNTS" (mounts ++ ["-v", spec]) =
        within (listing c "BW_EXTRA_MOUNTS" (mounts ++ ["-v", spec])) marks (specHeld spec j) code := by
      unfold listing Session.setContent Session.variableD
      rw [within_absent rfl]
      exact within_put_outside rfl filled
    rw [show [["-v"], [spec]].flatten = ["-v", spec] from rfl, left] at added
    exact script_cons (calm _ _) (located_comesTo _ sought) (script_one (calm _ _) (located_comesTo _ added))

-- The session once the volume has been added.
def collecting (s : Session) (mounts : List String) (spec : String) : Session :=
  if spec ∈ mounts then s else listing s "BW_EXTRA_MOUNTS" (mounts ++ ["-v", spec])

theorem add_comesTo (runs : E.script = runScript deeper) (quiet : Quiet s) (filled : s.scopes ≠ [])
    (plain : ∀ x ∈ ["BW_EXTRA_MOUNTS", "spec", "existing"], Ordinarily s x) (lists : Lists s "BW_EXTRA_MOUNTS" mounts)
    (defined : ∃ f n, s.functions.lookup "bw_add_mount" = some f ∧ f.body = addBody n) :
    ComesTo (invoke E { fields := ["bw_add_mount", spec] }) s
      (.ok () { collecting s mounts spec with status := 0, givesWay := false }) := by
  obtain ⟨f, n, found, body⟩ := defined
  have adds : ∀ line, Adds (opened s "bw_add_mount" f [spec] line) (marksOf s) spec mounts := fun line =>
    ⟨quiet, rfl, rfl, filled, fun _ => rfl, plain, lists⟩
  have calm : ∀ line, Quiet (calling s "bw_add_mount" f [spec] line) := fun _ => quiet
  choose j code ran using fun line => @body_adds deeper _ _ spec mounts s.status n (adds line)
  refine invoke_function quiet found ?_
  unfold collecting
  by_cases known : spec ∈ mounts
  · rw [if_pos known]
    have gone : ∀ line, ComesTo (E.script [f.body]) (calling s "bw_add_mount" f [spec] line) (.error (.returned 0)
        (within (opened s "bw_add_mount" f [spec] line) (marksOf s) (specHeld spec (j line)) (code line))) := by
      intro line
      have done := ran line
      rw [if_pos known] at done
      rw [runs, body]
      exact script_stops (calm line) (located_comesTo n (group_comesTo done))
    refine call_returned quiet ?calm ?same gone
    case calm => exact fun _ => quiet
    case same => exact fun _ => rfl
  · rw [if_neg known]
    refine call_ok (t := fun line => within (listing (opened s "bw_add_mount" f [spec] line) "BW_EXTRA_MOUNTS" (mounts ++ ["-v", spec]))
      (marksOf s) (specHeld spec (j line)) 0) quiet (fun _ => quiet) (fun _ => rfl) fun line => ?_
    have done := ran line
    rw [if_neg known] at done
    rw [runs, body]
    exact script_one (calm line) (located_comesTo n (group_comesTo done))

end Adding

end Toolwrap.Mounting
