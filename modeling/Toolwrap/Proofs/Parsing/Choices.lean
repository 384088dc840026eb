import Mathlib.Data.List.Nodup
import Mathlib.Data.List.Pairwise
import Toolwrap.Proofs.Arguments.Ambiguity
import Toolwrap.Proofs.Parsing.Clauses

-- No two arguments that were checked together share a spelling, so that the branches of
-- a wrapper agree with what its spellings are for.

namespace Toolwrap.Parsing

open Shell Wrapper Running

section Apart

variable {A : List Argument} (ok : checkArguments A = .ok ())

include ok

-- No spelling stands twice in arguments that were checked together.
theorem checked_nodup : (A.flatMap Argument.spellings).Nodup := (Arguments.checked_iff.mp ok).1.1

theorem checked_free : ∀ spelling ∈ A.flatMap Argument.spellings, spelling ∉ reservedSpellings :=
  fun spelling member => ((Arguments.checked_iff.mp ok).1.2 spelling member).1

-- The argument that a spelling belongs to is the only one.
theorem checked_unique {a b : Argument} (first : a ∈ A)
    (second : b ∈ A) {spelling : String} (mine : spelling ∈ a.spellings)
    (theirs : spelling ∈ b.spellings) : a = b := by
  by_contra different
  have symmetric : Std.Symm (Function.onFun List.Disjoint Argument.spellings) :=
    ⟨fun _ _ apart spelling mine theirs => apart theirs mine⟩
  have apart := (List.nodup_flatMap.mp (checked_nodup ok)).2
  exact apart.forall first second different mine theirs

end Apart

-- What the branches of arguments do.
def flagBody (x text : String) : Script := [assign x (bare text), shift 1]

def valueBody (a : Argument) (spelling : String) : Script :=
  onceOnly a spelling ++ [needValue [.text spelling], storeValue a [ref "2"], shift 2]

def attachedBody (a : Argument) (spelling : String) : Script :=
  onceOnly a spelling ++ [storeValue a attachedValue, shift 1]

def optionBody (a : Argument) (spelling : String) : Script :=
  match a.body.stored? with
  | some stored => flagBody a.envName (truthText stored)
  | none => valueBody a spelling

section Spelled

variable {a : Argument} {spelling token front value : String}

theorem isOption_iff : isOption spelling a = true ↔
    spelling ∈ a.spellings.filter fun s => passing s != .positional := by
  rw [isOption, Bool.and_eq_true, List.mem_filter, List.contains_eq_mem, decide_eq_true_eq]
  exact And.comm

theorem spelling_missed (plain : IsPlain spelling) (other : token ≠ spelling)
    (apart : a.body.stored? = none → ∀ value, attached? token ≠ some (spelling, value)) :
    ∀ c ∈ spellingClauses a spelling, Misses token c := by
  unfold spellingClauses
  cases kind : a.body.stored? with
  | some stored =>
    intro c member
    obtain rfl := List.mem_singleton.mp member
    exact spelling_misses plain other _
  | none =>
    intro c member
    rcases List.mem_cons.mp member with rfl | second
    · exact spelling_misses plain other _
    · obtain rfl := List.mem_singleton.mp second
      exact attached_misses plain (apart kind) _

theorem option_chosen (plain : IsPlain spelling) (more : List Clause) :
    Chosen spelling (spellingClauses a spelling ++ more) (optionBody a spelling) := by
  unfold spellingClauses optionBody
  cases a.body.stored? <;> exact spelling_chosen plain _ _

theorem attachedOption_chosen (plain : IsPlain front) (attached : attached? token = some (front, value))
    (valued : a.body.stored? = none) (more : List Clause) :
    Chosen token (spellingClauses a front ++ more) (attachedBody a front) := by
  have other : token ≠ front := by
    rintro rfl
    rw [attached_none plain] at attached
    cases attached
  unfold spellingClauses
  rw [valued]
  refine @Chosen.past token _ _ [_] (attached_chosen plain attached _ _) fun c member => ?_
  obtain rfl := List.mem_singleton.mp member
  exact spelling_misses plain other _

end Spelled

section Arguments

variable {a : Argument} {A : List Argument} {token front value : String} {body : Script}

theorem argument_missed (wholes : ∀ spelling ∈ a.spellings, IsWhole spelling)
    (other : isOption token a = false)
    (apart : a.body.stored? = none → ∀ front value, attached? token = some (front, value) →
      isOption front a = false) : ∀ c ∈ argumentClauses a, Misses token c := by
  intro c member
  obtain ⟨spelling, option, within⟩ := List.mem_flatMap.mp member
  refine spelling_missed (whole_plain (wholes spelling (List.mem_filter.mp option).1)) ?_ ?_ c within
  · rintro rfl
    rw [isOption_iff.mpr option] at other
    cases other
  · intro valued value attached
    have unmeant := apart valued spelling value attached
    rw [isOption_iff.mpr option] at unmeant
    cases unmeant

-- The branches of the spelling that a token begins with come behind branches that it
-- does not lead to.
theorem argument_chosen (wholes : ∀ spelling ∈ a.spellings, IsWhole spelling)
    (option : isOption front a = true)
    (meant : ∀ more, Chosen token (spellingClauses a front ++ more) body)
    (others : ∀ spelling, IsPlain spelling → spelling ≠ front →
      token ≠ spelling ∧ ∀ value, attached? token ≠ some (spelling, value)) :
    Chosen token (argumentClauses a) body := by
  obtain ⟨before, after, split, fresh⟩ := List.eq_append_cons_of_mem (isOption_iff.mp option)
  unfold argumentClauses
  rw [split, List.flatMap_append, List.flatMap_cons]
  refine (meant _).past fun c member => ?_
  obtain ⟨spelling, earlier, within⟩ := List.mem_flatMap.mp member
  have listed : spelling ∈ a.spellings.filter fun s => passing s != .positional := by
    rw [split]
    exact List.mem_append_left _ earlier
  have plain := whole_plain (wholes spelling (List.mem_filter.mp listed).1)
  have different : spelling ≠ front := by
    rintro rfl
    exact fresh earlier
  obtain ⟨other, apart⟩ := others spelling plain different
  exact spelling_missed plain other (fun _ => apart) c within

variable (wholes : ∀ a ∈ A, ∀ spelling ∈ a.spellings, IsWhole spelling)

include wholes

theorem arguments_missed (other : ∀ a ∈ A, isOption token a = false)
    (apart : ∀ a ∈ A, a.body.stored? = none → ∀ front value, attached? token = some (front, value) →
      isOption front a = false) : ∀ c ∈ A.flatMap argumentClauses, Misses token c := by
  intro c member
  obtain ⟨a, listed, within⟩ := List.mem_flatMap.mp member
  exact argument_missed (wholes a listed) (other a listed) (apart a listed) c within

theorem option_plain (listed : a ∈ A) (option : isOption front a = true) : IsPlain front :=
  whole_plain (wholes a listed front (List.mem_filter.mp (isOption_iff.mp option)).1)

theorem arguments_chosen (found : A.find? (isOption token) = some a) :
    Chosen token (A.flatMap argumentClauses) (optionBody a token) := by
  obtain ⟨option, before, after, rfl, earlier⟩ := List.find?_eq_some_iff_append.mp found
  have plain := option_plain wholes (by simp) option
  have alone := attached_none plain
  rw [List.flatMap_append, List.flatMap_cons]
  refine (Chosen.append ?_ _).past ?_
  · refine argument_chosen (wholes a (by simp)) option (option_chosen plain) fun spelling _ other => ?_
    exact ⟨other.symm, fun value attached => by rw [alone] at attached; cases attached⟩
  · refine arguments_missed (fun b listed => wholes b (List.mem_append_left _ listed)) ?_ ?_
    · exact fun b listed => by simpa using earlier b listed
    · intro b _ _ front value attached
      rw [alone] at attached
      cases attached

theorem attachedArguments_chosen (found : A.find? (isOption front) = some a)
    (attached : attached? token = some (front, value)) (valued : a.body.stored? = none) :
    Chosen token (A.flatMap argumentClauses) (attachedBody a front) := by
  obtain ⟨option, before, after, rfl, earlier⟩ := List.find?_eq_some_iff_append.mp found
  have plain := option_plain wholes (by simp) option
  have unplain : ∀ spelling, IsPlain spelling → token ≠ spelling := by
    rintro spelling other rfl
    rw [attached_none other] at attached
    cases attached
  rw [List.flatMap_append, List.flatMap_cons]
  refine (Chosen.append ?_ _).past ?_
  · refine argument_chosen (wholes a (by simp)) option (attachedOption_chosen plain attached valued)
      fun spelling kept other => ⟨unplain spelling kept, fun value again => ?_⟩
    rw [attached] at again
    exact other (Prod.mk.inj (Option.some.inj again)).1.symm
  · refine arguments_missed (fun b listed => wholes b (List.mem_append_left _ listed)) ?_ ?_
    · intro b listed
      by_contra option
      rw [Bool.not_eq_false] at option
      exact unplain token (option_plain wholes (List.mem_append_left _ listed) option) rfl
    · intro b listed _ other value again
      rw [attached] at again
      obtain ⟨rfl, _⟩ := Prod.mk.inj (Option.some.inj again)
      simpa using earlier b listed

end Arguments

def metaBody (x spelling : String) : Script :=
  [needValue [.text spelling], assignQuoted x [ref "2"], shift 2]

def attachedMetaBody (x : String) : Script := [assignQuoted x attachedValue, shift 1]

section Metas

variable {token front value x : String}

theorem processes_plain : IsPlain "---n_proc" := by decide

theorem memory_plain : IsPlain "---memory" := by decide

theorem meta_plain : ∀ f ∈ metaFlags, IsPlain f.1 := by
  intro f listed
  rcases List.mem_cons.mp listed with rfl | later
  · exact processes_plain
  · obtain rfl := List.mem_singleton.mp later
    exact memory_plain

theorem meta_missed (other : metaFlags.lookup token = none)
    (apart : ∀ front value, attached? token = some (front, value) → metaFlags.lookup front = none) :
    ∀ c ∈ metaClauses, Misses token c := by
  intro c member
  obtain ⟨f, listed, within⟩ := List.mem_flatMap.mp member
  have plain := meta_plain f listed
  have known : metaFlags.lookup f.1 ≠ none := by
    intro absent
    exact absurd (List.lookup_eq_none_iff.mp absent f listed) (by simp)
  rcases List.mem_cons.mp within with rfl | second
  · refine spelling_misses plain ?_ _
    rintro rfl
    exact known other
  · obtain rfl := List.mem_singleton.mp second
    exact attached_misses plain (fun value attached => known (apart _ _ attached)) _

-- Each of the two flags has branches of its own.
theorem meta_cases (found : metaFlags.lookup front = some x) :
    front = "---n_proc" ∧ x = "BW_META_N_PROC" ∨ front = "---memory" ∧ x = "BW_META_MEMORY" := by
  unfold metaFlags at found
  rw [lookup_first, lookup_first] at found
  split at found
  · rename_i same
    exact Or.inl ⟨same, (Option.some.inj found).symm⟩
  · split at found
    · rename_i same
      exact Or.inr ⟨same, (Option.some.inj found).symm⟩
    · cases found

theorem meta_chosen (found : metaFlags.lookup token = some x) :
    Chosen token metaClauses (metaBody x token) := by
  rcases meta_cases found with ⟨rfl, rfl⟩ | ⟨rfl, rfl⟩
  · exact spelling_chosen processes_plain _ _
  · refine @Chosen.past _ _ _ [_, _] (spelling_chosen memory_plain _ _) fun c member => ?_
    rcases List.mem_cons.mp member with rfl | second
    · exact spelling_misses processes_plain (by decide) _
    · obtain rfl := List.mem_singleton.mp second
      refine attached_misses processes_plain (fun value => ?_) _
      rw [attached_none memory_plain]
      exact nofun

theorem attachedMeta_chosen (found : metaFlags.lookup front = some x)
    (attached : attached? token = some (front, value)) :
    Chosen token metaClauses (attachedMetaBody x) := by
  have unplain : ∀ spelling, IsPlain spelling → token ≠ spelling := by
    rintro spelling other rfl
    rw [attached_none other] at attached
    cases attached
  rcases meta_cases found with ⟨rfl, rfl⟩ | ⟨rfl, rfl⟩
  · refine @Chosen.past _ _ _ [_] (attached_chosen processes_plain attached _ _) fun c member => ?_
    obtain rfl := List.mem_singleton.mp member
    exact spelling_misses processes_plain (unplain _ processes_plain) _
  · refine @Chosen.past _ _ _ [_, _, _] (attached_chosen memory_plain attached _ _) fun c member => ?_
    rcases List.mem_cons.mp member with rfl | later
    · exact spelling_misses processes_plain (unplain _ processes_plain) _
    · rcases List.mem_cons.mp later with rfl | last
      · refine attached_misses processes_plain (fun value again => ?_) _
        rw [attached] at again
        exact absurd (Prod.mk.inj (Option.some.inj again)).1 (by decide)
      · obtain rfl := List.mem_singleton.mp last
        exact spelling_misses memory_plain (unplain _ memory_plain) _

end Metas

end Toolwrap.Parsing
