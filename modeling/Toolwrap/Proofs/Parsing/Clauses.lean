import Mathlib.Data.List.TakeWhile
import Toolwrap.Proofs.Parsing.Spellings
import Toolwrap.Proofs.Running.Control
import Toolwrap.Proofs.Running.Patterns

-- Which branch of the case a token leads to, and that the branches of the arguments are
-- told apart by their spellings.

namespace Toolwrap.Parsing

open Shell Wrapper Running

section Choosing

variable {token : String} {patterns : List String} {body : Script} {clauses before : List Clause}

-- A branch that a token does not lead to.
def Misses (token : String) (c : Clause) : Prop :=
  ∃ patterns body, c = branch patterns body ∧
    ∀ p ∈ patterns, '~' ∉ p.toList ∧ bareFits p token = false

-- The first branch that a token leads to has a body.
def Chosen (token : String) (clauses : List Clause) (body : Script) : Prop :=
  ∃ before patterns after, clauses = before ++ branch patterns body :: after ∧
    (∀ c ∈ before, Misses token c) ∧ (∀ p ∈ patterns, '~' ∉ p.toList) ∧
      ∃ p ∈ patterns, bareFits p token = true

theorem chosen_here (free : ∀ p ∈ patterns, '~' ∉ p.toList)
    (fits : ∃ p ∈ patterns, bareFits p token = true) (more : List Clause) :
    Chosen token (branch patterns body :: more) body :=
  ⟨[], patterns, more, rfl, by simp, free, fits⟩

theorem Chosen.past (chosen : Chosen token clauses body) (missed : ∀ c ∈ before, Misses token c) :
    Chosen token (before ++ clauses) body := by
  obtain ⟨first, patterns, after, rfl, passed, free, fits⟩ := chosen
  refine ⟨before ++ first, patterns, after, by simp, fun c member => ?_, free, fits⟩
  rcases List.mem_append.mp member with earlier | later
  · exact missed c earlier
  · exact passed c later

theorem Chosen.append (chosen : Chosen token clauses body) (more : List Clause) :
    Chosen token (clauses ++ more) body := by
  obtain ⟨first, patterns, after, rfl, passed, free, fits⟩ := chosen
  exact ⟨first, patterns, after ++ more, by simp, passed, free, fits⟩

variable {E : Engine} {s : Session} {r : Ending Unit}

theorem missed_comesTo (quiet : Quiet s) (missed : ∀ c ∈ before, Misses token c)
    (ran : ComesTo (runClauses E token false clauses) s r) :
    ComesTo (runClauses E token false (before ++ clauses)) s r := by
  induction before with
  | nil => exact ran
  | cons c before past =>
    obtain ⟨patterns, body, rfl, other⟩ := missed c (List.mem_cons_self ..)
    refine branch_skipped ?_ (past fun d member => missed d (List.mem_cons_of_mem _ member))
    have none_ : (patterns.any fun p => bareFits p token) = false := by
      rw [List.any_eq_false]
      exact fun p member => Bool.not_eq_true _ ▸ (other p member).2
    rw [← none_]
    exact fitsAny_bare quiet fun p member => (other p member).1

-- A case comes to what the body of the chosen branch comes to.
theorem chosen_comesTo (quiet : Quiet s) (chosen : Chosen token clauses body) (filled : body ≠ [])
    (ran : ComesTo (runScript E body) s r) :
    ComesTo (runClauses E token false clauses) s r := by
  obtain ⟨before, patterns, after, rfl, missed, free, fits⟩ := chosen
  refine missed_comesTo quiet missed (branch_taken ?_ filled ran)
  have some_ : (patterns.any fun p => bareFits p token) = true := List.any_eq_true.mpr fits
  rw [← some_]
  exact fitsAny_bare quiet free

end Choosing

-- Texts that are nothing but themselves in a pattern and hold no equals sign.
def IsPlain (spelling : String) : Prop :=
  ∀ c ∈ spelling.toList, isTame c = true ∧ c ≠ '\\' ∧ c ≠ '='

instance (spelling : String) : Decidable (IsPlain spelling) :=
  decidable_of_iff _ List.all_iff_forall_prop

theorem whole_plain {spelling : String} (whole : IsWhole spelling) : IsPlain spelling :=
  fun _ member => nameChar_tame ((spelling_chars whole).2 _ member)

section Fitting

variable {spelling token front value : String} (plain : IsPlain spelling)

theorem attached_shape (attached : attached? token = some (front, value)) :
    token.toList = front.toList ++ '=' :: value.toList ∧ '=' ∉ front.toList := by
  unfold attached? at attached
  split at attached
  · cases attached
  · rename_i c behind shape
    obtain ⟨rfl, rfl⟩ := Prod.mk.inj (Option.some.inj attached)
    have mark : '=' = c := by
      have first := List.head?_dropWhile_not (· != '=') token.toList
      rw [shape] at first
      exact (by simpa using first : c = '=').symm
    subst mark
    refine ⟨?_, ?_⟩
    · rw [String.toList_ofList, String.toList_ofList, ← shape, List.takeWhile_append_dropWhile]
    · rw [String.toList_ofList]
      intro member
      have other := List.mem_takeWhile_imp member
      simp at other

theorem attached_some {text : List Char} (shape : token.toList = front.toList ++ '=' :: text)
    (unequal : '=' ∉ front.toList) : attached? token = some (front, String.ofList text) := by
  have kept : ∀ c ∈ front.toList, (c != '=') = true := by
    intro c member
    rw [bne_iff_ne]
    rintro rfl
    exact unequal member
  unfold attached?
  rw [shape, List.dropWhile_append_of_pos kept, List.takeWhile_append_of_pos kept]
  simp

theorem attached_none : IsPlain token → attached? token = none := by
  intro plain
  cases found : attached? token with
  | none => rfl
  | some parts =>
    obtain ⟨front, value⟩ := parts
    obtain ⟨shape, _⟩ := attached_shape found
    exact absurd rfl (plain '=' (by rw [shape]; simp)).2.2

include plain

theorem plain_free : '~' ∉ spelling.toList := fun member =>
  tame_ne (plain _ member).1 rfl rfl

theorem spelling_fits : bareFits spelling token = true ↔ token = spelling :=
  word_fits fun c member => ⟨(plain c member).1, (plain c member).2.1⟩

theorem attached_fits : bareFits (spelling ++ "=*") token = true ↔
    ∃ value, attached? token = some (spelling, value) := by
  have parts : spelling ++ "=*" = (spelling ++ "=") ++ "*" := by
    rw [String.append_assoc]
    rfl
  have tame : ∀ c ∈ (spelling ++ "=").toList, isTame c = true ∧ c ≠ '\\' := by
    intro c member
    rw [String.toList_append] at member
    rcases List.mem_append.mp member with inside | behind
    · exact ⟨(plain c inside).1, (plain c inside).2.1⟩
    · obtain rfl := List.mem_singleton.mp behind
      decide
  have unequal : '=' ∉ spelling.toList := fun member => (plain _ member).2.2 rfl
  rw [parts, front_fits tame, String.toList_append]
  constructor
  · rintro ⟨text, shape⟩
    have parted : token.toList = spelling.toList ++ '=' :: text := by
      rw [← shape]
      simp
    exact ⟨_, attached_some parted unequal⟩
  · rintro ⟨value, attached⟩
    obtain ⟨shape, _⟩ := attached_shape attached
    exact ⟨value.toList, by rw [shape]; simp⟩

theorem attached_free : '~' ∉ (spelling ++ "=*").toList := by
  rw [String.toList_append]
  intro member
  rcases List.mem_append.mp member with inside | behind
  · exact plain_free plain inside
  · exact absurd behind (by decide)

-- The two branches of a spelling, where a token has nothing to do with them.
theorem spelling_misses (other : token ≠ spelling) (body : Script) :
    Misses token (branch [spelling] body) := by
  refine ⟨_, _, rfl, fun p member => ?_⟩
  obtain rfl := List.mem_singleton.mp member
  refine ⟨plain_free plain, ?_⟩
  rw [← Bool.not_eq_true, spelling_fits plain]
  exact other

theorem attached_misses (other : ∀ value, attached? token ≠ some (spelling, value)) (body : Script) :
    Misses token (branch [spelling ++ "=*"] body) := by
  refine ⟨_, _, rfl, fun p member => ?_⟩
  obtain rfl := List.mem_singleton.mp member
  refine ⟨attached_free plain, ?_⟩
  rw [← Bool.not_eq_true, attached_fits plain]
  rintro ⟨value, attached⟩
  exact other value attached

theorem spelling_chosen (body : Script) (more : List Clause) :
    Chosen spelling (branch [spelling] body :: more) body := by
  refine chosen_here ?_ ⟨spelling, List.mem_singleton_self _, (spelling_fits plain).mpr rfl⟩ more
  intro p member
  obtain rfl := List.mem_singleton.mp member
  exact plain_free plain

theorem attached_chosen (attached : attached? token = some (spelling, value)) (body : Script)
    (more : List Clause) : Chosen token (branch [spelling ++ "=*"] body :: more) body := by
  refine chosen_here ?_ ⟨_, List.mem_singleton_self _, (attached_fits plain).mpr ⟨value, attached⟩⟩ more
  intro p member
  obtain rfl := List.mem_singleton.mp member
  exact attached_free plain

end Fitting

end Toolwrap.Parsing
