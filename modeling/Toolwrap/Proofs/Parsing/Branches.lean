import Mathlib.Data.List.Forall2
import Toolwrap.Docker.Layers
import Toolwrap.Proofs.Parsing.CommandLine

-- No branch of the case over the command line shadows another one, with the branches of a
-- container or without them: what heads a branch are spellings, as they are or with a value
-- attached, and no spelling heads two branches in the same way. So it does not matter in
-- which order arguments and layers put their branches there.

namespace Toolwrap.Parsing

open Shell Wrapper Running Docker

-- What a pattern stands for: a spelling as it is, or one with a value attached to it.
inductive Key where
  | word (spelling : String)
  | attached (spelling : String)
deriving DecidableEq

namespace Key

def spelling : Key → String
  | word spelling => spelling
  | attached spelling => spelling

def pattern : Key → String
  | word spelling => spelling
  | attached spelling => spelling ++ "=*"

-- A token that the pattern is meant for.
def Opens (token : String) : Key → Prop
  | word spelling => token = spelling
  | attached spelling => ∃ value, attached? token = some (spelling, value)

variable {k l : Key} {token : String}

theorem pattern_fits (plain : IsPlain k.spelling) : bareFits k.pattern token = true ↔ k.Opens token := by
  cases k with
  | word spelling => exact spelling_fits plain
  | attached spelling => exact attached_fits plain

theorem pattern_free (plain : IsPlain k.spelling) : '~' ∉ k.pattern.toList := by
  cases k with
  | word spelling => exact plain_free plain
  | attached spelling => exact attached_free plain

-- A token with an equals sign is no spelling, and there is but one text in front of it.
theorem opens_unique (first : IsPlain k.spelling) (second : IsPlain l.spelling)
    (mine : k.Opens token) (theirs : l.Opens token) : k = l := by
  have alone : ∀ {front value}, IsPlain token → attached? token ≠ some (front, value) := by
    intro front value plain found
    rw [attached_none plain] at found
    cases found
  cases k with
  | word spelling =>
    obtain rfl : token = spelling := mine
    cases l with
    | word other => exact congrArg word theirs
    | attached other =>
      obtain ⟨value, found⟩ := theirs
      exact absurd found (alone first)
  | attached spelling =>
    obtain ⟨value, found⟩ := mine
    cases l with
    | word other =>
      obtain rfl : token = other := theirs
      exact absurd found (alone second)
    | attached other =>
      obtain ⟨text, again⟩ := theirs
      rw [found] at again
      exact congrArg attached (Prod.mk.inj (Option.some.inj again)).1

end Key

section Heads

variable {token : String} {keys others : List Key} {keyss : List (List Key)} {c d : Clause}
  {clauses : List Clause}

-- A branch that has a token among its patterns.
def Fits (token : String) (c : Clause) : Prop :=
  ∃ patterns body, c = branch patterns body ∧ ∃ p ∈ patterns, bareFits p token = true

-- Two branches with no token in common.
def Separate (c d : Clause) : Prop := ∀ token, Fits token c → ¬Fits token d

-- A branch whose patterns are those of the keys.
structure Heads (keys : List Key) (c : Clause) : Prop where
  plain : ∀ k ∈ keys, IsPlain k.spelling
  shape : ∃ body, c = branch (keys.map Key.pattern) body

theorem branch_patterns {patterns more : List String} {body also : Script}
    (same : branch patterns body = branch more also) : patterns = more := by
  refine List.map_injective_iff.mpr (fun p q equal => ?_) (Clause.branch.inj same).1
  exact Part.text.inj (List.cons.inj equal).1

theorem Heads.fits_iff (heads : Heads keys c) : Fits token c ↔ ∃ k ∈ keys, k.Opens token := by
  obtain ⟨plain, body, rfl⟩ := heads
  constructor
  · rintro ⟨patterns, also, same, p, member, fits⟩
    rw [← branch_patterns same] at member
    obtain ⟨k, listed, rfl⟩ := List.mem_map.mp member
    exact ⟨k, listed, (Key.pattern_fits (plain k listed)).mp fits⟩
  · rintro ⟨k, listed, opens⟩
    exact ⟨_, _, rfl, _, List.mem_map_of_mem listed, (Key.pattern_fits (plain k listed)).mpr opens⟩

theorem Heads.free {patterns : List String} {body : Script} (heads : Heads keys (branch patterns body)) :
    ∀ p ∈ patterns, '~' ∉ p.toList := by
  obtain ⟨plain, also, same⟩ := heads
  rw [branch_patterns same]
  intro p member
  obtain ⟨k, listed, rfl⟩ := List.mem_map.mp member
  exact Key.pattern_free (plain k listed)

theorem single_heads {k : Key} (plain : IsPlain k.spelling) (body : Script) :
    Heads [k] (branch [k.pattern] body) where
  plain l member := by
    obtain rfl := List.mem_singleton.mp member
    exact plain
  shape := ⟨body, rfl⟩

theorem Heads.misses (heads : Heads keys c) (unfit : ¬Fits token c) : Misses token c := by
  have closed : ∀ k ∈ keys, ¬k.Opens token :=
    fun k listed opens => unfit (heads.fits_iff.mpr ⟨k, listed, opens⟩)
  obtain ⟨plain, body, rfl⟩ := heads
  refine ⟨_, _, rfl, fun p member => ?_⟩
  obtain ⟨k, listed, rfl⟩ := List.mem_map.mp member
  refine ⟨Key.pattern_free (plain k listed), ?_⟩
  rw [← Bool.not_eq_true, Key.pattern_fits (plain k listed)]
  exact closed k listed

theorem Heads.separate (heads : Heads keys c) (behind : Heads others d)
    (apart : keys.Disjoint others) : Separate c d := by
  intro token first second
  obtain ⟨k, mine, opens⟩ := heads.fits_iff.mp first
  obtain ⟨l, theirs, also⟩ := behind.fits_iff.mp second
  obtain rfl := Key.opens_unique (heads.plain k mine) (behind.plain l theirs) opens also
  exact apart mine theirs

theorem headed (heads : List.Forall₂ Heads keyss clauses) (member : c ∈ clauses) :
    ∃ keys ∈ keyss, Heads keys c := by
  induction heads with
  | nil => cases member
  | cons first rest found =>
    rcases List.mem_cons.mp member with rfl | later
    · exact ⟨_, List.mem_cons_self .., first⟩
    · obtain ⟨keys, listed, heads⟩ := found later
      exact ⟨keys, List.mem_cons_of_mem _ listed, heads⟩

theorem heads_separate (heads : List.Forall₂ Heads keyss clauses)
    (apart : keyss.Pairwise List.Disjoint) : clauses.Pairwise Separate := by
  induction heads with
  | nil => exact .nil
  | cons first rest separate =>
    obtain ⟨before, behind⟩ := List.pairwise_cons.mp apart
    refine List.pairwise_cons.mpr ⟨fun d member => ?_, separate behind⟩
    obtain ⟨others, listed, second⟩ := headed rest member
    exact first.separate second (before others listed)

theorem flatMap_heads {α : Type} {f : α → List (List Key)} {g : α → List Clause} {l : List α}
    (each : ∀ x ∈ l, List.Forall₂ Heads (f x) (g x)) :
    List.Forall₂ Heads (l.flatMap f) (l.flatMap g) := by
  induction l with
  | nil => exact .nil
  | cons x l more =>
    rw [List.flatMap_cons, List.flatMap_cons]
    exact List.rel_append (each x (List.mem_cons_self ..))
      (more fun y later => each y (List.mem_cons_of_mem _ later))

end Heads

-- Where no branch shadows another one, the chosen branch is the one that has the token, in
-- whatever place it stands.
section Order

variable {token : String} {clauses others behind : List Clause} {body : Script}

theorem separate_symm : Std.Symm Separate :=
  ⟨fun _ _ apart token second first => apart token first second⟩

theorem chosen_iff (headed : ∀ c ∈ clauses, ∃ keys, Heads keys c)
    (separate : clauses.Pairwise Separate) :
    Chosen token clauses body ↔
      ∃ patterns, branch patterns body ∈ clauses ∧ Fits token (branch patterns body) := by
  constructor
  · rintro ⟨before, patterns, after, rfl, _, _, fits⟩
    exact ⟨patterns, by simp, patterns, body, rfl, fits⟩
  · rintro ⟨patterns, member, fit⟩
    obtain ⟨before, after, rfl⟩ := List.append_of_mem member
    obtain ⟨keys, heads⟩ := headed _ member
    refine ⟨before, patterns, after, rfl, fun c earlier => ?_, heads.free, ?_⟩
    · obtain ⟨more, first⟩ := headed c (List.mem_append_left _ earlier)
      refine first.misses fun also => ?_
      exact (List.pairwise_append.mp separate).2.2 c earlier _ (List.mem_cons_self ..) token also fit
    · obtain ⟨more, also, same, fits⟩ := fit
      rwa [branch_patterns same]

theorem chosen_append_iff : Chosen token (clauses ++ behind) body ↔
    Chosen token clauses body ∨ (∀ c ∈ clauses, Misses token c) ∧ Chosen token behind body := by
  constructor
  · rintro ⟨before, patterns, after, split, missed, free, fits⟩
    rcases List.append_eq_append_iff.mp split with ⟨earlier, rfl, rest⟩ | ⟨later, rfl, rest⟩
    · refine Or.inr ⟨fun c member => missed c (List.mem_append_left _ member),
        earlier, patterns, after, rest, fun c member => ?_, free, fits⟩
      exact missed c (List.mem_append_right _ member)
    · cases later with
      | nil =>
        refine Or.inr ⟨fun c member => missed c (by simpa using member), [], patterns, after,
          rest.symm, nofun, free, fits⟩
      | cons c later =>
        obtain ⟨rfl, _⟩ := List.cons.inj rest
        exact Or.inl ⟨before, patterns, later, rfl, missed, free, fits⟩
  · rintro (chosen | ⟨missed, chosen⟩)
    · exact chosen.append behind
    · exact chosen.past missed

theorem order_irrelevant (headed : ∀ c ∈ clauses, ∃ keys, Heads keys c)
    (separate : clauses.Pairwise Separate) (moved : others.Perm clauses) :
    Chosen token (others ++ behind) body ↔ Chosen token (clauses ++ behind) body := by
  have also : ∀ c ∈ others, ∃ keys, Heads keys c := fun c member => headed c (moved.mem_iff.mp member)
  have apart : others.Pairwise Separate := moved.symm.pairwise separate fun first => separate_symm.symm _ _ first
  rw [chosen_append_iff, chosen_append_iff, chosen_iff headed separate, chosen_iff also apart]
  simp only [moved.mem_iff]

end Order

-- The keys of the branches in front of the last ones, in their order.
def firstKeys : List (List Key) := [[.word "-h", .word "--help"], [.word "--version"]]

def spellingKeys (a : Argument) (spelling : String) : List (List Key) :=
  match a.body.stored? with
  | some _ => [[.word spelling]]
  | none => [[.word spelling], [.attached spelling]]

def options (a : Argument) : List String := a.spellings.filter fun s => passing s != .positional

def argumentKeys (a : Argument) : List (List Key) := (options a).flatMap (spellingKeys a)

def metaKeys : List (List Key) := metaFlags.flatMap fun f => [[.word f.1], [.attached f.1]]

def containerKeys : List (List Key) :=
  [[.word "---v", .word "---volume"], [.attached "---v", .attached "---volume"],
   [.word "---setup"], [.word "---debug"], [.word "---dockerfile"]]

def frontKeys (A : List Argument) : List (List Key) :=
  firstKeys ++ (A.flatMap argumentKeys ++ metaKeys) ++ containerKeys

-- The branches in front of the last ones, with those of layers.
def frontClauses (line : String) (A : List Argument) (layers : List Clause) : List Clause :=
  firstClauses line ++ (A.flatMap argumentClauses ++ metaClauses) ++ layers

-- A token that is neither a dash nor two dashes, and begins with one.
def IsDashed (token : String) : Prop :=
  token.toList.head? = some '-' ∧ token ≠ "-" ∧ token ≠ "--"

instance (token : String) : Decidable (IsDashed token) := inferInstanceAs (Decidable (_ ∧ _ ∧ _))

-- What is known of the keys that no argument has a say in can be looked up.
section Fixed

def fixedKeys : List (List Key) := firstKeys ++ (metaKeys ++ containerKeys)

instance (keys others : List Key) : Decidable (keys.Disjoint others) :=
  decidable_of_iff (∀ k ∈ keys, k ∉ others) Iff.rfl

theorem fixed_apart : fixedKeys.Pairwise List.Disjoint := by decide

theorem fixed_dashed : ∀ keys ∈ fixedKeys, ∀ k ∈ keys, IsDashed k.spelling := by decide

theorem fixed_own : ∀ keys ∈ fixedKeys, ∀ k ∈ keys,
    k.spelling ∈ reservedSpellings ∨ Argument.isSpelling k.spelling.toList = false := by decide

theorem first_heads (line : String) : List.Forall₂ Heads firstKeys (firstClauses line) :=
  .cons ⟨by decide, _, rfl⟩ (.cons ⟨by decide, _, rfl⟩ .nil)

theorem meta_heads : List.Forall₂ Heads metaKeys metaClauses :=
  flatMap_heads fun f listed =>
    .cons (single_heads (k := .word f.1) (meta_plain f listed) _)
      (.cons (single_heads (k := .attached f.1) (meta_plain f listed) _) .nil)

-- The branches of all layers of a container, in their order.
def containerClauses : List Clause :=
  [volumeClauses, setupClauses, debugClauses, dockerfileClauses].flatten

theorem container_heads : List.Forall₂ Heads containerKeys containerClauses :=
  .cons ⟨by decide, _, rfl⟩ (.cons ⟨by decide, _, rfl⟩ (.cons ⟨by decide, _, rfl⟩
    (.cons ⟨by decide, _, rfl⟩ (.cons ⟨by decide, _, rfl⟩ .nil))))

end Fixed

section Arguments

variable {A : List Argument} {a : Argument} {spelling token value line : String} {c : Clause}
  {layers clauses : List Clause} {body : Script}

theorem spelling_heads (plain : IsPlain spelling) :
    List.Forall₂ Heads (spellingKeys a spelling) (spellingClauses a spelling) := by
  have word (body : Script) := @single_heads (.word spelling) plain body
  have attached (body : Script) := @single_heads (.attached spelling) plain body
  unfold spellingKeys spellingClauses
  cases a.body.stored? with
  | some stored => exact .cons (word _) .nil
  | none => exact .cons (word _) (.cons (attached _) .nil)

theorem spellingKeys_apart : (spellingKeys a spelling).Pairwise List.Disjoint := by
  unfold spellingKeys
  cases a.body.stored? with
  | some stored => exact List.pairwise_singleton _ _
  | none => simp

theorem spellingKeys_own : ∀ keys ∈ spellingKeys a spelling, ∀ k ∈ keys, k.spelling = spelling := by
  unfold spellingKeys
  cases a.body.stored? with
  | some stored => simp [Key.spelling]
  | none => simp [Key.spelling]

theorem argumentKeys_own : ∀ keys ∈ argumentKeys a, ∀ k ∈ keys, k.spelling ∈ options a := by
  intro keys member k listed
  obtain ⟨spelling, option, within⟩ := List.mem_flatMap.mp member
  rwa [spellingKeys_own keys within k listed]

-- Keys of different spellings are different keys.
theorem flatMap_apart {α : Type} {f : α → List (List Key)} {g : α → List String} {l : List α}
    (own : ∀ x ∈ l, ∀ keys ∈ f x, ∀ k ∈ keys, k.spelling ∈ g x)
    (each : ∀ x ∈ l, (f x).Pairwise List.Disjoint)
    (apart : l.Pairwise fun x y => (g x).Disjoint (g y)) :
    (l.flatMap f).Pairwise List.Disjoint := by
  refine List.pairwise_flatMap.mpr ⟨each, apart.imp_of_mem ?_⟩
  intro x y first second different keys mine others theirs k inKeys inOthers
  exact different (own x first keys mine k inKeys) (own y second others theirs k inOthers)

theorem option_dashed (whole : IsWhole spelling) (option : spelling ∈ options a) :
    IsDashed spelling := by
  have dashed := (List.mem_filter.mp option).2
  refine ⟨?_, ?_, ?_⟩
  · unfold passing Passing.ofChars at dashed
    split at dashed
    · rename_i shape
      rw [shape]
      rfl
    · rename_i shape
      rw [shape]
      rfl
    · cases dashed
  · rintro rfl
    exact absurd whole.1 (by decide)
  · rintro rfl
    exact absurd whole.1 (by decide)

-- A value behind a spelling changes nothing about how a token begins.
theorem opens_dashed {k : Key} (dashed : IsDashed k.spelling) (opens : k.Opens token) :
    IsDashed token := by
  cases k with
  | word spelling =>
    obtain rfl : token = spelling := opens
    exact dashed
  | attached spelling =>
    obtain ⟨value, attached⟩ := opens
    obtain ⟨shape, _⟩ := attached_shape attached
    have marked : '=' ∈ token.toList := by
      rw [shape]
      simp
    obtain ⟨first, _, _⟩ := dashed
    refine ⟨?_, ?_, ?_⟩
    · rw [shape, List.head?_append]
      change spelling.toList.head? = some '-' at first
      rw [first]
      rfl
    · rintro rfl
      exact absurd marked (by decide)
    · rintro rfl
      exact absurd marked (by decide)

section Accepted

variable (accepted : Accepted A)

include accepted

theorem option_whole (listed : a ∈ A) (option : spelling ∈ options a) : IsWhole spelling :=
  accepted.wholes a listed spelling (List.mem_filter.mp option).1

theorem arguments_heads : List.Forall₂ Heads (A.flatMap argumentKeys) (A.flatMap argumentClauses) :=
  flatMap_heads fun _ listed => flatMap_heads fun _ option =>
    spelling_heads (whole_plain (option_whole accepted listed option))

theorem front_heads : List.Forall₂ Heads (frontKeys A) (frontClauses line A containerClauses) :=
  List.rel_append (List.rel_append (first_heads line)
    (List.rel_append (arguments_heads accepted) meta_heads)) container_heads

theorem arguments_apart : (A.flatMap argumentKeys).Pairwise List.Disjoint := by
  obtain ⟨each, between⟩ := List.nodup_flatMap.mp (checked_nodup accepted.checked)
  refine flatMap_apart (g := Argument.spellings) ?_ (fun a listed => ?_) between
  · exact fun a _ keys member k inside =>
      (List.mem_filter.mp (argumentKeys_own keys member k inside)).1
  · refine flatMap_apart (g := fun spelling => [spelling]) ?_ (fun _ _ => spellingKeys_apart) ?_
    · exact fun spelling _ keys member k inside =>
        List.mem_singleton.mpr (spellingKeys_own keys member k inside)
    · exact ((each a listed).filter _).imp fun different => by simpa using different.symm

-- No argument has a spelling of the wrapper itself, or one with three dashes.
theorem arguments_free : ∀ keys ∈ A.flatMap argumentKeys, ∀ others ∈ fixedKeys,
    keys.Disjoint others := by
  intro keys member others fixed k mine theirs
  obtain ⟨a, listed, within⟩ := List.mem_flatMap.mp member
  have option := argumentKeys_own keys within k mine
  rcases fixed_own others fixed k theirs with reserved | unnamed
  · exact checked_free accepted.checked k.spelling
      (List.mem_flatMap.mpr ⟨a, listed, (List.mem_filter.mp option).1⟩) reserved
  · rw [(option_whole accepted listed option).1] at unnamed
    cases unnamed

theorem front_apart : (frontKeys A).Pairwise List.Disjoint := by
  have moved : (frontKeys A).Perm (A.flatMap argumentKeys ++ fixedKeys) := by
    unfold frontKeys fixedKeys
    rw [← List.append_assoc, List.append_assoc, List.append_assoc]
    exact List.perm_append_comm_assoc ..
  refine (moved.pairwise_iff List.disjoint_symm).mpr (List.pairwise_append.mpr ?_)
  exact ⟨arguments_apart accepted, fixed_apart, arguments_free accepted⟩

theorem front_dashed : ∀ keys ∈ frontKeys A, ∀ k ∈ keys, IsDashed k.spelling := by
  have fixed (keys : List Key) (listed : keys ∈ fixedKeys) := fixed_dashed keys listed
  intro keys member k inside
  unfold fixedKeys at fixed
  unfold frontKeys at member
  simp only [List.mem_append] at member fixed
  rcases member with (first | argument | own) | container
  · exact fixed keys (Or.inl first) k inside
  · obtain ⟨a, listed, within⟩ := List.mem_flatMap.mp argument
    have option := argumentKeys_own keys within k inside
    exact option_dashed (option_whole accepted listed option) option
  · exact fixed keys (Or.inr (Or.inl own)) k inside
  · exact fixed keys (Or.inr (Or.inr container)) k inside

end Accepted

-- A spelling that takes a value leads to its argument, with the value behind it or in it.
theorem valued_answered (plain : IsPlain spelling) (option : spelling ∈ options a)
    (valued : a.body.stored? = none)
    (given : token = spelling ∨ ∃ value, token = spelling ++ "=" ++ value) :
    ∃ c ∈ argumentClauses a, Fits token c := by
  have within (c : Clause) (member : c ∈ spellingClauses a spelling) : c ∈ argumentClauses a :=
    List.mem_flatMap.mpr ⟨spelling, option, member⟩
  unfold spellingClauses at within
  rw [valued] at within
  rcases given with rfl | ⟨value, rfl⟩
  · refine ⟨_, within _ (List.mem_cons_self ..), _, _, rfl, token, List.mem_singleton_self _, ?_⟩
    exact (spelling_fits plain).mpr rfl
  · refine ⟨_, within _ (List.mem_cons_of_mem _ (List.mem_cons_self ..)), _, _, rfl, _,
      List.mem_singleton_self _, (attached_fits plain).mpr ⟨value, ?_⟩⟩
    have unequal : '=' ∉ spelling.toList := fun member => (plain _ member).2.2 rfl
    have shape : (spelling ++ "=" ++ value).toList = spelling.toList ++ '=' :: value.toList := by simp
    rw [attached_some shape unequal, String.ofList_toList]

-- With the branches of layers or without them, no token has two branches in front of the last
-- ones, no token has one there that is no option, both forms of an option with a value lead to
-- its argument, and the order of the branches does not matter.
theorem branches_undisputed (accepted : Accepted A) (line : String)
    (chosen : layers.Sublist containerClauses) :
    (frontClauses line A layers).Pairwise Separate ∧
      (∀ c ∈ frontClauses line A layers, ∀ token, Fits token c → IsDashed token) ∧
      (∀ a ∈ A, a.body.stored? = none → ∀ spelling ∈ options a, ∀ token,
        token = spelling ∨ (∃ value, token = spelling ++ "=" ++ value) →
          ∃ c ∈ argumentClauses a, Fits token c) ∧
      ∀ clauses, clauses.Perm (frontClauses line A layers) → ∀ token body,
        Chosen token (clauses ++ lastClauses) body ↔
          Chosen token (frontClauses line A layers ++ lastClauses) body := by
  have within : (frontClauses line A layers).Sublist (frontClauses line A containerClauses) :=
    (List.Sublist.refl _).append chosen
  have heads := @front_heads A line accepted
  have separate := (heads_separate heads (front_apart accepted)).sublist within
  have found (c : Clause) (member : c ∈ frontClauses line A layers) := headed heads (within.mem member)
  refine ⟨separate, fun c member token fits => ?_, fun a listed valued spelling option token given => ?_,
    fun clauses moved token body => order_irrelevant (fun c member => ?_) separate moved⟩
  · obtain ⟨keys, listed, first⟩ := found c member
    obtain ⟨k, inside, opens⟩ := first.fits_iff.mp fits
    exact opens_dashed (front_dashed accepted keys listed k inside) opens
  · exact valued_answered (whole_plain (option_whole accepted listed option)) option valued given
  · obtain ⟨keys, _, first⟩ := found c member
    exact ⟨keys, first⟩

theorem branches_undisputed_at_sizes :
    (frontClauses "tool 1.0" sampled containerClauses).Pairwise Separate ∧
      ∃ c ∈ argumentClauses sampled[0], Fits "--size=3" c := by
  obtain ⟨separate, _, answered, _⟩ :=
    branches_undisputed sampled_accepted "tool 1.0" (List.Sublist.refl containerClauses)
  exact ⟨separate, answered sampled[0] (List.mem_cons_self ..) rfl "--size" (by decide) "--size=3"
    (Or.inr ⟨"3", rfl⟩)⟩

end Arguments

end Toolwrap.Parsing
