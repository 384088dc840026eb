import Toolwrap.Proofs.Parsing.Loop
import Toolwrap.Proofs.Running.Builtins

-- The sections of a wrapper that read its command line, as a whole: the variables of the
-- arguments are forgotten, and the loop then stores what the grammar reads.

namespace Toolwrap.Parsing

open Shell Wrapper Running

-- A session before the command line is read: it runs no function, and the variables that
-- are kept as they are hold texts.
structure Fresh (A : List Argument) (s : Session) : Prop where
  ready : Ready A s
  top : AtTop s
  flat : ∀ x ∈ metaFlags.map (·.2), Flat s x
  untabled : Untabled s collected

section Reset

variable {E : Engine} {A : List Argument} {s : Session}

theorem reads_bares {words : List String} (tame : ∀ w ∈ words, w.toList.all isTame = true)
    (filled : ∀ w ∈ words, w ≠ "") : Reads E s (words.map bare) words := by
  induction words with
  | nil => exact reads_nil
  | cons w words more =>
    exact reads_bare w (tame w (List.mem_cons_self ..)) (filled w (List.mem_cons_self ..))
      (more (fun v later => tame v (List.mem_cons_of_mem _ later))
        fun v later => filled v (List.mem_cons_of_mem _ later))

theorem own_tame {x : String} (own : isOwn x = true) : x.toList.all isTame = true :=
  List.all_eq_true.mpr fun c member =>
    (nameChar_tame (Or.inl (named_nameChar (isName_chars (own_isName own) c member)))).1

theorem own_filled {x : String} (own : isOwn x = true) : x ≠ "" := by
  rintro rfl
  cases own_isName own

def names (A : List Argument) : List String := A.map Argument.envName

theorem name_own (accepted : Accepted A) {x : String} (listed : x ∈ names A) : isOwn x = true :=
  owned_own accepted (Or.inl listed)

theorem name_unhelping {x : String} (listed : x ∈ names A) : isHelper x = false := by
  obtain ⟨a, _, rfl⟩ := List.mem_map.mp listed
  rw [isHelper, Argument.envName, String.toList_append]
  rfl

theorem forgotten_comesTo (accepted : Accepted A) (fresh : Fresh A s) :
    ComesTo ((say ("unset" :: names A)).run E) s (.ok () { without s (names A) with status := 0 }) := by
  have quiet := fresh.ready.quiet
  have own : ∀ x ∈ names A, isOwn x = true := fun x listed => name_own accepted listed
  have reads : Reads E s (("unset" :: names A).map bare) ("unset" :: names A) := by
    refine reads_bares ?_ ?_
    · intro w member
      rcases List.mem_cons.mp member with rfl | name
      · decide
      · exact own_tame (own w name)
    · intro w member
      rcases List.mem_cons.mp member with rfl | name
      · decide
      · exact own_filled (own w name)
  exact builtin_ok Builtin.unset quiet reads (by decide) rfl (by decide)
    (unset_comesTo quiet fresh.top own (fun x listed => fresh.ready.ordinary x (Or.inl listed))
      fun x listed => name_unhelping listed) quiet rfl (Or.inl rfl)

-- Forgetting variables leaves everything that reading the command line needs.
theorem forgotten_ready (fresh : Fresh A s) : Ready A (without s (names A)) := by
  have ready := fresh.ready
  have kept : ∀ y, y ∉ names A → (without s (names A)).find? y = s.find? y := by
    intro y other
    rw [without_find fresh.top, if_neg other]
  have plain : ∀ y, Ordinarily s y → Ordinarily (without s (names A)) y := by
    intro y ordinary v found
    rw [without_find fresh.top] at found
    split at found
    · cases found
    · exact ordinary v found
  have unlisted : ∀ y, ¬ Owned A y → (without s (names A)).value? y = s.value? y := by
    intro y other
    unfold Session.value?
    rw [kept y fun listed => other (Or.inl listed)]
  refine ⟨ready.quiet, ready.reports, ready.helps,
    hosts_like ready.hosts rfl rfl (unlisted _ fun owned => (owned_free owned).2.1 rfl), ready.output,
    ready.errors, ?_, plain _ ready.named, fun y owned => plain y (ready.ordinary y owned),
    plain _ ready.listed⟩
  rw [separators_like (unlisted _ fun owned => (owned_free owned).1 rfl)]
  exact ready.uncut

-- The session in which nothing was read yet.
def cleared (A : List Argument) (s : Session) (status : Nat) : Session :=
  { listing { without s (names A) with status } collected [] with status := 0 }

theorem reset_along (fresh : Fresh A s) (status : Nat) {loops : Nat} (inside : loops ≠ 0) :
    Along A (start A s.value?) s.args { cleared A s status with loops } := by
  have ready : Ready A (listing { without s (names A) with status } collected []) :=
    ((forgotten_ready fresh).passing s.args status s.loops s.shielded).listing []
  have found : ∀ y, y ≠ collected →
      (listing { without s (names A) with status } collected []).find? y =
        if y ∈ names A then none else s.find? y := by
    intro y other
    rw [listing_find, if_neg other]
    exact without_find fresh.top
  refine ⟨⟨ready.passing s.args 0 loops s.shielded, rfl, fun x owned v there => ?_,
    fun x other => ?_, listing_lists⟩, inside⟩
  · change (listing _ collected []).find? x = some v at there
    rw [found x (owned_free owned).2.2] at there
    split at there
    · cases there
    · rename_i unlisted
      exact fresh.flat x (owned.resolve_left unlisted) v there
  · change ((listing _ collected []).find? x).bind _ = if x ∈ names A then none else s.value? x
    rw [found x other]
    split <;> rfl

theorem reset_comesTo (accepted : Accepted A) (fresh : Fresh A s) : ∃ status,
    ComesTo (runScript E (storageReset A)) s (.ok () (cleared A s status)) := by
  have emptied : ∀ status, ComesTo (runScript E [assignItems collected []])
      { without s (names A) with status }
      (.ok () (cleared A s status)) := by
    intro status
    have ready := forgotten_ready fresh
    have untabled : Untabled { without s (names A) with status } collected := by
      intro entries
      have kept : ({ without s (names A) with status } : Session).find? collected = s.find? collected := by
        refine (without_find fresh.top).trans (if_neg fun listed => ?_)
        exact collected_unowned (Or.inl listed)
      unfold heldIn
      rw [kept]
      exact fresh.untabled entries
    exact script_one ready.quiet (emptied_comesTo ready.quiet (by decide) ready.listed untabled)
  have quiet := fresh.ready.quiet
  have commented : ComesTo ((Command.comment "argument storage").run E) s (.ok () s) := by
    rw [run_comment]
    exact comesTo_pure
  unfold storageReset
  cases A with
  | nil => exact ⟨s.status, script_cons quiet commented (emptied s.status)⟩
  | cons a A =>
    exact ⟨0, script_cons quiet commented
      (script_cons quiet (forgotten_comesTo accepted fresh) (emptied 0))⟩

end Reset

section Whole

variable {E : Engine} {A : List Argument} {s t : Session} {line : String}

-- The sections come to what the loop comes to behind the reset.
theorem sections_comesTo {r : Ending Unit} (quiet : Quiet t)
    (reset : ComesTo (runScript E (storageReset A)) s (.ok () t))
    (looped : ComesTo (inLoop (loopWhile (parsingRound E line A) E.rounds 0)) t r) :
    ComesTo (runScript E
      (storageReset A ++ parserLoop line (A.flatMap argumentClauses ++ metaClauses) [])) s r := by
  have commented : ComesTo ((Command.comment "parse arguments").run E) t (.ok () t) := by
    rw [run_comment]
    exact comesTo_pure
  have whole : ComesTo ((Command.whileLoop false [hasArguments] [caseOfFirst line A]).run E) t r := by
    rw [run_whileLoop]
    exact looped
  exact script_append reset (script_cons quiet commented (script_one quiet whole))

-- The sections that read the command line, and what they come to: by what the grammar reads off it.
def sections (line : String) (A : List Argument) : Script :=
  storageReset A ++ parserLoop line (A.flatMap argumentClauses ++ metaClauses) []

theorem sections_read {deeper : Engine} (runs : E.script = runScript deeper) (accepted : Accepted A) (fresh : Fresh A s)
    (few : s.args.length < 2 ^ 63) (enough : s.args.length < E.rounds) (line : String) :
    match read A s.args (start A s.value?) with
    | .stored final => ∃ t left, ComesTo (runScript E (sections line A)) s (.ok () t) ∧ Holding A final left t
    | .exits code => ∃ t, ComesTo (runScript E (sections line A)) s (.error (.exit code) t) := by
  obtain ⟨status, reset⟩ := @reset_comesTo E A s accepted fresh
  have along := reset_along fresh status (Nat.succ_ne_zero (cleared A s status).loops)
  have quiet : Quiet (cleared A s status) := along.ready.quiet
  have reached : Reaches E line A E.rounds 0 _ _ := loop_reads runs accepted along few enough
  cases outcome : read A s.args (start A s.value?) with
  | stored final =>
    rw [outcome] at reached
    obtain ⟨t, left, ended, done⟩ := reached
    have looped := @inLoop_ok (cleared A s status) t (loopWhile (parsingRound E line A) E.rounds 0) ended
    exact ⟨_, left, sections_comesTo quiet reset looped, done.toHolding.passing t.status (t.loops - 1) t.shielded⟩
  | exits code =>
    rw [outcome] at reached
    obtain ⟨t, ended⟩ := reached
    have looped := @inLoop_error (cleared A s status) t _ (loopWhile (parsingRound E line A) E.rounds 0) ended
    exact ⟨_, sections_comesTo quiet reset looped⟩

end Whole

-- A wrapper with a number that may be given several times and with a flag.
def sampled : List Argument :=
  [{ name := "--size", alternatives := ["-s"], multiple := true, body := .integer {} },
    { name := "--loud", body := .flag true {} }]

def around (args : List String) : Session where
  tree := ⟨[(["bin"], .directory)]⟩
  here := []
  args := args
  texts := ["", "", ""]
  descriptors := [(0, .text 0), (1, .text 1), (2, .text 2)]
  functions := [
    ("bw_error", { body := .located 1 (.group [.located 2 errorEcho]), file := "wrapper" }),
    ("bw_help", { body := .located 4 (.group [.located 5 (catText "usage\n")]), file := "wrapper" })]

theorem around_hosts (args : List String) : Hosts (around args) "cat" := by
  have found : (around []).program "cat" = .ok ("/bin/cat", .host "cat") :=
    ok_of_toOption (by decide +kernel)
  exact hosts_like (hosts_found found) rfl rfl rfl

theorem around_fresh (A : List Argument) (args : List String) : Fresh A (around args) := by
  have calm : Quiet (around []) := ⟨rfl, by decide, rfl, rfl, rfl, rfl, rfl, by decide, by decide⟩
  have uncut : ∀ c ∈ (around []).separators.chars, c.isDigit = false :=
    List.all_iff_forall_prop.mp (by decide)
  have ready : Ready A (around args) :=
    ⟨calm, ⟨_, 1, 2, rfl, rfl⟩, ⟨_, _, 4, 5, rfl, rfl⟩, around_hosts args, nofun, nofun, uncut,
      nofun, fun _ _ => nofun, nofun⟩
  exact ⟨ready, ⟨[], rfl⟩, fun _ _ => nofun, nofun⟩

theorem sampled_accepted : Accepted sampled := by
  have checked : checkArguments sampled = .ok () := ok_of_toOption (by decide)
  have wholes : ∀ a ∈ sampled, ∀ spelling ∈ a.spellings,
      Argument.isSpelling spelling.toList = true ∧ '\n' ∉ spelling.toList := by decide
  exact ⟨checked, wholes⟩

end Toolwrap.Parsing
