import Toolwrap.Proofs.Parsing.Choices

-- The branch of the whole case that each kind of token leads to.

namespace Toolwrap.Parsing

open Shell Wrapper Running

-- The branches of the loop over the command line.
def loopClauses (versionLine : String) (A : List Argument) : List Clause :=
  firstClauses versionLine ++ (A.flatMap argumentClauses ++ metaClauses) ++ [] ++ lastClauses

-- Arguments that were checked together, with names that are names as a whole.
structure Accepted (A : List Argument) : Prop where
  checked : checkArguments A = .ok ()
  wholes : ∀ a ∈ A, ∀ spelling ∈ a.spellings, IsWhole spelling

-- A token that asks for nothing of the wrapper itself.
def IsOrdinary (token : String) : Prop :=
  token ≠ "-h" ∧ token ≠ "--help" ∧ token ≠ "--version"

section Meaning

variable {A : List Argument} {token : String}

-- A token that names no option, and that gives no value to one.
structure IsOther (A : List Argument) (token : String) : Prop where
  ordinary : IsOrdinary token
  untargeted : target? A token = none
  apart : ∀ front value, attached? token = some (front, value) →
    ∀ x rule, target? A front ≠ some (.value x rule)

-- What a token means, with what its meaning was read off from.
inductive Means (A : List Argument) (token : String) : Token → Prop where
  | help (asked : token = "-h" ∨ token = "--help") : Means A token .help
  | version (asked : token = "--version") : Means A token .version
  | flag {x text : String} (ordinary : IsOrdinary token)
      (target : target? A token = some (.flag x text)) : Means A token (.flag x text)
  | value {x : String} {rule : Rule} (ordinary : IsOrdinary token)
      (target : target? A token = some (.value x rule)) : Means A token (.value x rule)
  | attached {front value x : String} {rule : Rule} (ordinary : IsOrdinary token)
      (attached : attached? token = some (front, value))
      (target : target? A front = some (.value x rule)) : Means A token (.attached x rule value)
  | terminator (other : IsOther A token) (told : otherToken token = .terminator) :
      Means A token .terminator
  | unknown (other : IsOther A token) (told : otherToken token = .unknown) : Means A token .unknown
  | positional (other : IsOther A token) (told : otherToken token = .positional) :
      Means A token .positional

theorem otherToken_means (other : IsOther A token) : Means A token (otherToken token) := by
  cases told : otherToken token with
  | terminator => exact .terminator other told
  | unknown => exact .unknown other told
  | positional => exact .positional other told
  | _ =>
    unfold otherToken at told
    split at told <;> cases told

theorem attachedToken_means (ordinary : IsOrdinary token) (untargeted : target? A token = none) :
    Means A token (attachedToken A token) := by
  unfold attachedToken
  cases attached : attached? token with
  | none => exact otherToken_means ⟨ordinary, untargeted, by rw [attached]; exact nofun⟩
  | some parts =>
    obtain ⟨front, value⟩ := parts
    dsimp only
    have apart (unvalued : ∀ x rule, target? A front ≠ some (.value x rule)) :
        Means A token (otherToken token) := by
      refine otherToken_means ⟨ordinary, untargeted, fun other text again => ?_⟩
      obtain ⟨rfl, rfl⟩ := Prod.mk.inj (Option.some.inj (attached.symm.trans again))
      exact unvalued
    cases target : target? A front with
    | none => exact apart (by rw [target]; exact nofun)
    | some found =>
      cases found with
      | flag x text => exact apart (by rw [target]; exact nofun)
      | value x rule => exact .attached ordinary attached target

theorem tokenOf_means (A : List Argument) (token : String) : Means A token (tokenOf A token) := by
  unfold tokenOf
  by_cases help : token = "-h" ∨ token = "--help"
  · rw [if_pos help]
    exact .help help
  · by_cases version : token = "--version"
    · rw [if_neg help, if_pos version]
      exact .version version
    · rw [if_neg help, if_neg version]
      have ordinary : IsOrdinary token := ⟨fun h => help (Or.inl h), fun h => help (Or.inr h), version⟩
      cases target : target? A token with
      | none => exact attachedToken_means ordinary target
      | some found =>
        cases found with
        | flag x text => exact .flag ordinary target
        | value x rule => exact .value ordinary target

theorem means_of {meaning : Token} (told : tokenOf A token = meaning) : Means A token meaning := by
  subst told
  exact tokenOf_means A token

end Meaning

section Targets

variable {A : List Argument} {token x text : String} {rule : Rule} {target : Target} {a : Argument}

-- What a token is for belongs to an argument of the list, or else to the wrapper.
theorem target_cases (aimed : target? A token = some target) :
    (∃ a, A.find? (isOption token) = some a ∧ target = targetOf a) ∨
      A.find? (isOption token) = none ∧ ∃ x, metaFlags.lookup token = some x ∧ target = .value x .last := by
  unfold target? at aimed
  cases found : A.find? (isOption token) with
  | some a =>
    rw [found] at aimed
    exact Or.inl ⟨a, rfl, (Option.some.inj aimed).symm⟩
  | none =>
    rw [found] at aimed
    obtain ⟨x, known, same⟩ := Option.map_eq_some_iff.mp aimed
    exact Or.inr ⟨rfl, x, known, same.symm⟩

theorem targetOf_flag (aimed : targetOf a = .flag x text) :
    ∃ stored, a.body.stored? = some stored ∧ x = a.envName ∧ text = truthText stored := by
  unfold targetOf at aimed
  cases kind : a.body.stored? with
  | none =>
    rw [kind] at aimed
    cases aimed
  | some stored =>
    rw [kind] at aimed
    obtain ⟨rfl, rfl⟩ := Target.flag.inj aimed
    exact ⟨stored, rfl, rfl, rfl⟩

theorem targetOf_value (aimed : targetOf a = .value x rule) :
    a.body.stored? = none ∧ x = a.envName ∧ rule = ruleOf a := by
  unfold targetOf at aimed
  cases kind : a.body.stored? with
  | some stored =>
    rw [kind] at aimed
    cases aimed
  | none =>
    rw [kind] at aimed
    obtain ⟨rfl, rfl⟩ := Target.value.inj aimed
    exact ⟨rfl, rfl, rfl⟩

-- A flag is an argument; what takes a value is one, or is known to the wrapper.
theorem target_flag (aimed : target? A token = some (.flag x text)) :
    ∃ a stored, A.find? (isOption token) = some a ∧ a.body.stored? = some stored ∧ x = a.envName ∧ text = truthText stored := by
  rcases target_cases aimed with ⟨a, found, same⟩ | ⟨-, y, -, same⟩
  · obtain ⟨stored, kind, rfl, rfl⟩ := targetOf_flag same.symm
    exact ⟨a, stored, found, kind, rfl, rfl⟩
  · cases same

theorem target_value (aimed : target? A token = some (.value x rule)) :
    (∃ a, A.find? (isOption token) = some a ∧ a.body.stored? = none ∧ x = a.envName ∧ rule = ruleOf a) ∨
      A.find? (isOption token) = none ∧ metaFlags.lookup token = some x ∧ rule = .last := by
  rcases target_cases aimed with ⟨a, found, same⟩ | ⟨absent, y, known, same⟩
  · exact Or.inl ⟨a, found, targetOf_value same.symm⟩
  · obtain ⟨rfl, rfl⟩ := Target.value.inj same
    exact Or.inr ⟨absent, known, rfl⟩

end Targets

section Leading

variable {A : List Argument} {token front value x text : String} {rule : Rule} {line : String}

theorem own_plain : ∀ p ∈ ["-h", "--help", "--version"], IsPlain p := by decide

theorem first_missed (ordinary : IsOrdinary token) (line : String) :
    ∀ c ∈ firstClauses line, Misses token c := by
  obtain ⟨short, long, version⟩ := ordinary
  have fits : ∀ p ∈ ["-h", "--help", "--version"], token ≠ p → bareFits p token = false := by
    intro p listed other
    rw [← Bool.not_eq_true, spelling_fits (own_plain p listed)]
    exact other
  have free : ∀ p ∈ ["-h", "--help", "--version"], '~' ∉ p.toList :=
    fun p listed => plain_free (own_plain p listed)
  intro c member
  rcases List.mem_cons.mp member with rfl | second
  · refine ⟨_, _, rfl, fun p listed => ?_⟩
    rcases List.mem_cons.mp listed with rfl | later
    · exact ⟨free _ (by decide), fits _ (by decide) short⟩
    · obtain rfl := List.mem_singleton.mp later
      exact ⟨free _ (by decide), fits _ (by decide) long⟩
  · obtain rfl := List.mem_singleton.mp second
    refine ⟨_, _, rfl, fun p listed => ?_⟩
    obtain rfl := List.mem_singleton.mp listed
    exact ⟨free _ (by decide), fits _ (by decide) version⟩

theorem help_chosen (asked : token = "-h" ∨ token = "--help") :
    Chosen token (loopClauses line A) [say ["bw_help"], leave "0"] := by
  have fits : ∃ p ∈ ["-h", "--help"], bareFits p token = true := by
    rcases asked with rfl | rfl
    · exact ⟨_, by decide, (spelling_fits (own_plain "-h" (by decide))).mpr rfl⟩
    · exact ⟨_, by decide, (spelling_fits (own_plain "--help" (by decide))).mpr rfl⟩
  exact ((((chosen_here (by decide) fits _).append _).append _).append _)

theorem version_chosen :
    Chosen "--version" (loopClauses line A) [run [bare "echo", quotedWord line], leave "0"] := by
  have plain := own_plain "--version" (by decide)
  have missed : ∀ c ∈ [branch ["-h", "--help"] [say ["bw_help"], leave "0"]],
      Misses "--version" c := by
    intro c member
    obtain rfl := List.mem_singleton.mp member
    refine ⟨_, _, rfl, fun p listed => ?_⟩
    have known : p ∈ ["-h", "--help", "--version"] := List.mem_append_left ["--version"] listed
    refine ⟨plain_free (own_plain p known), ?_⟩
    rw [← Bool.not_eq_true, spelling_fits (own_plain p known)]
    rintro rfl
    exact absurd listed (by decide)
  exact ((((spelling_chosen plain _ []).past missed).append _).append _).append _

-- A token that asks for nothing of the wrapper itself goes on to the other branches.
theorem chosen_between (ordinary : IsOrdinary token) {body : Script}
    (chosen : Chosen token (A.flatMap argumentClauses ++ metaClauses) body) :
    Chosen token (loopClauses line A) body :=
  ((chosen.past (first_missed ordinary line)).append _).append _

variable (accepted : Accepted A)

include accepted

theorem flag_chosen (ordinary : IsOrdinary token) (target : target? A token = some (.flag x text)) :
    Chosen token (loopClauses line A) (flagBody x text) := by
  obtain ⟨a, stored, found, kind, rfl, rfl⟩ := target_flag target
  have chosen := arguments_chosen accepted.wholes found
  unfold optionBody at chosen
  rw [kind] at chosen
  exact chosen_between ordinary (chosen.append _)

-- What is done for a spelling that takes a value, given behind it or in it.
inductive Storing (A : List Argument) (spelling : String) : String → Rule → Script → Script → Prop
  | argument {a : Argument} (listed : a ∈ A) (valued : a.body.stored? = none) :
      Storing A spelling a.envName (ruleOf a) (valueBody a spelling) (attachedBody a spelling)
  | meta_ {x : String} (known : metaFlags.lookup spelling = some x) :
      Storing A spelling x .last (metaBody x spelling) (attachedMetaBody x)

theorem unmeant_missed (untargeted : A.find? (isOption token) = none)
    (apart : ∀ front value, attached? token = some (front, value) → A.find? (isOption front) = none) :
    ∀ c ∈ A.flatMap argumentClauses, Misses token c := by
  have other : ∀ spelling, A.find? (isOption spelling) = none → ∀ a ∈ A, isOption spelling a = false :=
    fun spelling none_ a listed => by simpa using List.find?_eq_none.mp none_ a listed
  exact arguments_missed accepted.wholes (other token untargeted)
    fun a listed _ front value attached => other front (apart front value attached) a listed

theorem value_chosen (ordinary : IsOrdinary token) (target : target? A token = some (.value x rule)) :
    ∃ body also, Storing A token x rule body also ∧ Chosen token (loopClauses line A) body := by
  rcases target_value target with ⟨a, found, valued, rfl, rfl⟩ | ⟨absent, known, rfl⟩
  · refine ⟨_, _, .argument (List.mem_of_find?_eq_some found) valued, ?_⟩
    have chosen := arguments_chosen accepted.wholes found
    unfold optionBody at chosen
    rw [valued] at chosen
    exact chosen_between ordinary (chosen.append _)
  · refine ⟨_, _, .meta_ known, chosen_between ordinary ((meta_chosen known).past ?_)⟩
    refine unmeant_missed accepted absent fun front value attached => ?_
    have plain : IsPlain token := by
      rcases meta_cases known with ⟨rfl, _⟩ | ⟨rfl, _⟩
      · exact processes_plain
      · exact memory_plain
    rw [attached_none plain] at attached
    cases attached

theorem attached_chosen_between (ordinary : IsOrdinary token)
    (attached : attached? token = some (front, value)) (target : target? A front = some (.value x rule)) :
    ∃ body also, Storing A front x rule body also ∧ Chosen token (loopClauses line A) also := by
  rcases target_value target with ⟨a, found, valued, rfl, rfl⟩ | ⟨absent, known, rfl⟩
  · refine ⟨_, _, .argument (List.mem_of_find?_eq_some found) valued, ?_⟩
    exact chosen_between ordinary
      ((attachedArguments_chosen accepted.wholes found attached valued).append _)
  · refine ⟨_, _, .meta_ known,
      chosen_between ordinary ((attachedMeta_chosen known attached).past ?_)⟩
    refine unmeant_missed accepted ?_ fun other text again => ?_
    · rw [List.find?_eq_none]
      intro a listed option
      have plain := option_plain accepted.wholes listed option
      rw [attached_none plain] at attached
      cases attached
    · obtain ⟨rfl, _⟩ := Prod.mk.inj (Option.some.inj (attached.symm.trans again))
      exact absent

-- A token that names no option goes past the branches of all options.
theorem options_missed (other : IsOther A token) :
    ∀ c ∈ A.flatMap argumentClauses ++ metaClauses, Misses token c := by
  have unnamed : ∀ spelling, target? A spelling = none →
      A.find? (isOption spelling) = none ∧ metaFlags.lookup spelling = none := by
    intro spelling absent
    unfold target? at absent
    cases found : A.find? (isOption spelling) with
    | some a =>
      rw [found] at absent
      cases absent
    | none =>
      rw [found] at absent
      cases known : metaFlags.lookup spelling with
      | none => exact ⟨rfl, rfl⟩
      | some x =>
        rw [known] at absent
        cases absent
  obtain ⟨absent, unknown⟩ := unnamed token other.untargeted
  have flagged : ∀ front value, attached? token = some (front, value) → ∀ a,
      A.find? (isOption front) = some a → a.body.stored? ≠ none := by
    intro front value attached a found valued
    refine other.apart front value attached a.envName (ruleOf a) ?_
    unfold target? targetOf
    rw [found]
    simp only [valued]
  intro c member
  rcases List.mem_append.mp member with argument | own
  · refine arguments_missed accepted.wholes ?_ ?_ c argument
    · intro a listed
      simpa using List.find?_eq_none.mp absent a listed
    · intro a listed valued front value attached
      by_contra option
      rw [Bool.not_eq_false] at option
      cases found : A.find? (isOption front) with
      | none => exact List.find?_eq_none.mp found a listed option
      | some b =>
        refine flagged front value attached b found ?_
        have mine := (List.mem_filter.mp (isOption_iff.mp option)).1
        have theirs := (List.mem_filter.mp (isOption_iff.mp (List.find?_some found))).1
        rw [← checked_unique accepted.checked listed (List.mem_of_find?_eq_some found) mine theirs]
        exact valued
  · refine meta_missed unknown (fun front value attached => ?_) c own
    cases known : metaFlags.lookup front with
    | none => rfl
    | some x =>
      refine absurd ?_ (other.apart front value attached x .last)
      have none_ : A.find? (isOption front) = none := by
        rw [List.find?_eq_none]
        intro a listed option
        have whole := accepted.wholes a listed front (List.mem_filter.mp (isOption_iff.mp option)).1
        rcases meta_cases known with ⟨rfl, _⟩ | ⟨rfl, _⟩
        · exact absurd whole.1 (by decide)
        · exact absurd whole.1 (by decide)
      unfold target?
      rw [none_]
      simp only [known, Option.map_some]

omit accepted in
theorem dashes_missed (other : token ≠ "--") (body : Script) : Misses token (branch ["--"] body) := by
  have plain : IsPlain "--" := by decide
  exact spelling_misses plain other _

section Others

variable (other : IsOther A token)

include other

theorem chosen_last {body : Script} (chosen : Chosen token lastClauses body) :
    Chosen token (loopClauses line A) body := by
  refine chosen.past fun c member => ?_
  rw [List.append_nil] at member
  rcases List.mem_append.mp member with first | options
  · exact first_missed other.ordinary line c first
  · exact options_missed accepted other c options

theorem terminator_chosen (told : otherToken token = .terminator) :
    Chosen token (loopClauses line A)
      [shift 1, addItems "BW_POSITIONAL_ARGS" [[.double [ref "@"]]], say ["break"]] := by
  have dashes : token = "--" := by
    unfold otherToken at told
    split at told
    · rename_i shape
      exact String.toList_inj.mp shape
    · cases told
    · cases told
  refine chosen_last accepted other ?_
  subst dashes
  have plain : IsPlain "--" := by decide
  exact spelling_chosen plain _ _

theorem unknown_chosen (told : otherToken token = .unknown) :
    Chosen token (loopClauses line A) (fatalHint [.text "Unrecognized argument '", ref "1", .text "'."]) := by
  refine chosen_last accepted other ?_
  obtain ⟨longer, dashed⟩ : token ≠ "--" ∧ ∃ c rest, token.toList = '-' :: c :: rest := by
    unfold otherToken at told
    split at told
    · cases told
    · rename_i c rest different shape
      refine ⟨?_, c, rest, shape⟩
      rintro rfl
      have tail := (List.cons.inj shape).2
      exact different (List.cons.inj tail).1.symm (List.cons.inj tail).2.symm
    · cases told
  refine @Chosen.past _ _ _ [_] (chosen_here (by decide) ⟨_, List.mem_singleton_self _,
    dashed_fits.mpr dashed⟩ _) fun c member => ?_
  obtain rfl := List.mem_singleton.mp member
  exact dashes_missed longer _

theorem positional_chosen (told : otherToken token = .positional) :
    Chosen token (loopClauses line A)
      [addItems "BW_POSITIONAL_ARGS" [quotedRef "1"], shift 1] := by
  refine chosen_last accepted other ?_
  obtain ⟨longer, undashed⟩ : token ≠ "--" ∧ ¬ ∃ c rest, token.toList = '-' :: c :: rest := by
    unfold otherToken at told
    split at told
    · cases told
    · cases told
    · rename_i first second
      refine ⟨?_, ?_⟩
      · rintro rfl
        exact first rfl
      · rintro ⟨c, rest, shape⟩
        exact second c rest shape
  refine @Chosen.past _ _ _ [_, _] (chosen_here (by decide) ⟨_, List.mem_singleton_self _, all_fits⟩ _)
    fun c member => ?_
  rcases List.mem_cons.mp member with rfl | second
  · exact dashes_missed longer _
  · obtain rfl := List.mem_singleton.mp second
    refine ⟨_, _, rfl, fun p listed => ?_⟩
    obtain rfl := List.mem_singleton.mp listed
    refine ⟨by decide, ?_⟩
    rw [← Bool.not_eq_true, dashed_fits]
    exact undashed

end Others

end Leading

end Toolwrap.Parsing
