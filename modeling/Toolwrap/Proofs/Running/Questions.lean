import Toolwrap.Proofs.Running.Invoking
import Toolwrap.Proofs.Running.Numerals
import Toolwrap.Proofs.Running.Patterns
import Toolwrap.Proofs.Running.Quoted

-- Questions that generated programs ask: whether a text is empty, how many arguments
-- there are, and what the status of such a question is.

namespace Toolwrap.Running

open Shell

section Numbers

variable {s : Session}

theorem valueOfText_read {text : String} {e : Arithmetic.Expr} {n : Int} (quiet : Quiet s) (lead : String)
    (depth : Nat) (reads : Arithmetic.read false text = ⟨e, none⟩)
    (found : Yields (e.value (Arithmetic.valueOfText lead depth) (Arithmetic.failWith lead text)) s n) :
    Yields (Arithmetic.valueOfText lead (depth + 1) text) s n := by
  intro m
  have full : (leaving s m).isPlain = false := quiet.not_plain
  rw [Arithmetic.valueOfText, bind_ok get_ok, full, reads]
  exact bind_ok (found m)

theorem valueOfText_numeral (quiet : Quiet s) (lead : String) (depth : Nat) {n : Nat} (small : n < 2 ^ 63) :
    Yields (Arithmetic.valueOfText lead (depth + 1) (toString n)) s (n : Int) := by
  have read := read_numeral (toString_numeral n) (toString_front n)
  rw [toString_value, String.ofList_toList, wrap_small (by omega) (by omega)] at read
  exact valueOfText_read quiet lead depth read fun _ => rfl

theorem calculate_numeral (quiet : Quiet s) (lead : String) {n : Nat} (small : n < 2 ^ 63) :
    Yields (Arithmetic.calculate lead (toString n)) s (n : Int) := valueOfText_numeral quiet lead 1023 small

theorem attempt_gives {t : Session} {lead text : String} {n : Int} (found : Gives (Arithmetic.calculate lead text) s n t) :
    Gives (Arithmetic.attempt lead text) s (some n) t := by
  intro m
  have done := map_ok (f := some) (found m)
  unfold Arithmetic.attempt
  refine (bind_ok (a := .ok (some n)) (t := leaving t m) (tryCatch_ok ?_)).trans rfl
  exact (bind_ok done).trans rfl

theorem attempt_numeral (quiet : Quiet s) (lead : String) {n : Nat} (small : n < 2 ^ 63) :
    Yields (Arithmetic.attempt lead (toString n)) s (some (n : Int)) :=
  attempt_gives (calculate_numeral quiet lead small)

end Numbers

theorem separators_like {s t : Session} (same : t.value? "IFS" = s.value? "IFS") :
    t.separators = s.separators := by
  unfold Session.separators
  rw [same]

section Loose

variable {E : Engine} {s : Session} {name : String} {value : Option String} {part : Part}

-- Without quotes the text of a part may be cut.
theorem values_loose {text : String} (values : Values E s part text) (other : ∀ t, part ≠ .text t)
    (mode : Tilde.Mode) : Yields (expandWord E false mode true [part]) s [.ofValue false text] := by
  intro m
  rw [expandWord]
  · rw [bind_ok (values false m), expandWord]
    rfl
  · exact fun t same => absurd same (other t)

theorem values_text {text : String} (values : Values E s part text) (other : ∀ t, part ≠ .text t) :
    Yields (Word.text E [part]) s text := by
  intro m
  unfold Word.text
  rw [bind_ok (values_loose values other .word m), pure_ok]
  simp [fragmentText, joinedText, Fragment.ofValue]

theorem plain_text (quiet : Quiet s) (stands : Stands s name value) :
    Yields (Word.text E [ref name]) s (value.getD "") :=
  values_text (plain_values quiet stands) nofun

theorem bare_text {word : String} (free : '~' ∉ word.toList) : Yields (Word.text E (bare word)) s word := by
  intro m
  unfold Word.text
  rw [bind_ok (bare_expand free E _), pure_ok]
  simp [fragmentText, joinedText]

theorem cutFields_whole {ifs : Separators} {text : List Char} (filled : text ≠ [])
    (whole : ∀ c ∈ text, c ∉ ifs.chars) :
    cutFields ifs [.loose text] = [text.map fun c => (c, false)] := by
  have kept : ∀ (rest : List Char) (field : List Marked), (∀ c ∈ rest, c ∉ ifs.chars) →
      (rest.foldl (Cutting.char ifs) ⟨[], some field, false⟩) =
        ⟨[], some (field ++ rest.map fun c => (c, false)), false⟩ := by
    intro rest
    induction rest with
    | nil => intro field _; simp
    | cons c rest more =>
      intro field whole
      have first := whole c (List.mem_cons_self ..)
      have step : Cutting.char ifs ⟨[], some field, false⟩ c = ⟨[], some (field ++ [(c, false)]), false⟩ := by
        simp [Cutting.char, Separators.isBlank, Separators.isMark, first, Cutting.add]
      rw [List.foldl_cons, step, more _ fun d member => whole d (List.mem_cons_of_mem _ member)]
      simp
  cases text with
  | nil => exact absurd rfl filled
  | cons c rest =>
    have first := whole c (List.mem_cons_self ..)
    have step : Cutting.char ifs {} c = ⟨[], some [(c, false)], false⟩ := by
      simp [Cutting.char, Separators.isBlank, Separators.isMark, first, Cutting.add]
    simp only [cutFields, List.foldl_cons, List.foldl_nil, Cutting.fragment, step]
    rw [kept rest _ fun d member => whole d (List.mem_cons_of_mem _ member)]
    simp [Cutting.fields]

theorem digit_tame {c : Char} (digit : c.isDigit = true) : isTame c = true := by
  unfold isTame
  rw [decide_eq_true_eq]
  intro listed
  have none_ : ∀ d ∈ ['~', '\x7b', '*', '?', '[', '+', '@', '!'], d.isDigit = false :=
    List.all_iff_forall_prop.mp (by decide)
  exact digit_ne digit (none_ c listed) rfl

-- A number makes one field, where digits are no separators.
theorem values_number {n : Nat} (values : Values E s part (toString n)) (other : ∀ t, part ≠ .text t)
    (uncut : ∀ c ∈ s.separators.chars, c.isDigit = false) :
    Yields (Word.fields E [part]) s [toString n] := by
  have numeral := toString_numeral n
  have whole : ∀ c ∈ (toString n).toList, c ∉ s.separators.chars := by
    intro c member listed
    have digit := numeral.digits c member
    rw [uncut c listed] at digit
    cases digit
  have unfolded : Word.unfolded [part] = [[part]] := by
    cases part with
    | text t => exact absurd rfl (other t)
    | _ => simp [Word.unfolded, Atom.ofWord, Atom.isChar]
  intro m
  have cut : cutFields (leaving s m).separators [.loose (toString n).toList] =
      [(toString n).toList.map fun c => (c, false)] := cutFields_whole numeral.filled whole
  rw [fields_of (w := [part]) unfolded (values_loose values other .word m) cut]
  · rw [List.map_cons, List.map_nil, plainText_marked, String.ofList_toList]
  · intro field member
    obtain rfl := List.mem_singleton.mp member
    unfold Session.matches?
    rw [tame_not_glob, Bool.not_false, Bool.or_true, if_pos rfl]
    intro c member
    exact digit_tame (numeral.digits c member)

theorem plain_number (quiet : Quiet s) {n : Nat} (stands : Stands s name (some (toString n)))
    (uncut : ∀ c ∈ s.separators.chars, c.isDigit = false) :
    Yields (Word.fields E [ref name]) s [toString n] := by
  have values : Values E s (.param name [] .plain) (toString n) :=
    @plain_values E s name (some (toString n)) quiet stands
  exact values_number values nofun uncut

end Loose

section Tests

variable {E : Engine} {s : Session}

-- What a condition does with its answer.
theorem answer_left {code : Nat} (quiet : Quiet s) (passes : Passes { s with status := code % 256 }) :
    ComesTo (do
      Run.setStatus code
      Run.keepPipe
      Run.check E) s (.ok () { s with status := code % 256 }) := by
  have calm : Quiet { s with status := code % 256 } := quiet
  intro m
  refine ⟨{ m with pipes := [code % 256] }, ?_⟩
  exact calm.check E passes { m with pipes := [code % 256] }

theorem test_gives {t : Test} {v : Verdict} {u : Session} (quiet : Quiet s) (held : Gives (t.holds E) s v u)
    (quietly : Quiet u) (passes : Passes { u with status := v.status % 256 }) :
    ComesTo ((Command.test t).run E) s (.ok () { u with status := v.status % 256 }) := by
  rw [run_test]
  exact (quiet.begins E _).bind (held.comesTo.bind (answer_left quietly passes))

theorem test_comesTo {t : Test} {v : Verdict} (quiet : Quiet s) (held : Yields (t.holds E) s v)
    (passes : Passes { s with status := v.status % 256 }) :
    ComesTo ((Command.test t).run E) s (.ok () { s with status := v.status % 256 }) :=
  test_gives quiet held quiet passes

theorem greater_holds (E : Engine) (left right : Word) :
    (Test.binary left "-gt" right).holds E = (do
      let a ← Word.text E left
      let b ← Word.text E right
      traceFull E fun _ => "[[ " ++ (if a.isEmpty then "''" else a) ++ " " ++ "-gt" ++ " " ++
        (if b.isEmpty then "''" else b) ++ " ]]"
      match ← Arithmetic.attempt "[[: " a with
      | none => return .no
      | some m =>
        match ← Arithmetic.attempt "[[: " b with
        | none => return .no
        | some n => return .ofBool (decide (n < m))) := by
  rw [Test.holds]
  rfl

-- Whether there are arguments left.
theorem hasArguments_holds (quiet : Quiet s) (few : s.args.length < 2 ^ 63) :
    Yields ((Test.binary [ref "#"] "-gt" (bare "0")).holds E) s
      (.ofBool (decide (0 < s.args.length))) := by
  intro m
  rw [greater_holds, bind_ok (plain_text quiet stands_count m), bind_ok (bare_text (by decide) m),
    bind_ok (quiet.traceFull E _ m)]
  simp only [Option.getD_some]
  rw [bind_ok (attempt_numeral quiet _ few m)]
  simp only
  have zero := attempt_numeral (n := 0) quiet "[[: " (by decide) m
  rw [show toString 0 = "0" from rfl] at zero
  rw [bind_ok zero]
  simp only [pure_ok]
  congr 2
  simp

end Tests

-- The word that asks a question is a pattern of file names, which fits itself alone.
section Bracket

variable {E : Engine} {s : Session}

theorem children_nodup {t : FileTree} (distinct : (t.entries.map (·.1)).Nodup) (place : Place) :
    (t.children place).Nodup := by
  unfold FileTree.children Text.sorted
  rw [(List.mergeSort_perm ..).nodup_iff, List.Nodup, List.pairwise_filterMap]
  refine (List.pairwise_map.mp distinct).imp ?_
  intro f g apart name found other there same
  subst same
  have named : ∀ h : Place × Entry,
      (if h.1.dropLast = place then h.1.getLast? else none) = some name → h.1 = place ++ [name] := by
    intro h found
    split at found
    · rename_i here
      rw [← here]
      exact (List.dropLast_append_getLast? name (Option.mem_def.mpr found)).symm
    · cases found
  exact apart ((named f found).trans (named g there).symm)

theorem only_one {α : Type} {a : α} {xs : List α} (distinct : xs.Nodup) (same : ∀ x ∈ xs, x = a) :
    xs = [] ∨ xs = [a] := by
  match xs with
  | [] => exact Or.inl rfl
  | [x] => exact Or.inr (by rw [same x (List.mem_singleton_self x)])
  | x :: y :: rest =>
    have first := same x (by simp)
    have second := same y (by simp)
    rw [first, second] at distinct
    simp at distinct

theorem bracket_paths (quiet : Quiet s) :
    s.matches? [('[', false)] = some [] ∨ s.matches? [('[', false)] = some ["["] := by
  have globbed : s.has .noglob = false := quiet.off (by decide)
  have cased : s.has .nocaseglob = false := quiet.off (by decide)
  have shallow : s.has .globstar = false := quiet.off (by decide)
  have pattern : ∀ groups, isGlob groups [('[', false)] = true := fun groups => rfl
  have read : ∀ groups, Pattern.ofMarked groups [('[', false)] = [.char '['] := by
    intro groups
    cases groups <;> rfl
  have named : ∀ name ∈ s.fittingNames s.here [('[', false)], name = "[" := by
    intro name member
    unfold Session.fittingNames at member
    rw [read, cased] at member
    have fits := (Bool.and_eq_true_iff.mp (List.mem_filter.mp member).2).1
    exact String.toList_inj.mp ((@plain_fits name.toList ['[']).mp fits)
  have shown : s.fittingPaths "" s.here [[('[', false)]] = s.fittingNames s.here [('[', false)] := by
    rw [Session.fittingPaths]
    simp only [Session.isDeep, shallow, Bool.false_and, pattern, Bool.false_eq_true, if_false, if_true]
    rw [show (fun x => "" ++ x) = id from funext fun x => String.empty_append, List.map_id]
  have single := @only_one String "["
    (Text.sorted ((s.fittingNames s.here [('[', false)]).filter fun path => !s.isIgnored path))
  unfold Text.sorted at single
  rw [(List.mergeSort_perm ..).nodup_iff] at single
  simp only [List.mem_mergeSort] at single
  have found : s.matches? [('[', false)] =
      some (Text.sorted ((s.fittingNames s.here [('[', false)]).filter fun path => !s.isIgnored path)) := by
    unfold Session.matches?
    rw [globbed, pattern]
    simp only [Bool.not_true, Bool.or_self, Bool.false_eq_true, if_false]
    rw [← shown]
    rfl
  have distinct : (s.fittingNames s.here [('[', false)]).Nodup :=
    (children_nodup quiet.distinct s.here).filter _
  rw [found]
  rcases single (distinct.filter _) (fun x member => named x (List.mem_filter.mp member).1) with none_ | one
  · exact Or.inl (congrArg some none_)
  · exact Or.inr (congrArg some one)

theorem bracket_word (quiet : Quiet s) : Yields (Word.fields E (bare "[")) s ["["] := by
  intro m
  have failing : (leaving s m).has .failglob = false := quiet.off (by decide)
  have vanishing : (leaving s m).has .nullglob = false := quiet.off (by decide)
  have cut : cutFields (leaving s m).separators [.plain "[".toList] = [[('[', false)]] := rfl
  have alone : Word.cutAndGlobbed E (bare "[") (leaving s m) = .ok ["["] (leaving s m) := by
    unfold Word.cutAndGlobbed
    rw [bind_ok (bare_expand (by decide) E _), bind_ok get_ok, cut, List.mapM_cons]
    rcases bracket_paths (s := leaving s m) quiet with none_ | one
    · rw [none_, failing, vanishing]
      rfl
    · rw [one]
      rfl
  exact fields_globbed rfl alone

variable {words : List Word} {fields : List String} (answer : Bool)

-- A question in words leaves the status that answers it.
theorem bracket_comesTo (quiet : Quiet s)
    (reads : Reads E s (words ++ [bare "]"]) (fields ++ ["]"]))
    (answered : ∀ m, Condition.ofWords (leaving s m) fields = .ok answer)
    (passes : Passes { s with status := if answer then 0 else 1 }) :
    ComesTo ((bracket words).run E) s (.ok () { s with status := if answer then 0 else 1 }) := by
  have asked : Reads E s (bare "[" :: words ++ [bare "]"]) ("[" :: (fields ++ ["]"])) :=
    reads_cons ["["] (by rintro a ⟨⟩) (bracket_word quiet) reads
  refine builtin_ok Builtin.bracket quiet asked (by decide) rfl (by decide) ?_ quiet rfl
    passes
  intro m
  refine ⟨m, ?_⟩
  have full : (leaving s m).isPlain = false := quiet.not_plain
  unfold Builtin.bracket
  rw [List.getLast?_concat, List.dropLast_concat, if_pos (by decide)]
  unfold Builtin.answer
  rw [bind_ok get_ok, full]
  simp only [Bool.false_eq_true, if_false]
  rw [answered m]
  cases answer <;> rfl

end Bracket

section Asked

variable {E : Engine} {s : Session} {name : String} {value : Option String}

theorem presence_asked (stands : Stands s name value) (op : String)
    (tame : op.toList.all isTame = true) (filled : op ≠ "") :
    Reads E s ([bare op, [.double [presence name]]] ++ [bare "]"])
      ([op, if value.isSome then "x" else ""] ++ ["]"]) :=
  reads_bare op tame filled (reads_double _ (double_fields (presence_spells stands))
    (reads_bare "]" (by decide) (by decide) reads_nil))

-- Whether a variable is set.
theorem isSet_comesTo (quiet : Quiet s) (own : isOwn name = true) (plain : Ordinarily s name)
    (sheltered : s.shielded = true) :
    ComesTo ((isSet name).run E) s
      (.ok () { s with status := if (s.value? name).isSome then 0 else 1 }) := by
  refine bracket_comesTo (s.value? name).isSome quiet
    (presence_asked (stands_own own plain) "-n" (by decide) (by decide)) ?_
    (Or.inr (Or.inl sheltered))
  intro m
  cases s.value? name <;> rfl

theorem isUnset_comesTo (quiet : Quiet s) (own : isOwn name = true) (plain : Ordinarily s name)
    (sheltered : s.shielded = true) :
    ComesTo ((isUnset name).run E) s
      (.ok () { s with status := if (s.value? name).isNone then 0 else 1 }) := by
  refine bracket_comesTo (s.value? name).isNone quiet
    (presence_asked (stands_own own plain) "-z" (by decide) (by decide)) ?_
    (Or.inr (Or.inl sheltered))
  intro m
  cases s.value? name <;> rfl

-- Whether there are fewer arguments than a number.
theorem fewer_comesTo {n : Nat} (quiet : Quiet s) (uncut : ∀ c ∈ s.separators.chars, c.isDigit = false)
    (few : s.args.length < 2 ^ 63) (small : n < 2 ^ 63) (sheltered : s.shielded = true) :
    ComesTo ((bracket [[ref "#"], bare "-lt", bare (toString n)]).run E) s
      (.ok () { s with status := if s.args.length < n then 0 else 1 }) := by
  have tame : (toString n).toList.all isTame = true := by
    rw [List.all_eq_true]
    exact fun c member => digit_tame ((toString_numeral n).digits c member)
  have filled : toString n ≠ "" := fun empty => (toString_numeral n).filled (by rw [empty]; rfl)
  have reads : Reads E s ([[ref "#"], bare "-lt", bare (toString n)] ++ [bare "]"])
      ([toString s.args.length, "-lt", toString n] ++ ["]"]) :=
    reads_cons [toString s.args.length] (by rintro a ⟨⟩) (plain_number quiet stands_count uncut)
      (reads_bare "-lt" (by decide) (by decide) (reads_bare _ tame filled
        (reads_bare "]" (by decide) (by decide) reads_nil)))
  have answered := bracket_comesTo (decide (s.args.length < n)) quiet reads ?_
    (Or.inr (Or.inl sheltered))
  · simpa using answered
  · intro m
    change Condition.binary (leaving s m) (toString s.args.length) "-lt" (toString n) = _
    unfold Condition.binary Condition.integer
    rw [word_toString few, word_toString small]
    simp [Condition.numeric?, bind, Except.bind, pure, Except.pure]

end Asked

end Toolwrap.Running
