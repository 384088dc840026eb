import Toolwrap.Proofs.Running.Pieces
import Toolwrap.Proofs.Running.Questions
import Toolwrap.Proofs.Running.Reporting

-- Comparisons: of two texts or of two numbers, as questions in words and between double
-- brackets, and of the status that the last command left.

namespace Toolwrap.Running

open Shell

section Values

variable {E : Engine} {s : Session} {name text : String} {part : Part}

-- The number of characters of a value.
theorem length_values (quiet : Quiet s) (stands : Stands s name (some text)) :
    Values E s (.param name [] .length) (toString text.length) := by
  intro quoted m
  rw [param_whole, Op.expand, bind_ok get_ok, subject_one stands, bind_ok (needSet_yields quiet _ _ m)]
  rfl

theorem stands_status : Stands s "?" (some (toString s.status)) := ⟨⟨by decide, by decide⟩, fun _ => rfl⟩

theorem values_valueText (values : Values E s part text) (other : ∀ t, part ≠ .text t) :
    Yields (Word.valueText E [part]) s text := by
  intro m
  unfold Word.valueText
  rw [bind_ok (values_loose values other .value m), pure_ok]
  simp [fragmentText, joinedText, Fragment.ofValue]

-- The status of the last command, as an assignment takes it.
theorem status_valueText (quiet : Quiet s) : Yields (Word.valueText E [ref "?"]) s (toString s.status) := by
  have values : Values E s (.param "?" [] .plain) (toString s.status) :=
    @plain_values E s "?" (some (toString s.status)) quiet stands_status
  exact values_valueText values nofun

section Plain

variable {word : String}

-- Text of the program as a value, where no tilde and no colon is in it.
theorem plain_valueText (free : '~' ∉ word.toList) (whole : ':' ∉ word.toList) :
    Yields (Word.valueText E (bare word)) s word := by
  intro m
  have front : Tilde.front (leaving s m) true true word.toList = [(false, word.toList)] := by
    unfold Tilde.front
    split
    · rename_i rest shape
      exact absurd (shape ▸ List.mem_cons_self ..) free
    · rfl
  have pieces : Tilde.pieces (leaving s m) .value true true word.toList = [(false, word.toList)] := by
    simp only [Tilde.pieces, Tilde.valueText, splitAt_absent whole]
    exact congrArg (· ++ []) front
  have expanded : expandWord E false .value true (bare word) (leaving s m) = .ok [.plain word.toList] (leaving s m) := by
    unfold bare
    rw [expandWord]
    simp only
    rw [bind_ok get_ok, List.isEmpty_nil, pieces, bind_ok pure_ok, expandWord, bind_ok pure_ok]
    rfl
  unfold Word.valueText
  rw [bind_ok expanded, pure_ok]
  simp [fragmentText, joinedText]

end Plain

end Values

section Words

theorem tame_word {E : Engine} {s : Session} (word : String) (tame : word.toList.all isTame = true)
    (filled : word ≠ "") : Yields (Word.fields E (bare word)) s [word] :=
  fun m => bare_fields (List.all_eq_true.mp tame) (by simpa using filled) E (leaving s m)

variable {E : Engine} {s : Session} {left right : Word} {op a b : String} (quiet : Quiet s)
  (named : Yields (Word.fields E (bare op)) s [op]) (first : Yields (Word.fields E left) s [a])
  (other : ∀ x, left ≠ [.assign x]) (second : Yields (Word.fields E right) s [b])
  (another : ∀ x, right ≠ [.assign x])

include quiet named first other second another

-- A question that compares what two words come to.
theorem compared_comesTo (answer : Bool) (compares : Condition.isBinaryOp op = true)
    (answered : ∀ m, Condition.binary (leaving s m) a op b = .ok answer)
    (passes : Passes { s with status := if answer then 0 else 1 }) :
    ComesTo ((bracket [left, bare op, right]).run E) s
      (.ok () { s with status := if answer then 0 else 1 }) := by
  have reads : Reads E s ([left, bare op, right] ++ [bare "]"]) ([a, op, b] ++ ["]"]) :=
    reads_cons [a] other first (reads_cons [op] (by rintro x ⟨⟩) named
      (reads_cons [b] another second (reads_bare "]" (by decide) (by decide) reads_nil)))
  refine bracket_comesTo answer quiet reads (fun m => ?_) passes
  change Condition.three (leaving s m) a op b = _
  unfold Condition.three
  rw [if_pos compares, answered m]

theorem texts_compared {holds : String → String → Bool} (textual : Condition.textual? op = some holds)
    (numeric : Condition.numeric? op = none)
    (passes : Passes { s with status := if holds a b then 0 else 1 }) :
    ComesTo ((bracket [left, bare op, right]).run E) s
      (.ok () { s with status := if holds a b then 0 else 1 }) := by
  refine compared_comesTo quiet named first other second another (holds a b) ?_ (fun m => ?_) passes
  · unfold Condition.isBinaryOp
    rw [textual, Option.isSome_some, Bool.or_true]
  · unfold Condition.binary
    rw [textual, numeric]

theorem numbers_compared {holds : Int → Int → Bool} {m n : Nat} (numeric : Condition.numeric? op = some holds)
    (low : a = toString m) (high : b = toString n) (small : m < 2 ^ 63) (also : n < 2 ^ 63)
    (passes : Passes { s with status := if holds m n then 0 else 1 }) :
    ComesTo ((bracket [left, bare op, right]).run E) s
      (.ok () { s with status := if holds m n then 0 else 1 }) := by
  refine compared_comesTo quiet named first other second another (holds m n) ?_ (fun k => ?_) passes
  · unfold Condition.isBinaryOp
    rw [numeric, Option.isSome_some, Bool.true_or, Bool.true_or]
  · unfold Condition.binary Condition.integer
    rw [numeric, low, high, word_toString small, word_toString also]
    rfl

end Words

section Others

variable {E : Engine} {s : Session} {left right : List Part} {a b : String}

theorem double_other (parts : List Part) : ∀ x, ([.double parts] : Word) ≠ [.assign x] := by
  rintro x ⟨⟩

theorem param_other (name : String) (index : List Part) (op : Op) :
    ∀ x, ([.param name index op] : Word) ≠ [.assign x] := by
  rintro x ⟨⟩

-- Whether a text is empty.
theorem empty_comesTo (quiet : Quiet s) (spelled : Spells E s left a)
    (passes : Passes { s with status := if a.isEmpty then 0 else 1 }) :
    ComesTo ((bracket [bare "-z", [.double left]]).run E) s
      (.ok () { s with status := if a.isEmpty then 0 else 1 }) := by
  have reads : Reads E s ([bare "-z", [.double left]] ++ [bare "]"]) (["-z", a] ++ ["]"]) :=
    reads_bare "-z" (by decide) (by decide) (reads_double [a] (double_fields spelled)
      (reads_bare "]" (by decide) (by decide) reads_nil))
  exact bracket_comesTo a.isEmpty quiet reads (fun m => rfl) passes

-- Which of two texts comes first, between double brackets.
theorem before_holds (quiet : Quiet s) (first : Spells E s left a) (second : Spells E s right b) :
    Yields ((Test.binary [.double left] "<" [.double right]).holds E) s (.ofBool (decide (a < b))) := by
  have opened : (Test.binary [.double left] "<" [.double right]).holds E = (do
      let a ← Word.text E [.double left]
      let b ← Word.text E [.double right]
      traceFull E fun _ => "[[ " ++ (if a.isEmpty then "''" else a) ++ " " ++ "<" ++ " " ++
        (if b.isEmpty then "''" else b) ++ " ]]"
      return .ofBool (decide (a < b))) := by
    rw [Test.holds]
    rfl
  intro m
  rw [opened, bind_ok (double_text first m), bind_ok (double_text second m), bind_ok (quiet.traceFull E _ m)]
  rfl

end Others

-- A condition of one command that leaves the status that answers it.
section Asking

theorem test_asked {E : Engine} {s : Session} {t : Test} {p : Prop} [Decidable p] (quiet : Quiet s)
    (held : Yields (t.holds E) { s with shielded := true } (.ofBool (decide p))) :
    ComesTo ((Command.test t).run E) { s with shielded := true }
      (.ok () { s with shielded := true, status := if p then 0 else 1 }) := by
  have sheltered : Quiet { s with shielded := true } := quiet
  have asked := test_comesTo sheltered held (Or.inr (Or.inl rfl))
  have code : (Verdict.ofBool (decide p)).status % 256 = if p then 0 else 1 := by
    by_cases holds : p
    · rw [decide_eq_true holds, if_pos holds]
      rfl
    · rw [decide_eq_false holds, if_neg holds]
      rfl
  rwa [code] at asked

variable {E : Engine} {s : Session} {cond : Command} {body orelse : Script} {r : Ending Unit} {p : Prop}
  [Decidable p] (line : Nat) (quiet : Quiet s)
  (asked : ComesTo (cond.run E) { s with shielded := true }
    (.ok () { s with shielded := true, status := if p then 0 else 1 }))

include quiet asked

theorem when_holds (holds : p) (then_ : ComesTo (runScript E body) { s with status := 0 } r) :
    ComesTo ((Command.ifThen [.located line cond] body orelse).run E) s r := by
  have calm : Quiet { s with shielded := true } := quiet
  refine if_holds (script_one calm (located_comesTo line asked)) (if_pos holds) ?_
  rwa [if_pos holds]

theorem when_fails (fails : ¬ p)
    (else_ : ComesTo (runScript E orelse) { s with status := if orelse.isEmpty then 0 else 1 } r) :
    ComesTo ((Command.ifThen [.located line cond] body orelse).run E) s r := by
  have calm : Quiet { s with shielded := true } := quiet
  refine if_fails (script_one calm (located_comesTo line asked)) ?_ ?_
  · rw [if_neg fails]
    exact Nat.one_ne_zero
  · rwa [if_neg fails]

theorem when_skips (body : Script) (fails : ¬ p) :
    ComesTo ((Command.ifThen [.located line cond] body []).run E) s (.ok () { s with status := 0 }) :=
  when_fails line quiet asked fails script_nil

end Asking

end Toolwrap.Running
