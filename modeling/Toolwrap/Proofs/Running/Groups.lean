import Toolwrap.Proofs.Running.Locals
import Toolwrap.Proofs.Running.Patterns
import Toolwrap.Proofs.Running.Questions

-- Conditions that match a text with a pattern or a regular expression, and the texts that the
-- groups of an expression matched, which are kept as the items of an array.

namespace Toolwrap.Running

open Shell

section Matching

variable {E : Engine} {s : Session} {name pattern subject : String} {left : List Part} {e : Expression}

-- The array of what was matched, which is empty without a match.
def rematch (s : Session) (found : Option (List (List Char))) : Session :=
  s.setContent "BASH_REMATCH" (numberedItems ((found.getD []).map String.ofList))

section Remembered

variable {c : Session} {marks : String → Bool} {held : Held} {status : Nat} {x : String}
  {found : Option (List (List Char))}

theorem rematch_within (absent : held.lookup "BASH_REMATCH" = none) (filled : c.scopes ≠ []) :
    rematch (within c marks held status) found = within (rematch c found) marks held status := by
  have same : (within c marks held status).variableD "BASH_REMATCH" = c.variableD "BASH_REMATCH" := by
    unfold Session.variableD
    rw [within_absent absent]
    rfl
  unfold rematch Session.setContent
  rw [same, within_put_outside absent filled]

theorem rematch_other (other : x ≠ "BASH_REMATCH") : (rematch c found).find? x = c.find? x := by
  unfold rematch Session.setContent
  rw [find_put, if_neg other]

theorem rematch_ordinarily (plain : Ordinarily c x) : Ordinarily (rematch c found) x := by
  intro v there
  unfold rematch Session.setContent at there
  rw [find_put] at there
  split at there
  · rename_i same
    subst same
    obtain rfl := Option.some.inj there
    exact { variableD_ordinary plain with }
  · exact plain v there

end Remembered

-- The characters of a pattern, which is the value of a variable or stands there itself.
theorem value_marked (quiet : Quiet s) (stands : Stands s name (some pattern)) :
    Yields (Word.marked E [ref name]) s (pattern.toList.map fun c => (c, false)) := by
  intro m
  have loose := @values_loose E s (ref name) pattern (@plain_values E s name (some pattern) quiet stands) nofun .word m
  unfold Word.marked
  rw [bind_ok loose]
  simp [markedText, Fragment.ofValue, pure_ok]

theorem bare_marked (free : '~' ∉ pattern.toList) :
    Yields (Word.marked E (bare pattern)) s (pattern.toList.map fun c => (c, false)) := by
  intro m
  unfold Word.marked
  rw [bind_ok (bare_expand free E _), pure_ok]
  simp [markedText]

variable {right : Word}

theorem match_holds (quiet : Quiet s) (spelled : Spells E s left subject)
    (marks : Yields (Word.marked E right) s (pattern.toList.map fun c => (c, false)))
    (read : Regex.ofMarked? (pattern.toList.map fun c => (c, false)) = some e) :
    Gives ((Test.binary [.double left] "=~" right).holds E) s (.ofBool (e.matched? false subject.toList).isSome)
      (rematch s (e.matched? false subject.toList)) := by
  intro m
  have strict : (leaving s m).has .nocasematch = false := quiet.off (by decide)
  have asked : matchRegex subject (pattern.toList.map fun c => (c, false)) (leaving s m) =
      .ok (.ofBool (e.matched? false subject.toList).isSome) (leaving (rematch s (e.matched? false subject.toList)) m) := by
    unfold matchRegex
    simp only [read]
    rw [bind_ok get_ok, strict, bind_ok (modify_ok _)]
    rfl
  rw [Test.holds, bind_ok (double_text spelled m)]
  refine (bind_ok ((bind_ok (marks m)).trans ?_)).trans asked
  exact bind_ok (quiet.traceFull E _ m)

-- Whether a text misses an expression, as a condition asks for it.
theorem misses_comesTo (quiet : Quiet s) (sheltered : s.shielded = true) (spelled : Spells E s left subject)
    (marks : Yields (Word.marked E right) s (pattern.toList.map fun c => (c, false)))
    (read : Regex.ofMarked? (pattern.toList.map fun c => (c, false)) = some e) :
    ComesTo ((Command.test (.not (.binary [.double left] "=~" right))).run E) s
      (.ok () { rematch s (e.matched? false subject.toList) with
        status := if (e.matched? false subject.toList).isSome then 1 else 0 }) := by
  let found := e.matched? false subject.toList
  have holds := match_holds quiet spelled marks read
  have misses : Gives ((Test.not (.binary [.double left] "=~" right)).holds E) s (.ofBool !found.isSome)
      (rematch s found) := by
    intro m
    rw [Test.holds, bind_ok (holds m)]
    cases found.isSome <;> rfl
  have asked := test_gives quiet misses quiet (Or.inr (Or.inl sheltered))
  have code : (Verdict.ofBool !found.isSome).status % 256 = if found.isSome then 1 else 0 := by
    cases found.isSome <;> rfl
  rwa [code] at asked

theorem numbered_lookup (xs : List String) (n : Nat) : ((List.range xs.length).zip xs).lookup n = xs[n]? := by
  have shifted : ∀ (k n : Nat), ((List.range' k xs.length).zip xs).lookup (k + n) = xs[n]? := by
    induction xs with
    | nil => exact fun _ _ => rfl
    | cons x xs found =>
      intro k n
      rw [List.length_cons, List.range'_succ, List.zip_cons_cons]
      cases n with
      | zero => simp
      | succ n =>
        have shape : k + (n + 1) = k + 1 + n := by omega
        have other : (k + 1 + n == k) = false := beq_eq_false_iff_ne.mpr (by omega)
        rw [shape, List.lookup_cons, other]
        exact found (k + 1) n
  have whole := shifted 0 n
  rwa [Nat.zero_add, ← List.range_eq_range'] at whole

-- What a group of the last match matched.
theorem matched_values {v : Variable} {xs : List (Nat × String)} {n : Nat} {text i : String} (quiet : Quiet s)
    (there : s.find? "BASH_REMATCH" = some v) (plain : Ordinary v) (items : v.content = .items xs)
    (found : xs.lookup n = some text) (small : n < 2 ^ 63) (index : i = toString n) (one : i ≠ "@") (other : i ≠ "*") :
    Values E s (.param "BASH_REMATCH" [.text i] .braced) text := by
  obtain ⟨pieces, ran, _, joined⟩ := spells_text (E := E) (s := s) i
  intro quoted m
  have key : fragmentText (pieces.map .kept) = i := fragmentText_kept joined
  have computed := calculate_numeral (s := s) quiet "" small m
  rw [← index] at computed
  have ordinarily : Ordinarily (leaving s m) "BASH_REMATCH" := by
    intro w stood
    obtain rfl := Option.some.inj (there.symm.trans stood)
    exact plain
  have contents : (leaving s m).contentOf "BASH_REMATCH" = .items xs := by
    have inside : (leaving s m).find? "BASH_REMATCH" = some v := there
    rw [contentOf_own (by decide) ordinarily, inside]
    exact items
  have place : Session.indexIn? xs n = some n := by
    have natural : ¬ (n : Int) < 0 := by omega
    simp [Session.indexIn?, natural]
  have value : (Arithmetic.Spot.item "BASH_REMATCH" n).value? (leaving s m) = some text := by
    rw [Arithmetic.Spot.value?, contents]
    exact found
  rw [Part.expand]
  · rw [bind_ok (ran m)]
    simp only [key]
    rw [bind_ok get_ok]
    simp only [contents]
    rw [bind_ok computed]
    simp only [Content.list, place]
    have subject : ∀ label, (leaving s m).subject ⟨"BASH_REMATCH", .spot (.item "BASH_REMATCH" n), label⟩ =
        .one (some text) := fun label => congrArg Subject.one value
    rw [pure_bind, Op.expand, bind_ok get_ok, subject, bind_ok (needSet_yields quiet _ _ m)]
    rfl
  · rintro ⟨⟩
  · rintro ⟨⟩
    exact one rfl
  · rintro ⟨⟩
    exact other rfl

end Matching

section Fitting

variable {E : Engine} {s : Session} {subject pattern : String} {left : List Part}

-- Whether a text fits a pattern, between double brackets.
theorem fits_holds (quiet : Quiet s) (spelled : Spells E s left subject) (free : '~' ∉ pattern.toList) :
    Yields ((Test.binary [.double left] "==" (bare pattern)).holds E) s (.ofBool (bareFits pattern subject)) := by
  intro m
  have strict : (leaving s m).has .nocasematch = false := quiet.off (by decide)
  rw [Test.holds, bind_ok (double_text spelled m)]
  refine bind_ok ((bind_ok get_ok).trans ((bind_ok ((bind_ok (bare_marked free m)).trans (bind_ok (quiet.traceFull E _ m)))).trans ?_))
  rw [strict]
  rfl

end Fitting

end Toolwrap.Running
