import Toolwrap.Proofs.Integers.Digits
import Toolwrap.Proofs.Running.Bindings
import Toolwrap.Proofs.Running.Comparing
import Toolwrap.Proofs.Running.Trees
import Toolwrap.Proofs.Running.Trimming
import Toolwrap.Shell.Phrases
import Toolwrap.Wrapper.Functions

-- The function that tells which of two integers is less, as it is read from its text, and what it
-- comes to: signs are taken off first and zeros after them, and what is left is compared by length
-- and digits.

namespace Toolwrap.Integers

open Shell Running

def signClause (mark : String) (body : Script) : Clause := .branch [bare (mark ++ "*")] body .leave

def unmarked (x mark : String) : Command := assignQuoted x [.param x [] (.trim false false (bare mark))]

-- `case "$x" in -*) sign=-; x="${x#-}" ;; +*) x="${x#+}" ;; esac`
def signCase (x sign : String) (line : Nat) : Command :=
  .caseOf (quotedRef x)
    [signClause "-" [.located line (assign sign (bare "-")), .located line (unmarked x "-")],
     signClause "+" [.located line (unmarked x "+")]]

-- `x="${x#"${x%%[!0]*}"}"`
def zerosOff (x : String) : Command :=
  assignQuoted x [.param x [] (.trim false false [.double [.param x [] (.trim true true (bare "[!0]*"))]])]

-- `if [ -z "$x" ]; then sign=+; fi`
def zeroUnsigned (x sign : String) (line : Nat) : Command :=
  .ifThen [.located line (bracket [bare "-z", quotedRef x])] [.located line (assign sign (bare "+"))] []

def sizeWord (x : String) : Word := [.param x [] .length]

def isNegative (sign : String) : Command := bracket [quotedRef sign, bare "=", [.double [.text "-"]]]

def lessLines (n : Nat) : Script := [
  .located (n + 1) (run [bare "local", [.text "a=", .double [ref "1"]], [.text "b=", .double [ref "2"]],
    bare "sa=+", bare "sb=+", bare "lt"]),
  .located (n + 2) (signCase "a" "sa" (n + 2)),
  .located (n + 3) (signCase "b" "sb" (n + 3)),
  .located (n + 5) (zerosOff "a"),
  .located (n + 6) (zerosOff "b"),
  .located (n + 7) (zeroUnsigned "a" "sa" (n + 7)),
  .located (n + 8) (zeroUnsigned "b" "sb" (n + 8)),
  .located (n + 9) (.ifThen [.located (n + 9) (bracket [quotedRef "sa", bare "!=", quotedRef "sb"])]
    [.located (n + 10) (isNegative "sa"), .located (n + 11) (say ["return"])] []),
  .located (n + 13) (.ifThen [.located (n + 13) (bracket [quotedRef "a", bare "=", quotedRef "b"])]
    [.located (n + 14) (say ["return", "1"])] []),
  .located (n + 16) (.ifThen [.located (n + 16) (bracket [sizeWord "a", bare "-ne", sizeWord "b"])]
    [.located (n + 17) (bracket [sizeWord "a", bare "-lt", sizeWord "b"]),
     .located (n + 18) (assign "lt" [ref "?"])]
    [.located (n + 20) (.test (.binary (quotedRef "a") "<" (quotedRef "b"))),
     .located (n + 21) (assign "lt" [ref "?"])]),
  .located (n + 23) (.ifThen [.located (n + 23) (isNegative "sa")]
    [.located (n + 24) (bracket [[ref "lt"], bare "-ne", bare "0"]), .located (n + 25) (say ["return"])] []),
  .located (n + 27) (run [bare "return", [ref "lt"]])]

def lessBody (n : Nat) : Command := .located n (.group (lessLines n))

set_option maxRecDepth 100000 in
theorem less_read : (Program.read false (Text.unlines Wrapper.Functions.integerLess)).script =
    [.located 5 (.function "bw_integer_less" (lessBody 5))] := by
  apply script_read
  case chars =>
    apply unlines_chars
    dsimp only [Wrapper.Functions.integerLess]
    repeat' with_reducible first
      | exact .nil
      | apply List.Forall₂.cons
      | exact String.toList_ofList
  case open_ => decide
  case same => decide +kernel

theorem less_provided {s : Session} (provides : Provides s Wrapper.Functions.integerLess) :
    ∃ f n, s.functions.lookup "bw_integer_less" = some f ∧ f.body = lessBody n := by
  obtain ⟨n, all⟩ := provides
  rw [less_read] at all
  obtain ⟨f, found, body⟩ := all _ _ _ (List.mem_singleton_self _)
  exact ⟨f, n + 5, found, body⟩

section Signs

-- The sign that a text begins with, and what is behind it.
def signText (v : String) : String := if v.toList.head? = some '-' then "-" else "+"

def behindSign (v : List Char) : List Char :=
  match v with
  | '-' :: rest => rest
  | '+' :: rest => rest
  | v => v

theorem behindSign_other {v : List Char} (negative : v.head? ≠ some '-') (positive : v.head? ≠ some '+') :
    behindSign v = v := by
  unfold behindSign
  split
  · exact absurd rfl negative
  · exact absurd rfl positive
  · rfl

def unsigned (v : String) : String := String.ofList (behindSign v.toList)

variable {E : Engine} {c : Session} {marks : String → Bool} {held : Held} {status line : Nat}
  {x sign v : String} {mark : Char}

theorem led_fits {s : List Char} : Pattern.fits false [.char mark, .star] s = true ↔ s.head? = some mark := by
  have reaches := @reaches_plain s [mark] [.star] 0 s.length
  rw [fits_iff rfl]
  refine reaches.trans ?_
  rw [List.drop_zero, List.singleton_prefix_iff_head?_eq_some]
  constructor
  · exact fun both => both.1
  · intro first
    refine ⟨first, s.length, ⟨?_, Nat.le_refl _⟩, rfl⟩
    cases s with
    | nil => cases first
    | cons d s => simp

theorem lookup_kept {y : String} {k : Content} : (kept held x k).lookup y = if y = x then some k else held.lookup y := by
  induction held with
  | nil => rw [kept, lookup_first]
  | cons d held found =>
    obtain ⟨z, j⟩ := d
    rw [kept]
    by_cases same : z = x
    · rw [if_pos same, lookup_first, lookup_first, same]
      split <;> rfl
    · rw [if_neg same, lookup_first, lookup_first, found]
      by_cases here : y = z
      · rw [if_pos here, if_pos here, if_neg (here ▸ same)]
      · rw [if_neg here, if_neg here]

theorem kept_same {k : Content} (there : held.lookup x = some k) : kept held x k = held := by
  induction held with
  | nil => cases there
  | cons d held kept_ =>
    obtain ⟨z, j⟩ := d
    rw [lookup_first] at there
    rw [kept]
    by_cases same : x = z
    · rw [if_pos same] at there
      rw [if_pos same.symm, same, Option.some.inj there]
    · rw [if_neg same] at there
      rw [if_neg (Ne.symm same), kept_ there]

-- A mark is taken off the front.
theorem unmarked_comesTo (quiet : Quiet c) (own : isOwn x = true) {rest : List Char}
    (read : Pattern.ofMarked true [(mark, false)] = [.char mark]) (free : mark ≠ '~')
    (there : held.lookup x = some (.text v)) (marked : v.toList = mark :: rest) :
    ComesTo ((unmarked x (String.singleton mark)).run E) (within c marks held status)
      (.ok () (within c marks (kept held x (.text (String.ofList rest))) 0)) := by
  have calm : Quiet (within c marks held status) := quiet
  have spelled := @trim_spells E _ x (String.singleton mark) v calm (within_stands own there)
    (by simpa using free.symm) false false
  have trimmed : bareTrim false false (String.singleton mark) v = String.ofList rest := by
    unfold bareTrim
    rw [marked, String.toList_singleton, List.map_singleton, read, Pattern.trim, if_neg Bool.false_ne_true]
    exact congrArg _ (@trim_front [mark] rest)
  rw [trimmed] at spelled
  exact assign_within quiet own there rfl (double_valueText spelled)

-- A number is taken apart: its sign, and the digits behind it.
theorem sign_comesTo (quiet : Quiet c) (own : isOwn x = true) (signed : isOwn sign = true)
    (there : held.lookup x = some (.text v)) (plus : held.lookup sign = some (.text "+")) (apart : x ≠ sign) :
    ComesTo ((signCase x sign line).run E) (within c marks held status)
      (.ok () (within c marks (kept (kept held sign (.text (signText v))) x (.text (unsigned v))) 0)) := by
  have calm : Quiet (within c marks held status) := quiet
  have subject := double_text (plain_spells (E := E) calm (within_stands own there))
  refine case_comesTo calm subject ?_
  have minus : bareFits "-*" v = decide (v.toList.head? = some '-') := by
    rw [Bool.eq_iff_iff, decide_eq_true_eq]
    exact led_fits
  have plusses : bareFits "+*" v = decide (v.toList.head? = some '+') := by
    rw [Bool.eq_iff_iff, decide_eq_true_eq]
    exact led_fits
  have first := @fitsAny_bare E _ calm ["-*"] v (by decide)
  have second := @fitsAny_bare E _ calm ["+*"] v (by decide)
  rw [List.any_cons, List.any_nil, Bool.or_false, minus] at first
  rw [List.any_cons, List.any_nil, Bool.or_false, plusses] at second
  by_cases negative : v.toList.head? = some '-'
  · obtain ⟨rest, shape⟩ := List.head?_eq_some_iff.mp negative
    have inside : (kept held sign (.text "-")).lookup x = some (.text v) := by
      rw [lookup_kept, if_neg apart, there]
    have result : unsigned v = String.ofList rest := by rw [unsigned, shape, behindSign]
    have still : Quiet (within c marks (kept held sign (.text "-")) 0) := quiet
    rw [decide_eq_true negative] at first
    rw [signText, if_pos negative, result]
    refine branch_taken first (by simp) (script_cons calm (located_comesTo line ?_)
      (script_one still (located_comesTo line (unmarked_comesTo quiet own rfl (by decide) inside shape))))
    exact assign_within quiet signed plus rfl fun _ => rfl
  · rw [decide_eq_false negative] at first
    rw [signText, if_neg negative, kept_same plus]
    by_cases positive : v.toList.head? = some '+'
    · obtain ⟨rest, shape⟩ := List.head?_eq_some_iff.mp positive
      have result : unsigned v = String.ofList rest := by rw [unsigned, shape, behindSign]
      rw [decide_eq_true positive] at second
      rw [result]
      refine branch_skipped first (branch_taken second (by simp) (script_one calm (located_comesTo line ?_)))
      exact unmarked_comesTo quiet own rfl (by decide) there shape
    · rw [decide_eq_false positive] at second
      have result : unsigned v = v := by
        rw [unsigned, behindSign_other negative positive, String.ofList_toList]
      rw [result, kept_same there]
      refine branch_skipped first (branch_skipped second ?_)
      rw [runClauses_nil]
      exact fun m => ⟨m, rfl⟩

end Signs

section Zeros

def isZero (c : Char) : Bool := c == '0'

-- What is left of digits without the zeros in front.
def stripped (v : String) : String := String.ofList (v.toList.dropWhile isZero)

variable {E : Engine} {c : Session} {marks : String → Bool} {held : Held} {status line : Nat}
  {x sign v : String}

theorem zeros_front (v : String) : bareTrim true true "[!0]*" v = String.ofList (v.toList.takeWhile isZero) := by
  have read : Pattern.ofMarked true ("[!0]*".toList.map fun c => (c, false)) =
      [.bracket true [.range '0' '0'], .star] := rfl
  have split := List.takeWhile_append_dropWhile (p := isZero) (l := v.toList)
  have cut := @trim_from_other (v.toList.takeWhile isZero) (v.toList.dropWhile isZero) '0'
    (fun d member => beq_iff_eq.mp (List.all_eq_true.mp List.all_takeWhile d member)) (by
      intro d first same
      have other := List.head?_dropWhile_not isZero v.toList
      rw [Option.mem_def.mp first, same] at other
      cases other)
  rw [split] at cut
  rw [bareTrim, read, Pattern.trim, if_pos rfl, cut]

theorem zerosOff_comesTo (quiet : Quiet c) (own : isOwn x = true) (there : held.lookup x = some (.text v)) :
    ComesTo ((zerosOff x).run E) (within c marks held status)
      (.ok () (within c marks (kept held x (.text (stripped v))) 0)) := by
  have calm : Quiet (within c marks held status) := quiet
  have stands : Stands (within c marks held status) x (some v) := within_stands own there
  have inner := @trim_spells E _ x "[!0]*" v calm stands (by decide) true true
  rw [zeros_front] at inner
  have parts : v = String.ofList (v.toList.takeWhile isZero) ++ stripped v := by
    rw [stripped, ← String.ofList_append, List.takeWhile_append_dropWhile, String.ofList_toList]
  rw [parts] at stands
  exact assign_within quiet own there rfl (double_valueText (front_spells calm stands inner))

-- Zero has no sign.
theorem zeroUnsigned_comesTo (quiet : Quiet c) (own : isOwn x = true) (signed : isOwn sign = true)
    (there : held.lookup x = some (.text v)) {s : String} (also : held.lookup sign = some (.text s)) :
    ComesTo ((zeroUnsigned x sign line).run E) (within c marks held status)
      (.ok () (within c marks (kept held sign (.text (if v.isEmpty then "+" else s))) 0)) := by
  have calm : Quiet (within c marks held status) := quiet
  have sheltered : Quiet { within c marks held status with shielded := true } := quiet
  have asked := @empty_comesTo E { within c marks held status with shielded := true } _ v sheltered
    (plain_spells sheltered (within_stands (c := { c with shielded := true }) own there)) (Or.inr (Or.inl rfl))
  by_cases empty : v.isEmpty = true
  · rw [if_pos empty]
    refine when_holds line calm asked empty (script_one quiet (located_comesTo line ?_))
    exact assign_within quiet signed also rfl fun _ => rfl
  · rw [if_neg empty, kept_same also]
    exact when_fails line calm asked empty script_nil

end Zeros

-- What the function decides by when signs and zeros are off.
def shorter (a b : String) : Bool := if a.length ≠ b.length then a.length < b.length else a < b

def lessThan (sa a sb b : String) : Bool :=
  if sa ≠ sb then sa = "-" else if a = b then false else if sa = "-" then !shorter a b else shorter a b

section Decision

variable {E : Engine} {c : Session} {marks : String → Bool} {status : Nat} {a b sa sb : String} {lt : Content}

def heldAs (a b sa sb : String) (lt : Content) : Held :=
  [("a", .text a), ("b", .text b), ("sa", .text sa), ("sb", .text sb), ("lt", lt)]

-- Where the status of a question ends nothing.
def Lenient (c : Session) : Prop := c.shielded = true ∨ c.has .errexit = false

theorem Lenient.passes (lenient : Lenient c) {held : Held} {status : Nat} :
    Passes (within c marks held status) := Or.inr lenient

theorem within_separators {held : Held} (absent : held.lookup "IFS" = none) :
    (within c marks held status).separators = c.separators := by
  refine separators_like ?_
  unfold Session.value?
  rw [within_absent absent]

-- The status of a question, as a number that the function gives back.
def codeOf (b : Bool) : Nat := if b then 0 else 1

theorem held_spells {held : Held} {x v : String} (quiet : Quiet c) (own : isOwn x = true)
    (there : held.lookup x = some (.text v)) : Spells E (within c marks held status) [ref x] v :=
  plain_spells (s := within c marks held status) quiet (within_stands own there)

-- A question whose answer the function gives back.
theorem answered_comesTo {held : Held} {question : Command} {line₁ line₂ : Nat} {p : Bool} (quiet : Quiet c)
    (inside : c.isInFunction = true)
    (asked : ComesTo (question.run E) (within c marks held status) (.ok () (within c marks held (codeOf p)))) :
    ComesTo (runScript E [.located line₁ question, .located line₂ (say ["return"])])
      (within c marks held status) (.error (.returned (codeOf p)) (within c marks held (codeOf p))) := by
  have calm : Quiet (within c marks held status) := quiet
  have still : Quiet (within c marks held (codeOf p)) := quiet
  refine script_cons calm (located_comesTo _ asked) (script_stops still (located_comesTo _ ?_))
  exact @return_comesTo E _ _ [] none still inside
    (reads_bare "return" (by decide) (by decide) reads_nil) (codeOf_none "return")

section Questions

variable (c marks status) (held : Held) (x y : String) {v w op : String} (quiet : Quiet c) (lenient : Lenient c)

include quiet lenient

theorem text_asked {right : List Part} {holds : String → String → Bool} (own : isOwn x = true)
    (there : held.lookup x = some (.text v)) (spelled : Spells E (within c marks held status) right w)
    (named : Yields (Word.fields E (bare op)) (within c marks held status) [op])
    (textual : Condition.textual? op = some holds) (numeric : Condition.numeric? op = none) :
    ComesTo ((bracket [quotedRef x, bare op, [.double right]]).run E) (within c marks held status)
      (.ok () (within c marks held (codeOf (holds v w)))) :=
  texts_compared (s := within c marks held status) quiet named
    (double_fields (held_spells quiet own there)) (double_other _) (double_fields spelled) (double_other _)
    textual numeric lenient.passes

theorem sizes_asked {holds : Int → Int → Bool} (own : isOwn x = true) (also : isOwn y = true)
    (there : held.lookup x = some (.text v)) (here : held.lookup y = some (.text w))
    (uncut : ∀ d ∈ (within c marks held status).separators.chars, d.isDigit = false)
    (small : v.length < 2 ^ 63) (little : w.length < 2 ^ 63)
    (named : Yields (Word.fields E (bare op)) (within c marks held status) [op])
    (numeric : Condition.numeric? op = some holds) :
    ComesTo ((bracket [sizeWord x, bare op, sizeWord y]).run E) (within c marks held status)
      (.ok () (within c marks held (codeOf (holds v.length w.length)))) := by
  have calm : Quiet (within c marks held status) := quiet
  exact numbers_compared calm named
    (values_number (length_values calm (within_stands own there)) nofun uncut) (param_other _ _ _)
    (values_number (length_values calm (within_stands also here)) nofun uncut) (param_other _ _ _)
    numeric rfl rfl small little lenient.passes

end Questions

variable (quiet : Quiet c) (lenient : Lenient c) (uncut : ∀ d ∈ c.separators.chars, d.isDigit = false)

include quiet lenient uncut

-- Which is shorter, or the one of the lower digits, is kept as a status.
theorem shorter_comesTo (n : Nat) (small : a.length < 2 ^ 63) (little : b.length < 2 ^ 63) :
    ComesTo ((Command.ifThen [.located (n + 16) (bracket [sizeWord "a", bare "-ne", sizeWord "b"])]
        [.located (n + 17) (bracket [sizeWord "a", bare "-lt", sizeWord "b"]),
          .located (n + 18) (assign "lt" [ref "?"])]
        [.located (n + 20) (.test (.binary (quotedRef "a") "<" (quotedRef "b"))),
          .located (n + 21) (assign "lt" [ref "?"])]).run E)
      (within c marks (heldAs a b sa sb .declared) status)
      (.ok () (within c marks (heldAs a b sa sb (.text (toString (codeOf (shorter a b))))) 0)) := by
  have cut : ∀ {c : Session} {status : Nat}, (∀ d ∈ c.separators.chars, d.isDigit = false) →
      ∀ d ∈ (within c marks (heldAs a b sa sb .declared) status).separators.chars, d.isDigit = false := by
    intro c status uncut
    rwa [within_separators rfl]
  have calm : ∀ status, Quiet (within c marks (heldAs a b sa sb .declared) status) := fun _ => quiet
  have stored : ∀ answer, ComesTo ((assign "lt" [ref "?"]).run E)
      (within c marks (heldAs a b sa sb .declared) (codeOf answer))
      (.ok () (within c marks (heldAs a b sa sb (.text (toString (codeOf answer)))) 0)) := by
    intro answer
    have value := @status_valueText E (within c marks (heldAs a b sa sb .declared) (codeOf answer)) quiet
    exact assign_within (k := .declared) quiet (by decide) rfl rfl value
  have asked := sizes_asked (E := E) { c with shielded := true } marks status (heldAs a b sa sb .declared) "a" "b"
    quiet (Or.inl rfl) (by decide) (by decide) rfl rfl (cut uncut) small little
    (tame_word "-ne" (by decide) (by decide)) rfl
  by_cases other : a.length = b.length
  · have decided : shorter a b = decide (a < b) := if_neg (not_not_intro other)
    have code : (Verdict.ofBool (decide (a < b))).status % 256 = codeOf (shorter a b) := by
      rw [decided]
      cases decide (a < b) <;> rfl
    have before := before_holds (E := E) (calm 1) (held_spells (x := "a") quiet (by decide) rfl)
      (held_spells (x := "b") quiet (by decide) rfl)
    have tested := test_comesTo (calm 1) before lenient.passes
    refine when_fails (n + 16) (calm _) asked (by simp [other])
      (script_cons (calm 1) (located_comesTo _ tested) ?_)
    rw [code]
    exact script_one (calm _) (located_comesTo _ (stored _))
  · have decided : shorter a b = decide (a.length < b.length) := if_pos other
    have sized := sizes_asked (E := E) c marks 0 (heldAs a b sa sb .declared) "a" "b" quiet lenient
      (by decide) (by decide) rfl rfl (cut uncut) small little (tame_word "-lt" (by decide) (by decide)) rfl
    have code : codeOf (shorter a b) = codeOf (decide ((a.length : Int) < b.length)) := by
      rw [decided]
      simp
    refine when_holds (n + 16) (calm _) asked (by simp; omega)
      (script_cons (calm 0) (located_comesTo _ sized) ?_)
    rw [code]
    exact script_one (calm _) (located_comesTo _ (stored _))

theorem code_asked {code : Nat} (small : code < 2 ^ 63) :
    ComesTo ((bracket [[ref "lt"], bare "-ne", bare "0"]).run E)
      (within c marks (heldAs a b sa sb (.text (toString code))) status)
      (.ok () (within c marks (heldAs a b sa sb (.text (toString code))) (codeOf ((code : Int) != 0)))) := by
  have calm : Quiet (within c marks (heldAs a b sa sb (.text (toString code))) status) := quiet
  exact numbers_compared (m := code) (n := 0) calm (tame_word "-ne" (by decide) (by decide))
    (plain_number calm (within_stands (by decide) rfl) (by rwa [within_separators rfl])) (param_other _ _ _)
    (tame_word "0" (by decide) (by decide)) (by rintro x ⟨⟩) rfl rfl rfl small (by decide)
    lenient.passes

-- What was kept counts as it is, or the other way round for negative numbers.
theorem given_comesTo (inside : c.isInFunction = true) (n : Nat) (less : Bool) :
    ∃ final, ComesTo (runScript E ((lessLines n).drop 10))
      (within c marks (heldAs a b sa sb (.text (toString (codeOf less)))) status)
      (.error (.returned (codeOf (if sa = "-" then !less else less)))
        (within c marks (heldAs a b sa sb (.text (toString (codeOf less)))) final)) := by
  let held := heldAs a b sa sb (.text (toString (codeOf less)))
  have calm : ∀ status, Quiet (within c marks held status) := fun _ => quiet
  have small : codeOf less < 256 := by
    cases less <;> decide
  have negative := text_asked (E := E) { c with shielded := true } marks status held "sa" quiet (Or.inl rfl)
    (by decide) rfl (spells_text "-") (tame_word "=" (by decide) (by decide)) rfl rfl
  by_cases minus : sa = "-"
  · have turned : codeOf (!less) = codeOf ((codeOf less : Int) != 0) := by
      cases less <;> rfl
    rw [if_pos minus, turned]
    refine ⟨codeOf ((codeOf less : Int) != 0), script_stops (calm _) (located_comesTo _
      (when_holds _ (calm _) negative (by simp [minus]) ?_))⟩
    exact answered_comesTo quiet inside (code_asked quiet lenient uncut (by omega))
  · rw [if_neg minus]
    have first := when_skips (n + 23) (calm _) negative
      [.located (n + 24) (bracket [[ref "lt"], bare "-ne", bare "0"]), .located (n + 25) (say ["return"])]
      (by simp [minus])
    have read := plain_number (E := E) (n := codeOf less) (calm 0) (within_stands (x := "lt") (by decide) rfl)
      (by rwa [within_separators rfl])
    refine ⟨0, script_cons (calm _) (located_comesTo _ first) (script_stops (calm 0) (located_comesTo _ ?_))⟩
    exact return_comesTo (calm 0) inside (reads_bare "return" (by decide) (by decide)
      (reads_cons _ (param_other _ _ _) read reads_nil)) (codeOf_numeral "return" small)

-- Behind the signs and zeros the function gives back which number is less.
theorem decided_comesTo (inside : c.isInFunction = true) (n : Nat) (small : a.length < 2 ^ 63)
    (little : b.length < 2 ^ 63) :
    ∃ lt final, ComesTo (runScript E ((lessLines n).drop 7)) (within c marks (heldAs a b sa sb .declared) status)
      (.error (.returned (codeOf (lessThan sa a sb b))) (within c marks (heldAs a b sa sb lt) final)) := by
  let held := heldAs a b sa sb .declared
  have calm : ∀ status, Quiet (within c marks held status) := fun _ => quiet
  have opposed := text_asked (E := E) { c with shielded := true } marks status held "sa" quiet (Or.inl rfl)
    (by decide) rfl (held_spells (x := "sb") quiet (by decide) rfl)
    (plain_fields "!=" rfl (by decide) (by decide) fun groups => by cases groups <;> rfl) rfl rfl
  by_cases apart : sa = sb
  · have first := when_skips (n + 9) (calm _) opposed
      [.located (n + 10) (isNegative "sa"), .located (n + 11) (say ["return"])] (by simp [apart])
    have equal := text_asked (E := E) { c with shielded := true } marks 0 held "a" quiet (Or.inl rfl)
      (by decide) rfl (held_spells (x := "b") quiet (by decide) rfl) (tame_word "=" (by decide) (by decide)) rfl rfl
    by_cases same : a = b
    · have result : lessThan sa a sb b = false := by
        rw [lessThan, if_neg (not_not_intro apart), if_pos same]
      rw [result]
      refine ⟨.declared, 0, script_cons (calm _) (located_comesTo _ first) (script_stops (calm 0)
        (located_comesTo _ (when_holds _ (calm 0) equal (by simp [same])
          (script_stops (calm 0) (located_comesTo _ ?_)))))⟩
      exact return_comesTo (calm 0) inside (reads_counted "return" (by decide) (by decide) 1)
        (codeOf_numeral "return" (by decide))
    · have second := when_skips (n + 13) (calm 0) equal [.located (n + 14) (say ["return", "1"])] (by simp [same])
      have sized := @shorter_comesTo E c marks 0 a b sa sb quiet lenient uncut n small little
      have result : lessThan sa a sb b = if sa = "-" then !shorter a b else shorter a b := by
        rw [lessThan, if_neg (not_not_intro apart), if_neg same]
      obtain ⟨final, given⟩ := @given_comesTo E c marks 0 a b sa sb quiet lenient uncut inside n (shorter a b)
      rw [result]
      exact ⟨_, final, script_cons (calm _) (located_comesTo _ first) (script_cons (calm 0)
        (located_comesTo _ second) (script_cons (calm 0) (located_comesTo _ sized) given))⟩
  · have negative := text_asked (E := E) c marks 0 held "sa" quiet lenient (by decide) rfl (spells_text "-")
      (tame_word "=" (by decide) (by decide)) rfl rfl
    have result : lessThan sa a sb b = (sa == "-") := by
      rw [lessThan, if_pos apart]
      rfl
    rw [result]
    exact ⟨.declared, codeOf (sa == "-"), script_stops (calm _) (located_comesTo _
      (when_holds _ (calm _) opposed (by simpa using apart) (answered_comesTo quiet inside negative)))⟩

end Decision

section Calling

variable {E : Engine} {c : Session} {marks : String → Bool} {status : Nat} {x y : String}

-- The sign and the digits that are compared: zero has no sign.
def digitsOf (v : String) : String := stripped (unsigned v)

def signOf (v : String) : String := if (digitsOf v).isEmpty then "+" else signText v

def declaredLess (x y : String) : List Declared :=
  [("a", some x), ("b", some y), ("sa", some "+"), ("sb", some "+"), ("lt", none)]

def lessNames : List String := ["a", "b", "sa", "sb", "lt"]

theorem behindSign_suffix (v : List Char) : behindSign v <:+ v := by
  unfold behindSign
  split
  · exact List.suffix_cons ..
  · exact List.suffix_cons ..
  · exact List.suffix_refl _

theorem digitsOf_length (v : String) : (digitsOf v).length ≤ v.length := by
  have behind := ((List.dropWhile_suffix isZero).trans (behindSign_suffix v.toList)).length_le
  rwa [digitsOf, stripped, unsigned, String.toList_ofList, String.length_ofList, ← String.length_toList]

theorem lessLines_comesTo (quiet : Quiet c) (lenient : Lenient c)
    (uncut : ∀ d ∈ c.separators.chars, d.isDigit = false) (inside : c.isInFunction = true)
    (args : c.args = [x, y]) (plain : ∀ z ∈ lessNames, Ordinarily c z)
    (inherits : ∀ z, marks z = ((c.find? z).map (·.exported)).getD false) (n : Nat)
    (small : x.length < 2 ^ 63) (little : y.length < 2 ^ 63) :
    ∃ lt final, ComesTo (runScript E (lessLines n)) (within c marks [] status)
      (.error (.returned (codeOf (lessThan (signOf x) (digitsOf x) (signOf y) (digitsOf y))))
        (within c marks (heldAs (digitsOf x) (digitsOf y) (signOf x) (signOf y) lt) final)) := by
  have calm : ∀ held status, Quiet (within c marks held status) := fun _ _ => quiet
  have first : Spells E (within c marks [] status) [ref "1"] x := by
    have stands := @stands_argument (within c marks [] status) "1" 0 (@toNat?_digit '1' rfl) (by decide)
    have argument : (within c marks [] status).args[0]? = some x := by rw [within, args]; rfl
    rw [argument] at stands
    exact @plain_spells E _ "1" (some x) (calm _ _) stands
  have second : Spells E (within c marks [] status) [ref "2"] y := by
    have stands := @stands_argument (within c marks [] status) "2" 1 (@toNat?_digit '2' rfl) (by decide)
    have argument : (within c marks [] status).args[1]? = some y := by rw [within, args]; rfl
    rw [argument] at stands
    exact @plain_spells E _ "2" (some y) (calm _ _) stands
  have tame : ∀ groups, isGlob groups ("sa=+".toList.map fun c => (c, false)) = false := by
    rintro (_ | _) <;> rfl
  have also : ∀ groups, isGlob groups ("sb=+".toList.map fun c => (c, false)) = false := by
    rintro (_ | _) <;> rfl
  have reads : Reads E (within c marks [] status)
      [bare "local", [.text "a=", .double [ref "1"]], [.text "b=", .double [ref "2"]], bare "sa=+", bare "sb=+",
        bare "lt"] ("local" :: (declaredLess x y).map Declared.text) :=
    reads_bare "local" (by decide) (by decide) (@reads_led_double E _ "a=" x _ _ (by decide) (by decide)
      (@reads_led_double E _ "b=" y _ _ (by decide) (by decide)
        (reads_cons ["sa=+"] (by rintro a ⟨⟩) (plain_fields "sa=+" rfl (by decide) (by decide) tame)
          (reads_cons ["sb=+"] (by rintro a ⟨⟩) (plain_fields "sb=+" rfl (by decide) (by decide) also)
            (reads_bare "lt" (by decide) (by decide) reads_nil))) _ second) _ first)
  have opened := @local_comesTo E c marks [] status _ (declaredLess x y) quiet inside (List.cons_ne_nil _ _) reads
    (by
      intro d member
      have named : d.1 ∈ lessNames := List.mem_map_of_mem (f := Prod.fst) member
      have own : ∀ z ∈ lessNames, isOwn z = true := by decide
      exact ⟨own _ named, rfl, plain _ named, inherits _⟩)
    (by change lessNames.Nodup; decide)
  have signed := @sign_comesTo E c marks (heldAs x y "+" "+" .declared) 0 (n + 2) "a" "sa" x quiet (by decide)
    (by decide) rfl rfl (by decide)
  have turned := @sign_comesTo E c marks (heldAs (unsigned x) y (signText x) "+" .declared) 0 (n + 3) "b" "sb" y
    quiet (by decide) (by decide) rfl rfl (by decide)
  have filled := @zerosOff_comesTo E c marks (heldAs (unsigned x) (unsigned y) (signText x) (signText y) .declared)
    0 "a" (unsigned x) quiet (by decide) rfl
  have full := @zerosOff_comesTo E c marks (heldAs (digitsOf x) (unsigned y) (signText x) (signText y) .declared)
    0 "b" (unsigned y) quiet (by decide) rfl
  have zero := @zeroUnsigned_comesTo E c marks (heldAs (digitsOf x) (digitsOf y) (signText x) (signText y) .declared)
    0 (n + 7) "a" "sa" (digitsOf x) quiet (by decide) (by decide) rfl (signText x) rfl
  have null := @zeroUnsigned_comesTo E c marks (heldAs (digitsOf x) (digitsOf y) (signOf x) (signText y) .declared)
    0 (n + 8) "b" "sb" (digitsOf y) quiet (by decide) (by decide) rfl (signText y) rfl
  obtain ⟨lt, final, decided⟩ := @decided_comesTo E c marks 0 (digitsOf x) (digitsOf y) (signOf x) (signOf y)
    quiet lenient uncut inside n (Nat.lt_of_le_of_lt (digitsOf_length x) small)
    (Nat.lt_of_le_of_lt (digitsOf_length y) little)
  exact ⟨lt, final,
    script_cons (calm _ _) (located_comesTo _ opened) (script_cons (calm _ _) (located_comesTo _ signed)
    (script_cons (calm _ _) (located_comesTo _ turned) (script_cons (calm _ _) (located_comesTo _ filled)
    (script_cons (calm _ _) (located_comesTo _ full) (script_cons (calm _ _) (located_comesTo _ zero)
    (script_cons (calm _ _) (located_comesTo _ null) decided))))))⟩

end Calling

end Toolwrap.Integers
