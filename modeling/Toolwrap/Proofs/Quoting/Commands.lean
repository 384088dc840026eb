import Mathlib.Data.Bool.AllAny
import Mathlib.Data.List.Forall2
import Toolwrap.Proofs.Quoting.Words

-- Reading the words of a command, one after the other, up to what ends them.

namespace Toolwrap.Quoting

open Shell

theorem blanks_ok {r : Reading} {source : Source}
    (passed : Reader.dropBlanks r.source = source)
    (comment : ∀ entry ∈ source.head?, entry.1 ≠ '#') :
    Reader.blanks r = .ok ((), { r with source }) := by
  unfold Reader.blanks
  rw [read_bind left_ok, passed, read_bind (goOn_ok source), read_bind peek_ok]
  cases source with
  | nil => rfl
  | cons entry rest =>
    have other := comment entry rfl
    simp [other, read_pure]

theorem startsWord_ne {c d : Char} (begins : startsWord c = true) (other : startsWord d = false) :
    c ≠ d := by
  rintro rfl
  rw [begins] at other
  cases other

-- At a character that is neither a blank nor a backslash nothing is passed over.
theorem dropBlanks_solid {c : Char} (n : Nat) (rest : Source) (solid : c ∉ [' ', '\t', '\\']) :
    Reader.dropBlanks ((c, n) :: rest) = (c, n) :: rest := by
  simp only [List.mem_cons, List.not_mem_nil, or_false, not_or] at solid
  rw [Reader.dropBlanks]
  · simp [Reader.isBlank, solid.1, solid.2.1]
  · intro line after same
    exact absurd same solid.2.2

theorem blanks_solid {r : Reading} {c : Char} {n : Nat} {rest : Source} (here : r.source = (c, n) :: rest)
    (solid : c ∉ [' ', '\t', '\\', '#']) : Reader.blanks r = .ok ((), r) := by
  have unlike : c ∉ [' ', '\t', '\\'] ∧ c ≠ '#' := by simpa [and_assoc] using solid
  have passed : Reader.dropBlanks r.source = r.source := by
    rw [here, dropBlanks_solid n rest unlike.1]
  refine blanks_ok passed fun entry first => ?_
  rw [here] at first
  cases first
  exact unlike.2

theorem dropBlanks_word {c : Char} (n : Nat) (rest : Source) (begins : startsWord c = true) :
    Reader.dropBlanks ((c, n) :: rest) = (c, n) :: rest := by
  refine dropBlanks_solid n rest fun member => ?_
  have unlike : ∀ d ∈ [' ', '\t', '\\'], startsWord d = false :=
    List.all_iff_forall_prop.mp (by decide)
  exact absurd begins (by rw [unlike c member]; decide)

theorem dropBlanks_blank (n : Nat) (rest : Source) :
    Reader.dropBlanks ((' ', n) :: rest) = Reader.dropBlanks rest := by
  rw [Reader.dropBlanks]
  · simp [Reader.isBlank]
  · intro line after same
    cases same

theorem startsWord_not_digit {c : Char} (begins : startsWord c = true) : c.isDigit = false := by
  simp only [startsWord, Bool.or_eq_true, beq_iff_eq] at begins
  rcases begins with (rfl | rfl) | named
  · decide
  · decide
  · exact isDigit_of_isNameStart named

theorem redirectAhead_word {c : Char} (n : Nat) (rest : Source) (begins : startsWord c = true) :
    Reader.redirectAhead false ((c, n) :: rest) = false := by
  have digit := startsWord_not_digit begins
  have less : c ≠ '<' := startsWord_ne begins rfl
  have greater : c ≠ '>' := startsWord_ne begins rfl
  have ampersand : c ≠ '&' := startsWord_ne begins rfl
  have brace : c ≠ '\x7b' := startsWord_ne begins rfl
  unfold Reader.redirectAhead
  simp only [List.takeWhile_cons, digit, Bool.false_eq_true, if_false, List.length_nil,
    List.drop_zero, List.isEmpty_nil, Bool.and_true]
  split <;> rename_i same <;> simp_all [Reader.descriptorName?]

-- A name that is followed by the end of its word is no assignment.
theorem name_ends {source after : Source} {text : List Char}
    (held : Holds source text) (named : ∀ c ∈ text, isNameChar c = true) (ends : EndsWord after) :
    (source ++ after).dropWhile (fun entry => isNameChar entry.1) = after := by
  have all : ∀ entry ∈ source, isNameChar entry.1 = true := by
    intro entry member
    refine named entry.1 ?_
    rw [← show source.map (·.1) = text from held]
    exact List.mem_map_of_mem member
  rw [List.dropWhile_append_of_pos all]
  cases after with
  | nil => rfl
  | cons entry rest =>
    obtain ⟨stops, _, _⟩ := ends entry rfl
    have other : isNameChar entry.1 = false := by
      simp only [Reader.isMeta, List.mem_cons, List.not_mem_nil, or_false, decide_eq_true_eq] at stops
      rcases stops with same | same | same | same | same | same | same | same | same | same <;>
        rw [same] <;> rfl
    simp [other]

theorem ends_ne {c : Char} {n : Nat} {rest : Source} (ends : EndsWord ((c, n) :: rest)) :
    c ≠ '[' ∧ c ≠ '=' ∧ c ≠ '+' := by
  obtain ⟨stops, _, _⟩ := ends (c, n) rfl
  refine ⟨?_, ?_, ?_⟩ <;> rintro rfl <;> simp [Reader.isMeta] at stops

-- A reading in which no name stands for another text.
structure Settled (r : Reading) : Prop where
  full : r.plain = false
  aliases : r.aliases = []
  carries : r.carriesOn = none

section Command

variable {r : Reading} {text : List Char} {word : Word} {source after : Source}

theorem settled_behind (settled : Settled r) (left : Source) :
    Settled { r with source := left } :=
  ⟨settled.full, settled.aliases, settled.carries⟩

-- The reader of simple commands takes one word and goes on behind it. The name of
-- the command comes first, and it is neither an assignment nor a redirection.
theorem simple_name (settled : Settled r) (reads : ReadsAs text word)
    (held : Holds source text) (ends : EndsWord after)
    (passed : Reader.dropBlanks r.source = source ++ after)
    (named : ∀ c ∈ text, isNameChar c = true)
    (fuel line : Nat) (enough : text.length + 3 ≤ fuel) :
    ∃ next, Reader.simple (fuel + 1) line [] [] [] r =
      Reader.simple fuel next [] [word] [] { r with source := after } := by
  obtain ⟨all, ending, extended, plain, base, aliases, replaced, carries, remarks⟩ := r
  obtain ⟨rfl, rfl, rfl⟩ : plain = false ∧ aliases = [] ∧ carries = none :=
    ⟨settled.full, settled.aliases, settled.carries⟩
  obtain ⟨⟨c, tail, shape, begins⟩, filled, read⟩ := reads
  subst shape
  obtain ⟨n, later, rfl, heldLater⟩ := holds_cons held
  obtain ⟨fuel, rfl⟩ : ∃ k, fuel = k + 1 := ⟨fuel - 1, by omega⟩
  have dropped := name_ends held named ends
  have comment : ∀ entry ∈ ((c, n) :: later ++ after).head?, entry.1 ≠ '#' := by
    intro entry first
    cases first
    exact startsWord_ne begins rfl
  let at_ (left : Source) : Reading :=
    ⟨left, ending, extended, false, base, [], replaced, none, remarks⟩
  have blanks : Reader.blanks (at_ all) = .ok ((), at_ ((c, n) :: later ++ after)) :=
    blanks_ok passed comment
  have again : Reader.blanks (at_ ((c, n) :: later ++ after)) =
      .ok ((), (at_ ((c, n) :: later ++ after))) :=
    blanks_ok (dropBlanks_word n _ begins) comment
  have opens : Reader.openIndex ((c, n) :: later ++ after) = false := by
    rw [List.cons_append] at dropped ⊢
    unfold Reader.openIndex
    simp only [dropped]
    split
    · exact absurd rfl (ends_ne ends).1
    · simp
  have assigns : Reader.assignmentAhead false ((c, n) :: later ++ after) = false := by
    rw [List.cons_append] at dropped ⊢
    unfold Reader.assignmentAhead
    simp only [dropped]
    split
    · rfl
    · split
      · rename_i no
        exact absurd no (by decide)
      · split
        · exact absurd rfl (ends_ne ends).1
        · rename_i rest _
          unfold Reader.equalsAhead
          split
          · exact absurd rfl (ends_ne ends).2.1
          · exact absurd rfl (ends_ne ends).2.2
          · rfl
  have redirects := redirectAhead_word n (later ++ after) begins
  rw [← List.cons_append] at redirects
  have taken : Reader.commandWord (fuel + 1) false (at_ ((c, n) :: later ++ after)) =
      .ok (word, at_ after) := by
    rw [Reader.commandWord, read_bind left_ok]
    simp only [Bool.false_and, Bool.false_eq_true, if_false]
    exact read _ _ _ _ held ends rfl (by omega)
  refine ⟨(after.head?.map (·.2)).getD (ending - 1), ?_⟩
  rw [Reader.simple]
  rw [read_bind blanks]
  simp only [List.isEmpty_nil, if_true]
  rw [read_bind read_get]
  rw [read_bind (show Reader.replaceNames [].length (at_ ((c, n) :: later ++ after)) =
    .ok ((), at_ ((c, n) :: later ++ after)) from rfl)]
  rw [read_bind again, read_bind left_ok, read_bind isPlain_ok]
  simp only [at_, opens, redirects, assigns, Bool.and_false, Bool.false_eq_true, if_false]
  rw [read_bind taken]
  simp [filled]
  rw [read_bind lineHere_ok]

theorem simple_next (settled : Settled r) (reads : ReadsAs text word)
    (held : Holds source text) (ends : EndsWord after)
    (passed : Reader.dropBlanks r.source = source ++ after)
    {name : String} (plain : Reader.declarations.contains name = false) (others : List Word)
    (fuel line : Nat) (enough : text.length + 3 ≤ fuel) :
    ∃ next, Reader.simple (fuel + 1) line [] (bare name :: others) [] r =
      Reader.simple fuel next [] (bare name :: others ++ [word]) [] { r with source := after } := by
  obtain ⟨all, ending, extended, plainly, base, aliases, replaced, carries, remarks⟩ := r
  obtain ⟨rfl, rfl, rfl⟩ : plainly = false ∧ aliases = [] ∧ carries = none :=
    ⟨settled.full, settled.aliases, settled.carries⟩
  obtain ⟨⟨c, tail, shape, begins⟩, filled, read⟩ := reads
  subst shape
  obtain ⟨n, later, rfl, heldLater⟩ := holds_cons held
  obtain ⟨fuel, rfl⟩ : ∃ k, fuel = k + 1 := ⟨fuel - 1, by omega⟩
  have comment : ∀ entry ∈ ((c, n) :: later ++ after).head?, entry.1 ≠ '#' := by
    intro entry first
    cases first
    exact startsWord_ne begins rfl
  let at_ (left : Source) : Reading :=
    ⟨left, ending, extended, false, base, [], replaced, none, remarks⟩
  have blanks : Reader.blanks (at_ all) = .ok ((), at_ ((c, n) :: later ++ after)) :=
    blanks_ok passed comment
  have again : Reader.blanks (at_ ((c, n) :: later ++ after)) =
      .ok ((), (at_ ((c, n) :: later ++ after))) :=
    blanks_ok (dropBlanks_word n _ begins) comment
  have redirects := redirectAhead_word n (later ++ after) begins
  rw [← List.cons_append] at redirects
  have next : Reader.replaceNext (at_ ((c, n) :: later ++ after)) =
      .ok ((), (at_ ((c, n) :: later ++ after))) := by
    rfl
  have taken : Reader.commandWord (fuel + 1) false (at_ ((c, n) :: later ++ after)) =
      .ok (word, at_ after) := by
    rw [Reader.commandWord, read_bind left_ok]
    simp only [Bool.false_and, Bool.false_eq_true, if_false]
    exact read _ _ _ _ held ends rfl (by omega)
  refine ⟨if ([] : List Assign).isEmpty && ([] : List Redirect).isEmpty &&
    decide ((bare name :: others).length ≤ 1) then (after.head?.map (·.2)).getD (ending - 1) else line, ?_⟩
  change Reader.simple _ _ _ _ _ (at_ all) = Reader.simple _ _ _ _ _ (at_ after)
  rw [Reader.simple]
  rw [read_bind blanks]
  simp only [List.isEmpty_cons, Bool.false_eq_true, if_false]
  rw [read_bind next]
  rw [read_bind again, read_bind left_ok, read_bind isPlain_ok]
  simp only [at_, redirects, Bool.and_false, Bool.false_and, Bool.false_eq_true, if_false]
  simp only [bare, plain, Bool.false_and]
  rw [read_bind taken]
  simp only [List.isEmpty_eq_false_iff.mpr filled, Bool.false_eq_true, if_false]
  split
  · rw [read_bind lineHere_ok]
  · rw [read_bind read_pure]

-- The words are over where a separator stands, and the command is complete.
theorem simple_end (settled : Settled r) {c : Char} {n : Nat} {rest : Source} (final : c = ';' ∨ c = '\n')
    (here : r.source = (c, n) :: rest)
    {name : String} (plain : Reader.declarations.contains name = false) (others : List Word)
    (redirects : List Redirect) (fuel line : Nat) :
    Reader.simple (fuel + 3) line [] (bare name :: others) redirects r =
      .ok (.located line (.simple [] (bare name :: others) redirects), r) := by
  obtain ⟨all, ending, extended, plainly, base, aliases, replaced, carries, remarks⟩ := r
  obtain ⟨rfl, rfl, rfl⟩ : plainly = false ∧ aliases = [] ∧ carries = none :=
    ⟨settled.full, settled.aliases, settled.carries⟩
  change all = _ at here
  subst here
  let at_ : Reading := ⟨(c, n) :: rest, ending, extended, false, base, [], replaced, none, remarks⟩
  have blanks : Reader.blanks at_ = .ok ((), at_) :=
    blanks_solid rfl (by rcases final with rfl | rfl <;> decide)
  have next : Reader.replaceNext at_ = .ok ((), at_) := rfl
  have redirected : Reader.redirectAhead false ((c, n) :: rest) = false := by
    rcases final with rfl | rfl <;> simp [Reader.redirectAhead, Reader.descriptorName?]
  have stop : Reader.parts (fuel + 1) .word Reader.isMeta at_ = .ok ([], at_) :=
    parts_at_end fuel (endsWord_cons n rest (Or.inr final))
  have taken : Reader.commandWord (fuel + 2) false at_ = .ok ([], at_) := by
    rw [Reader.commandWord, read_bind left_ok]
    simp only [Bool.false_and, Bool.false_eq_true, if_false]
    exact stop
  have opens : Reader.sees "(" at_ = .ok (false, at_) := by
    rcases final with rfl | rfl <;> rfl
  change Reader.simple _ _ _ _ _ at_ = .ok (_, at_)
  rw [Reader.simple]
  rw [read_bind blanks]
  simp only [List.isEmpty_cons, Bool.false_eq_true, if_false]
  rw [read_bind next, read_bind blanks, read_bind left_ok, read_bind isPlain_ok]
  simp only [at_, redirected, Bool.and_false, Bool.false_and, Bool.false_eq_true, if_false]
  simp only [bare, plain, Bool.false_and]
  rw [read_bind taken]
  simp only [List.isEmpty_nil, if_true]
  rw [read_bind opens]
  simp [read_pure, at_]

end Command

-- Texts as they stand in a command behind its name, a blank in front of each.
def spacedOut (texts : List (List Char)) : List Char := texts.flatMap (' ' :: ·)

theorem spacedOut_ends {source after : Source} {texts : List (List Char)}
    (held : Holds source (spacedOut texts)) (ends : EndsWord after) : EndsWord (source ++ after) := by
  cases texts with
  | nil =>
    have empty : source = [] := List.map_eq_nil_iff.mp held
    rw [empty]
    exact ends
  | cons text texts =>
    obtain ⟨n, rest, rfl, _⟩ := holds_cons held
    exact endsWord_cons n _ (by simp)

theorem simple_words {texts : List (List Char)} {words : List Word}
    (all : List.Forall₂ ReadsAs texts words) {r : Reading} (settled : Settled r)
    {source after : Source} (held : Holds source (spacedOut texts)) (ends : EndsWord after)
    (here : r.source = source ++ after)
    {name : String} (plain : Reader.declarations.contains name = false) (others : List Word)
    (fuel line : Nat) (enough : ∀ text ∈ texts, text.length + 3 ≤ fuel) :
    ∃ next, Reader.simple (fuel + words.length) line [] (bare name :: others) [] r =
      Reader.simple fuel next [] (bare name :: others ++ words) [] { r with source := after } := by
  obtain ⟨all_, ending, extended, plainly, base, aliases, replaced, carries, remarks⟩ := r
  change all_ = _ at here
  subst here
  induction all generalizing source others line with
  | nil =>
    have empty : source = [] := List.map_eq_nil_iff.mp held
    subst empty
    exact ⟨line, by simp⟩
  | @cons text word texts words first rest taken =>
    have split : spacedOut (text :: texts) = ' ' :: (text ++ spacedOut texts) := by
      simp [spacedOut]
    rw [split] at held
    obtain ⟨n, both, rfl, heldBoth⟩ := holds_cons held
    obtain ⟨here, later, rfl, heldHere, heldLater⟩ := holds_append heldBoth
    have stops := spacedOut_ends heldLater ends
    have passed : Reader.dropBlanks ((' ', n) :: (here ++ later) ++ after) = here ++ (later ++ after) := by
      obtain ⟨c, tail, shape, begins⟩ := first.begins
      rw [shape] at heldHere
      obtain ⟨m, others, rfl, _⟩ := holds_cons heldHere
      rw [List.cons_append, dropBlanks_blank, List.append_assoc, List.cons_append,
        dropBlanks_word m _ begins]
    obtain ⟨next, one⟩ := simple_next settled first heldHere stops passed plain others
      (fuel + words.length) line (by have := enough text (by simp); omega)
    obtain ⟨last, more⟩ := taken heldLater (others ++ [word]) next
      (fun text member => enough text (List.mem_cons_of_mem _ member))
      (settled_behind settled _)
    refine ⟨last, ?_⟩
    rw [List.length_cons, ← Nat.add_assoc, one]
    simpa using more

theorem toList_joined (first : String) (others : List String) :
    (" ".intercalate (first :: others)).toList =
      first.toList ++ spacedOut (others.map String.toList) := by
  rw [String.toList_intercalate]
  induction others generalizing first with
  | nil => simp [spacedOut]
  | cons second others joined =>
    have step := joined second
    simp only [List.map_cons] at step ⊢
    rw [List.intercalate_cons_cons, step]
    simp [spacedOut]

theorem ReadsAs.isWord {text : List Char} {word : Word} (reads : ReadsAs text word) : IsWord text word := by
  obtain ⟨⟨c, rest, shape, begins⟩, filled, read⟩ := reads
  refine ⟨⟨c, rest, shape, fun member => ?_⟩, filled, fun r source after fuel held spaced => ?_⟩
  · have unlike : ∀ d ∈ [' ', '\t', '\\', '#'], startsWord d = false :=
      List.all_iff_forall_prop.mp (by decide)
    exact absurd begins (by rw [unlike c member]; decide)
  · exact read r source after fuel held spaced.ends

theorem spacedOut_spaced {source : Source} {texts : List (List Char)} (held : Holds source (spacedOut texts)) :
    Spaced source := by
  intro entry first
  cases texts with
  | nil =>
    rw [List.map_eq_nil_iff.mp held] at first
    cases first
  | cons text texts =>
    obtain ⟨n, rest, rfl, _⟩ := holds_cons held
    cases first
    rfl

-- A list of words that is read without a command around it.
theorem words_next {text : List Char} {word : Word} (reads : IsWord text word) {r : Reading}
    {source after : Source} (held : Holds source text) (spaced : Spaced after)
    (passed : Reader.dropBlanks r.source = Reader.dropBlanks (source ++ after))
    (fuel : Nat) (enough : text.length + 2 ≤ fuel) {words : List Word} {t : Reading}
    (rest : Reader.words fuel { r with source := after } = .ok (words, t)) :
    Reader.words (fuel + 1) r = .ok (word :: words, t) := by
  obtain ⟨⟨c, tail, shape, solid⟩, filled, read⟩ := reads
  have unlike : c ∉ [' ', '\t', '\\'] ∧ c ≠ '#' := by simpa [and_assoc] using solid
  have blanks : Reader.blanks r = .ok ((), { r with source := source ++ after }) := by
    rw [shape] at held
    obtain ⟨n, later, rfl, _⟩ := holds_cons held
    rw [List.cons_append, dropBlanks_solid n _ unlike.1] at passed
    refine blanks_ok passed fun entry first => ?_
    cases first
    exact unlike.2
  have taken : Reader.parts fuel .word Reader.isMeta { r with source := source ++ after } =
      .ok (word, { r with source := after }) := read _ source after fuel held spaced rfl enough
  rw [Reader.words, read_bind blanks, read_bind taken]
  simp only [List.isEmpty_eq_false_iff.mpr filled, Bool.false_eq_true, if_false]
  rw [read_bind rest, read_pure]

theorem words_end {r : Reading} (here : r.source = []) (fuel : Nat) :
    Reader.words (fuel + 2) r = .ok ([], r) := by
  obtain ⟨all, ending, extended, plain, base, aliases, replaced, carries, remarks⟩ := r
  change all = [] at here
  subst here
  rfl

theorem words_spacedOut {texts : List (List Char)} {words : List Word}
    (all : List.Forall₂ IsWord texts words) {r : Reading}
    (held : Holds r.source (spacedOut texts)) (fuel : Nat)
    (enough : (spacedOut texts).length + 2 ≤ fuel) :
    Reader.words fuel r = .ok (words, { r with source := [] }) := by
  induction all generalizing r fuel with
  | nil =>
    obtain ⟨fuel, rfl⟩ : ∃ n, fuel = n + 2 := ⟨fuel - 2, by omega⟩
    have empty : r.source = [] := List.map_eq_nil_iff.mp held
    rw [words_end empty, ← empty]
  | @cons text word texts words first rest taken =>
    have split : spacedOut (text :: texts) = ' ' :: (text ++ spacedOut texts) := by
      simp [spacedOut]
    rw [split] at held enough
    simp only [List.length_cons, List.length_append] at enough
    obtain ⟨n, both, shown, heldBoth⟩ := holds_cons held
    obtain ⟨here, later, rfl, heldHere, heldLater⟩ := holds_append heldBoth
    obtain ⟨fuel, rfl⟩ : ∃ n, fuel = n + 1 := ⟨fuel - 1, by omega⟩
    have passed : Reader.dropBlanks r.source = Reader.dropBlanks (here ++ later) := by
      rw [shown, dropBlanks_blank]
    have rest := taken (r := { r with source := later }) heldLater fuel (by omega)
    exact words_next first heldHere (spacedOut_spaced heldLater) passed fuel (by omega) rest

theorem words_joined {texts : List String} {words : List Word}
    (all : List.Forall₂ (fun text word => ReadsAs text.toList word) texts words) {r : Reading}
    (held : Holds r.source (" ".intercalate texts).toList) (fuel : Nat)
    (enough : (" ".intercalate texts).toList.length + 3 ≤ fuel) :
    Reader.words fuel r = .ok (words, { r with source := [] }) := by
  cases all with
  | nil =>
    obtain ⟨fuel, rfl⟩ : ∃ n, fuel = n + 2 := ⟨fuel - 2, by omega⟩
    have empty : r.source = [] := List.map_eq_nil_iff.mp held
    rw [words_end empty, ← empty]
  | @cons text word texts words first rest =>
    rw [toList_joined] at held enough
    rw [List.length_append] at enough
    obtain ⟨here, later, shown, heldHere, heldLater⟩ := holds_append held
    obtain ⟨fuel, rfl⟩ : ∃ n, fuel = n + 1 := ⟨fuel - 1, by omega⟩
    have all : List.Forall₂ IsWord (texts.map String.toList) words :=
      List.forall₂_map_left_iff.mpr (rest.imp fun _ _ reads => reads.isWord)
    have read := words_spacedOut all (r := { r with source := later }) heldLater fuel (by omega)
    exact words_next first.isWord heldHere (spacedOut_spaced heldLater) (by rw [shown]) fuel (by omega) read

end Toolwrap.Quoting
