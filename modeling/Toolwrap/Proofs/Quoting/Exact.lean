import Toolwrap.Docker.Layers
import Toolwrap.Proofs.Running.Quoted
import Toolwrap.Wrapper.Validation

-- Texts of a description as they stand in generated commands: each is read as one
-- word, and that word comes to the text, whatever is in it.

namespace Toolwrap.Quoting

open Shell Running Wrapper

theorem inlineParts_literalParts (text : List Char) :
    inlineParts (literalParts text) = String.ofList (Escaping.inQuotes.escapeChars text) := by
  induction text using runs_induction with
  | nil => rfl
  | escaped c rest special printed =>
    rw [literalParts_escaped special, escapeChars_escaped special, inlineParts, printed, Part.inline,
      ← String.ofList_append]
    rfl
  | plain c run rest plain ends printed =>
    rw [literalParts_plain (by simp) plain ends, escapeChars_append, escapeChars_plain plain,
      inlineParts, printed, Part.inline, ← String.ofList_append]

theorem inline_quotedWord (text : String) : inlineParts (quotedWord text) = doubleQuoted text := by
  simp [quotedWord, inlineParts, Part.inline, literal, inlineParts_literalParts, doubleQuoted,
    quotedBody, Escaping.escape]

theorem inline_bare (text : String) : inlineParts (bare text) = text := by
  simp [bare, inlineParts, Part.inline]

theorem inlineWords_eq_map (words : List Word) : inlineWords words = words.map inlineParts := by
  induction words with
  | nil => rfl
  | cons word words printed => rw [inlineWords, printed, List.map_cons]

-- A word that is read from its own text.
def Readable (word : Word) : Prop := ReadsAs (inlineParts word).toList word

theorem quotedWord_readable (text : String) : Readable (quotedWord text) := by
  unfold Readable
  rw [inline_quotedWord]
  exact quoted_reads text

theorem bare_readable {text : String} (begins : ∃ c rest, text.toList = c :: rest ∧ startsWord c = true)
    (plain : ∀ c ∈ text.toList, isPlainInText c = true) : Readable (bare text) := by
  unfold Readable
  rw [inline_bare]
  exact bare_reads begins plain

theorem readable_forall₂ {words : List Word} (all : ∀ word ∈ words, Readable word) :
    List.Forall₂ ReadsAs (words.map fun word => (inlineParts word).toList) words := by
  induction words with
  | nil => exact .nil
  | cons word words rest =>
    exact .cons (all word (by simp)) (rest fun w member => all w (List.mem_cons_of_mem _ member))

theorem numbered_holds (line : Nat) (text : List Char) : Holds (Source.numbered line text) text := by
  induction text generalizing line with
  | nil => rfl
  | cons c text held =>
    unfold Holds at held ⊢
    rw [Source.numbered, List.map_cons, held]

theorem ofText_holds (text : String) : Holds (Source.ofText text) text.toList :=
  numbered_holds 1 text.toList

theorem length_le_spacedOut {text : List Char} {texts : List (List Char)} (member : text ∈ texts) :
    text.length ≤ (spacedOut texts).length := by
  have within : (' ' :: text).Sublist (spacedOut texts) :=
    List.sublist_flatten_of_mem (List.mem_map_of_mem member)
  have shorter := within.length_le
  rw [List.length_cons] at shorter
  omega

-- A command in front of something else: its name and its words are read, and what
-- is left stands behind it.
theorem command_reads {name : String} {words : List Word}
    (first : ReadsAs name.toList (bare name)) (named : ∀ c ∈ name.toList, isNameChar c = true)
    (plain : Reader.declarations.contains name = false)
    (all : ∀ word ∈ words, Readable word)
    {behind : List Char} (ends : ∃ c rest, behind = c :: rest ∧ (c = ' ' ∨ c = ';' ∨ c = '\n'))
    {r : Reading} (settled : Settled r)
    (held : Holds r.source ((" ".intercalate (inlineWords (bare name :: words))).toList ++ behind))
    (fuel line : Nat)
    (enough : (" ".intercalate (inlineWords (bare name :: words))).toList.length + 3 ≤ fuel) :
    ∃ next after, Holds after behind ∧
      Reader.simple (fuel + words.length + 1) line [] [] [] r =
        Reader.simple fuel next [] (bare name :: words) [] { r with source := after } := by
  rw [inlineWords_eq_map, List.map_cons, inline_bare, toList_joined, List.map_map] at held enough
  rw [List.append_assoc] at held
  obtain ⟨here, more, shown, heldHere, heldMore⟩ := holds_append held
  obtain ⟨later, after, rfl, heldLater, heldAfter⟩ := holds_append heldMore
  obtain ⟨c, rest, rfl, separates⟩ := ends
  obtain ⟨n, others, rfl, _⟩ := holds_cons heldAfter
  have stops : EndsWord ((c, n) :: others) := endsWord_cons n others separates
  have ends := spacedOut_ends heldLater stops
  have passed : Reader.dropBlanks r.source = here ++ (later ++ (c, n) :: others) := by
    obtain ⟨d, tail, shape, begins⟩ := first.begins
    rw [shape] at heldHere
    obtain ⟨m, others, rfl, _⟩ := holds_cons heldHere
    rw [shown, List.cons_append, dropBlanks_word m _ begins]
  rw [List.length_append] at enough
  obtain ⟨next, one⟩ := simple_name settled first heldHere ends passed named
    (fuel + words.length) line (by omega)
  have short : ∀ text ∈ words.map fun word => (inlineParts word).toList,
      text.length + 3 ≤ fuel := by
    intro text member
    have within := length_le_spacedOut member
    simp only [Function.comp_def] at enough
    omega
  obtain ⟨last, all⟩ := simple_words (readable_forall₂ all)
    (settled_behind settled (later ++ (c, n) :: others)) heldLater stops rfl plain [] fuel next short
  exact ⟨last, _, heldAfter, one.trans all⟩

-- A word that comes to one field, whatever the session is.
def StandsFor (word : Word) (text : String) : Prop :=
  (∀ a, word ≠ [.assign a]) ∧ ∀ E s, Word.fields E word s = .ok [text] s

theorem quotedWord_stands (text : String) : StandsFor (quotedWord text) text := by
  refine ⟨?_, fun E s => quotedWord_fields E s text⟩
  intro a same
  simp [quotedWord] at same

theorem bare_stands {text : String} (filled : text.toList ≠ [])
    (tame : ∀ c ∈ text.toList, isTame c = true) : StandsFor (bare text) text := by
  refine ⟨?_, fun E s => bare_fields tame filled E s⟩
  intro a same
  simp [bare] at same

theorem commandFields_stand {words : List Word} {texts : List String}
    (all : List.Forall₂ StandsFor words texts) (E : Engine) (s : Session) :
    commandFields E words s = .ok ⟨texts, []⟩ s := by
  induction all with
  | nil => rfl
  | @cons word text words texts first _ rest =>
    obtain ⟨plain, ran⟩ := first
    unfold commandFields
    split
    · exact absurd rfl (plain _)
    · simp only [pure_bind]
      rw [bind_ok (ran E s), bind_ok rest]
      rfl

theorem quotedWords_stand (texts : List String) :
    List.Forall₂ StandsFor (texts.map quotedWord) texts := by
  rw [List.forall₂_map_left_iff]
  exact List.forall₂_same.mpr fun text _ => quotedWord_stands text

-- The words of the test whether a value is among the choices of an argument.
def choiceTest (a : Argument) : List Word :=
  [bare "bw_in_array", quotedRef "BW_VAL"] ++ a.body.texts.choices.map quotedWord

theorem checkChoices_test (a : Argument) :
    a.body.texts.choices = [] ∨
      ∃ failing, checkChoices a = [when (.not (run (choiceTest a))) failing] := by
  unfold checkChoices choiceTest
  split
  · left
    assumption
  · right
    exact ⟨_, rfl⟩

-- The words of the command that starts a container, up to what the layers add.
def containerStart (d : Docker) : List Word :=
  [bare "docker", bare "run", bare "--entrypoint="] ++ d.containerOptions ++
    (if d.workdir.isGiven then [bare "--workdir", quotedWord d.workdir.display] else []) ++
    d.runArgs.map quotedWord

-- What they come to.
def containerFields (d : Docker) : List String :=
  ["docker", "run", "--entrypoint=", "-i", "--rm"] ++ d.ports.flatMap (fun p => ["-p", p]) ++
    (if d.workdir.isGiven then ["--workdir", d.workdir.display] else []) ++ d.runArgs

theorem executor_words (d : Docker) :
    d.executor = " ".intercalate (inlineWords (containerStart d)) := by
  rfl

theorem option_readable {text : String}
    (spelled : text ∈ ["run", "--entrypoint=", "-i", "--rm", "-p", "--workdir"]) :
    Readable (bare text) ∧ StandsFor (bare text) text := by
  simp only [List.mem_cons, List.not_mem_nil, or_false] at spelled
  rcases spelled with rfl | rfl | rfl | rfl | rfl | rfl <;>
    exact ⟨bare_readable ⟨_, _, rfl, by decide⟩ (List.all_iff_forall_prop.mp (by decide)),
      bare_stands (by decide) (List.all_iff_forall_prop.mp (by decide))⟩

theorem containerStart_readable (d : Docker) : ∀ word ∈ (containerStart d).tail, Readable word := by
  intro word member
  simp only [containerStart, Docker.containerOptions, Docker.quotedText, List.cons_append,
    List.tail_cons, List.nil_append, List.mem_cons, List.mem_append, List.mem_flatMap,
    List.mem_map] at member
  rcases member with rfl | rfl | rfl | rfl | (⟨port, _, rfl | rfl | listed⟩ | workdir) | ⟨text, _, rfl⟩
  · exact (option_readable (by simp)).1
  · exact (option_readable (by simp)).1
  · exact (option_readable (by simp)).1
  · exact (option_readable (by simp)).1
  · exact (option_readable (by simp)).1
  · exact quotedWord_readable port
  · cases listed
  · split at workdir
    · simp only [List.mem_cons, List.not_mem_nil, or_false] at workdir
      rcases workdir with rfl | rfl
      · exact (option_readable (by simp)).1
      · exact quotedWord_readable _
    · cases workdir
  · exact quotedWord_readable text

theorem containerStart_stands (d : Docker) :
    List.Forall₂ StandsFor (containerStart d) (containerFields d) := by
  have fixed : List.Forall₂ StandsFor
      [bare "docker", bare "run", bare "--entrypoint=", bare "-i", bare "--rm"]
      ["docker", "run", "--entrypoint=", "-i", "--rm"] :=
    .cons (bare_stands (by decide) (List.all_iff_forall_prop.mp (by decide)))
      (.cons (option_readable (by simp)).2 (.cons (option_readable (by simp)).2
        (.cons (option_readable (by simp)).2 (.cons (option_readable (by simp)).2 .nil))))
  have ports : List.Forall₂ StandsFor (d.ports.flatMap fun p => [bare "-p", quotedWord p])
      (d.ports.flatMap fun p => ["-p", p]) := by
    induction d.ports with
    | nil => exact .nil
    | cons port ports rest =>
      exact .cons (option_readable (by simp)).2 (.cons (quotedWord_stands port) rest)
  have workdir : List.Forall₂ StandsFor
      (if d.workdir.isGiven then [bare "--workdir", quotedWord d.workdir.display] else [])
      (if d.workdir.isGiven then ["--workdir", d.workdir.display] else []) := by
    split
    · exact .cons (option_readable (by simp)).2 (.cons (quotedWord_stands _) .nil)
    · exact .nil
  exact List.rel_append (List.rel_append (List.rel_append fixed ports) workdir)
    (quotedWords_stand d.runArgs)

-- The printed test is the words with blanks between them, since none is empty.
theorem run_inline {words : List Word} (all : ∀ word ∈ words, Readable word) :
    (run words).inline = " ".intercalate (inlineWords words) := by
  have filled : (inlineWords words).filter (fun text => !text.isEmpty) = inlineWords words := by
    rw [List.filter_eq_self, inlineWords_eq_map]
    intro text member
    obtain ⟨word, listed, rfl⟩ := List.mem_map.mp member
    obtain ⟨c, rest, shape, _⟩ := (all word listed).begins
    cases empty : (inlineParts word).isEmpty with
    | false => rfl
    | true =>
      rw [String.isEmpty_iff.mp empty] at shape
      cases shape
  change spaced ([] ++ inlineWords words ++ []) = _
  rw [spaced, List.nil_append, List.append_nil, filled]

theorem choiceTest_readable (a : Argument) : ∀ word ∈ (choiceTest a).tail, Readable word := by
  intro word member
  simp only [choiceTest, List.cons_append, List.tail_cons, List.nil_append, List.mem_cons,
    List.mem_map] at member
  rcases member with rfl | ⟨text, _, rfl⟩
  · have named : isName "BW_VAL" = true := by decide
    exact quotedRef_reads named
  · exact quotedWord_readable text

theorem name_reads {name : String} (known : name ∈ ["docker", "bw_in_array"]) :
    ReadsAs name.toList (bare name) ∧ (∀ c ∈ name.toList, isNameChar c = true) ∧
      Reader.declarations.contains name = false := by
  simp only [List.mem_cons, List.not_mem_nil, or_false] at known
  rcases known with rfl | rfl <;>
    exact ⟨bare_reads ⟨_, _, rfl, by decide⟩ (List.all_iff_forall_prop.mp (by decide)),
      List.all_iff_forall_prop.mp (by decide), by decide⟩

-- The body of a double-quoted word is read back as the text by the rules of double
-- quotes, whatever follows. So words that are made of quoted texts are split and
-- expanded into these texts: those handed to the test of the choices, and those in
-- the command of a container.
theorem quoted_texts_exact :
    (∀ (text : String) (rest : List Char),
      readInQuotes ((quotedBody text).toList ++ '\x22' :: rest) = (text.toList, .closed rest)) ∧
    (∀ (text : String) (r : Reading) (source after : Source) (line fuel : Nat),
      Holds source (quotedBody text).toList → r.source = source ++ ('\x22', line) :: after →
        text.toList.length < fuel →
          ∃ parts, Reader.parts fuel .quoted (· == '\x22') r =
              .ok (parts, { r with source := ('\x22', line) :: after }) ∧
            ∀ E s, ∃ fragments, expandParts E true parts s = .ok fragments s ∧
              fragmentText fragments = text) ∧
    (∀ (texts : List String) (r : Reading) (fuel : Nat),
      Holds r.source (" ".intercalate (texts.map doubleQuoted)).toList →
        r.source.length + 3 ≤ fuel →
          ∃ words, Reader.words fuel r = .ok (words, { r with source := [] }) ∧
            ∀ E s, commandFields E words s = .ok ⟨texts, []⟩ s) ∧
    (∀ a : Argument,
      (a.body.texts.choices = [] ∨
        ∃ failing, checkChoices a = [when (.not (run (choiceTest a))) failing]) ∧
      (∀ (r : Reading) (rest : List Char) (fuel line : Nat), Settled r →
        Holds r.source ((run (choiceTest a)).inline.toList ++ ';' :: rest) →
          r.source.length + (choiceTest a).length + 4 ≤ fuel →
            ∃ line' left, Holds left (';' :: rest) ∧ Reader.simple fuel line [] [] [] r =
              .ok (.located line' (.simple [] (choiceTest a) []), { r with source := left })) ∧
      ∀ E s, commandFields E ((choiceTest a).drop 2) s = .ok ⟨a.body.texts.choices, []⟩ s) ∧
    (∀ d : Docker,
      (∀ (r : Reading) (rest : List Char) (fuel line : Nat), Settled r →
        Holds r.source (d.executor.toList ++ ' ' :: rest) → r.source.length + 3 ≤ fuel →
          ∃ line' left, Holds left (' ' :: rest) ∧
            Reader.simple (fuel + (containerStart d).length) line [] [] [] r =
              Reader.simple fuel line' [] (containerStart d) [] { r with source := left }) ∧
      ∀ E s, commandFields E (containerStart d) s = .ok ⟨containerFields d, []⟩ s) := by
  refine ⟨?_, ?_, ?_, ?_, ?_⟩
  · intro text rest
    rw [quotedBody, Escaping.escape, String.toList_ofList, read_escapeChars, read_closing,
      List.append_nil]
  · intro text r source after line fuel held here enough
    rw [quotedBody, Escaping.escape, String.toList_ofList] at held
    refine ⟨literal text, parts_escapeChars _ source held line after r here fuel enough, ?_⟩
    intro E s
    obtain ⟨pieces, ran, _, joined⟩ := literalParts_expand text.toList
    refine ⟨_, ran E s, ?_⟩
    rw [fragmentText, joinedText_kept, joined, String.ofList_toList]
  · intro texts r fuel held enough
    have reads : List.Forall₂ (fun text word => ReadsAs text.toList word)
        (texts.map doubleQuoted) (texts.map quotedWord) := by
      rw [List.forall₂_map_left_iff, List.forall₂_map_right_iff]
      exact List.forall₂_same.mpr fun text _ => quoted_reads text
    have size : r.source.length = (" ".intercalate (texts.map doubleQuoted)).toList.length := by
      rw [← held, List.length_map]
    refine ⟨_, words_joined reads held fuel (by omega), ?_⟩
    intro E s
    exact commandFields_stand (quotedWords_stand texts) E s
  · intro a
    refine ⟨checkChoices_test a, ?_, ?_⟩
    · intro r rest fuel line settled held enough
      obtain ⟨first, named, plain⟩ := name_reads (by simp : "bw_in_array" ∈ _)
      have readable : ∀ word ∈ choiceTest a, Readable word := by
        intro word member
        rcases List.mem_cons.mp member with rfl | later
        · exact bare_readable ⟨_, _, rfl, by decide⟩ (List.all_iff_forall_prop.mp (by decide))
        · exact choiceTest_readable a word later
      rw [run_inline readable] at held
      have size : (choiceTest a).length = (choiceTest a).tail.length + 1 := rfl
      have total := congrArg List.length held
      rw [List.length_map, List.length_append] at total
      obtain ⟨left, rfl⟩ : ∃ k, fuel = k + 3 + (choiceTest a).tail.length + 1 :=
        ⟨fuel - (choiceTest a).tail.length - 4, by omega⟩
      obtain ⟨next, after, heldAfter, taken⟩ := command_reads first named plain
        (choiceTest_readable a) ⟨_, _, rfl, Or.inr (Or.inl rfl)⟩ settled held (left + 3) line
        (by rw [show bare "bw_in_array" :: (choiceTest a).tail = choiceTest a from rfl]; omega)
      obtain ⟨n, others, rfl, _⟩ := holds_cons heldAfter
      refine ⟨next, _, heldAfter, taken.trans ?_⟩
      exact simple_end (settled_behind settled _) (Or.inl rfl) rfl plain _ [] left next
    · intro E s
      exact commandFields_stand (quotedWords_stand _) E s
  · intro d
    refine ⟨?_, ?_⟩
    · intro r rest fuel line settled held enough
      obtain ⟨first, named, plain⟩ := name_reads (by simp : "docker" ∈ _)
      rw [executor_words] at held
      have total := congrArg List.length held
      rw [List.length_map, List.length_append] at total
      obtain ⟨next, after, heldAfter, taken⟩ := command_reads first named plain
        (containerStart_readable d) ⟨_, _, rfl, Or.inl rfl⟩ settled held fuel line
        (by rw [show bare "docker" :: (containerStart d).tail = containerStart d from rfl]; omega)
      exact ⟨next, after, heldAfter, taken⟩
    · intro E s
      exact commandFields_stand (containerStart_stands d) E s

theorem quoted_texts_exact_at_marks :
    readInQuotes ((quotedBody "a\\\"$").toList ++ ['\x22', 'r']) = ("a\\\"$".toList, .closed ['r']) ∧
      ∃ words, Reader.words 20 (Reading.ofText false (" ".intercalate (["a b", "$x"].map doubleQuoted))) =
          .ok (words, { Reading.ofText false
            (" ".intercalate (["a b", "$x"].map doubleQuoted)) with source := [] }) ∧
        ∀ E s, commandFields E words s = .ok ⟨["a b", "$x"], []⟩ s :=
  ⟨quoted_texts_exact.1 "a\\\"$" ['r'],
    quoted_texts_exact.2.2.1 ["a b", "$x"] _ 20 (ofText_holds _) (by decide)⟩

end Toolwrap.Quoting
