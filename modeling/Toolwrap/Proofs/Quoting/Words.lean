import Toolwrap.Proofs.Quoting.Reading

-- Reading whole words: plain ones, quoted texts and quoted variables, and lists
-- of them as they stand in a command.

namespace Toolwrap.Quoting

open Shell

-- What may stand behind a word so that the word ends there. A redirection sign is
-- left out, because with a parenthesis behind it it begins another part.
def EndsWord (after : Source) : Prop :=
  ∀ entry ∈ after.head?, Reader.isMeta entry.1 = true ∧ entry.1 ≠ '<' ∧ entry.1 ≠ '>'

theorem endsWord_nil : EndsWord [] := by
  intro entry first
  cases first

theorem endsWord_cons {c : Char} (line : Nat) (after : Source)
    (ends : c = ' ' ∨ c = ';' ∨ c = '\n') : EndsWord ((c, line) :: after) := by
  intro entry first
  cases first
  rcases ends with rfl | rfl | rfl <;> simp [Reader.isMeta]

-- Characters that mean nothing to the reader of words.
def isPlainInText (c : Char) : Bool :=
  !Reader.isMeta c && !Mode.word.isSpecial c && !Reader.isGroupMark c

@[simp]
theorem word_single : Mode.word.single = true := rfl

@[simp]
theorem word_double : Mode.word.double = true := rfl

section Parts

variable {fuel : Nat} {r t : Reading} {ps : List Part}

theorem parts_at_end (fuel : Nat) (ends : EndsWord r.source) :
    Reader.parts (fuel + 1) .word Reader.isMeta r = .ok ([], r) := by
  rw [Reader.parts]
  rw [read_bind left_ok, read_bind isPlain_ok]
  cases here : r.source with
  | nil => rfl
  | cons entry rest =>
    obtain ⟨c, line⟩ := entry
    obtain ⟨stops, less, greater⟩ := ends (c, line) (by rw [here]; rfl)
    have group : c ∉ ['?', '*', '+', '@', '!'] := by
      intro member
      simp only [List.mem_cons, List.not_mem_nil, or_false] at member
      rcases member with rfl | rfl | rfl | rfl | rfl <;> simp [Reader.isMeta] at stops
    simp only [word_single, Bool.true_and, Bool.and_eq_true, beq_iff_eq, Option.map_eq_some_iff,
      Prod.exists, exists_and_right, exists_eq_right, Bool.or_eq_true, less, greater, or_self, and_false,
      Bool.not_eq_true', false_and, if_false, group, decide_false, Bool.and_false,
      Bool.false_and, Bool.false_eq_true, stops, if_true, bind_pure_comp, read_map read_get]

-- Text up to where no plain text goes on.
theorem parts_at_text {source after : Source} {run : List Char}
    (held : Holds source run) (filled : run ≠ [])
    (plain : ∀ c ∈ run, isPlainInText c = true)
    (ends : ∀ entry ∈ after.head?, isPlainInText entry.1 = false)
    (here : r.source = source ++ after)
    (rest : Reader.parts fuel .word Reader.isMeta { r with source := after } = .ok (ps, t)) :
    Reader.parts (fuel + 1) .word Reader.isMeta r = .ok (Reader.textThen (String.ofList run) ps, t) := by
  obtain ⟨c, run, rfl⟩ := List.exists_cons_of_ne_nil filled
  obtain ⟨n, later, rfl, heldLater⟩ := holds_cons held
  have all : ∀ entry ∈ (c, n) :: later, isPlainInText entry.1 = true := by
    intro entry member
    refine plain entry.1 ?_
    rw [← show List.map (·.1) ((c, n) :: later) = c :: run from held]
    exact List.mem_map_of_mem member
  have taken : r.source.takeWhile (fun entry => isPlainInText entry.1) = (c, n) :: later := by
    rw [here, List.takeWhile_append_of_pos all]
    cases after with
    | nil => simp
    | cons entry after => simp [ends entry (by simp)]
  have dropped : r.source.drop ((c, n) :: later).length = after := by
    rw [here, List.drop_left]
  have shown : Source.text ((c, n) :: later) = String.ofList (c :: run) :=
    congrArg String.ofList held
  have nonempty : (String.ofList (c :: run)).isEmpty = false := by simp
  have head := plain c (by simp)
  unfold isPlainInText Mode.isSpecial at head
  simp only [word_single, word_double, Bool.and_true, Bool.and_eq_true, Bool.not_eq_true',
    Bool.or_eq_false_iff] at head
  obtain ⟨⟨inside, ⟨⟨⟨backslash, dollar⟩, backtick⟩, single⟩, double⟩, group⟩ := head
  have marks : c ∉ ['?', '*', '+', '@', '!'] ∧ c ≠ '<' ∧ c ≠ '>' := by
    simp only [Reader.isGroupMark, decide_eq_false_iff_not] at group
    simp only [List.mem_cons, List.not_mem_nil, or_false, not_or] at group ⊢
    grind
  obtain ⟨extended, less, greater⟩ := marks
  rw [Reader.parts]
  rw [read_bind left_ok, read_bind isPlain_ok]
  rw [here, List.cons_append]
  have redirects : (c == '<' || c == '>') = false := by
    simp [less, greater]
  simp only [redirects, extended, inside, backslash, dollar, backtick, single, double, word_single,
    decide_false, Bool.false_and, Bool.and_false, Bool.true_and, Bool.false_eq_true, if_false]
  rw [read_bind read_get]
  rw [show (fun c => !Reader.isMeta c && !Mode.word.isSpecial c && !Reader.isGroupMark c) =
    isPlainInText from rfl]
  rw [read_bind (takeWhile_ok _), taken, dropped, shown]
  simp only [nonempty, Bool.false_eq_true, if_false]
  rw [read_bind rest, read_pure]

theorem parts_at_plain_word {source after : Source} {run : List Char}
    (held : Holds source run) (filled : run ≠ [])
    (plain : ∀ c ∈ run, isPlainInText c = true)
    (ends : EndsWord after)
    (here : r.source = source ++ after) :
    Reader.parts (fuel + 2) .word Reader.isMeta r =
      .ok ([.text (String.ofList run)], { r with source := after }) := by
  have stop : Reader.parts (fuel + 1) .word Reader.isMeta { r with source := after } =
      .ok ([], { r with source := after }) := parts_at_end fuel ends
  refine parts_at_text held filled plain (fun entry first => ?_) here stop
  simp [isPlainInText, (ends entry first).1]

theorem parts_at_single {source after : Source} {text : List Char} {m n : Nat} (closed : '\x27' ∉ text)
    (held : Holds source text) (here : r.source = ('\x27', m) :: (source ++ ('\x27', n) :: after))
    (rest : Reader.parts fuel .word Reader.isMeta { r with source := after } = .ok (ps, t)) :
    Reader.parts (fuel + 1) .word Reader.isMeta r = .ok (.single (String.ofList text) :: ps, t) := by
  have all : ∀ entry ∈ source, (entry.1 != '\x27') = true := by
    intro entry member
    have inside := List.mem_map_of_mem member (f := (·.1))
    rw [show source.map (·.1) = text from held] at inside
    simpa using fun quote : entry.1 = '\x27' => closed (quote ▸ inside)
  have taken : (source ++ ('\x27', n) :: after).takeWhile (fun c => c.1 != '\x27') = source := by
    rw [List.takeWhile_append_of_pos all]
    simp
  have passed : Reader.passes "'" { r with source := ('\x27', n) :: after } =
      .ok (true, { r with source := after }) := rfl
  have inside : Reader.isMeta '\x27' = false := by decide
  rw [Reader.parts]
  rw [read_bind left_ok, read_bind isPlain_ok, here]
  simp [read_bind read_get, inside]
  rw [read_bind (skip_ok 1), here, List.drop_one, List.tail_cons]
  rw [read_bind (takeWhile_ok _), taken, List.drop_left, read_bind passed]
  simp [read_map rest, Source.text, show source.map (·.1) = text from held]

theorem parts_at_double (inner after : Source) (m n : Nat) {body : List Part}
    (here : r.source = ('\x22', m) :: inner)
    (quoted : Reader.parts fuel .quoted (· == '\x22') { r with source := inner } =
      .ok (body, { r with source := ('\x22', n) :: after }))
    (rest : Reader.parts fuel .word Reader.isMeta { r with source := after } = .ok (ps, t)) :
    Reader.parts (fuel + 1) .word Reader.isMeta r = .ok (.double body :: ps, t) := by
  have quotes : Reader.passes "\"" { r with source := ('\x22', n) :: after } =
      .ok (true, { r with source := after }) := rfl
  rw [Reader.parts]
  rw [read_bind left_ok, read_bind isPlain_ok, here]
  have inside : Reader.isMeta '\x22' = false := by decide
  simp [read_bind read_get, inside]
  rw [read_bind (skip_ok 1), here, List.drop_one, List.tail_cons, read_bind quoted, read_bind quotes]
  simp [read_map rest]

end Parts

-- A character at which nothing but a word can begin, once a command has its name.
def startsWord (c : Char) : Bool := c == '\x22' || c == '-' || isNameStart c

-- A text that is read as one word wherever a command has it behind a blank.
structure ReadsAs (text : List Char) (word : Word) : Prop where
  begins : ∃ c rest, text = c :: rest ∧ startsWord c = true
  filled : word ≠ []
  reads : ∀ (r : Reading) (source after : Source) (fuel : Nat),
    Holds source text → EndsWord after → r.source = source ++ after → text.length + 2 ≤ fuel →
      Reader.parts fuel .word Reader.isMeta r = .ok (word, { r with source := after })

-- What stands behind a word of a list: a blank, if anything.
def Spaced (after : Source) : Prop := ∀ entry ∈ after.head?, entry.1 = ' '

-- A text that is read as one word of a list.
structure IsWord (text : List Char) (word : Word) : Prop where
  begins : ∃ c rest, text = c :: rest ∧ c ∉ [' ', '\t', '\\', '#']
  filled : word ≠ []
  reads : ∀ (r : Reading) (source after : Source) (fuel : Nat),
    Holds source text → Spaced after → r.source = source ++ after → text.length + 2 ≤ fuel →
      Reader.parts fuel .word Reader.isMeta r = .ok (word, { r with source := after })

theorem Spaced.ends {after : Source} (spaced : Spaced after) : EndsWord after := by
  intro entry first
  rw [spaced entry first]
  decide

theorem bare_reads {run : String}
    (begins : ∃ c rest, run.toList = c :: rest ∧ startsWord c = true)
    (plain : ∀ c ∈ run.toList, isPlainInText c = true) :
    ReadsAs run.toList (bare run) := by
  refine ⟨begins, by simp [bare], ?_⟩
  intro r source after fuel held ends here enough
  obtain ⟨fuel, rfl⟩ : ∃ n, fuel = n + 2 := ⟨fuel - 2, by omega⟩
  obtain ⟨c, rest, shape, _⟩ := begins
  rw [parts_at_plain_word held (by simp [shape]) plain ends here, String.ofList_toList]
  rfl

theorem toList_doubleQuoted (s : String) :
    (doubleQuoted s).toList =
      '\x22' :: (Escaping.inQuotes.escapeChars s.toList ++ ['\x22']) := by
  simp [doubleQuoted, quotedBody, Escaping.escape]

theorem escapeChars_length (text : List Char) :
    text.length ≤ (Escaping.inQuotes.escapeChars text).length := by
  induction text with
  | nil => simp
  | cons c text longer =>
    rw [escapeChars_cons, List.length_append, List.length_cons]
    rcases escapeChar_cases c with ⟨_, written⟩ | ⟨_, written⟩ <;>
      rw [written] <;> simp <;> omega

theorem quoted_reads (s : String) : ReadsAs (doubleQuoted s).toList (quotedWord s) := by
  rw [toList_doubleQuoted]
  refine ⟨⟨_, _, rfl, by decide⟩, by simp [quotedWord], ?_⟩
  intro r source after fuel held ends here enough
  obtain ⟨m, inner, rfl, heldInner⟩ := holds_cons held
  obtain ⟨body, closing, rfl, heldBody, heldClosing⟩ := holds_append heldInner
  obtain ⟨n, none_, rfl, heldNone⟩ := holds_cons heldClosing
  have empty : none_ = [] := List.map_eq_nil_iff.mp heldNone
  subst empty
  have longer := escapeChars_length s.toList
  simp only [List.length_cons, List.length_append, List.length_nil] at enough
  obtain ⟨fuel, rfl⟩ : ∃ n, fuel = n + 2 := ⟨fuel - 2, by omega⟩
  refine parts_at_double (body ++ ('\x22', n) :: after) after m n ?_
    (parts_escapeChars s.toList body heldBody n after _ rfl (fuel + 1) (by omega))
    (parts_at_end fuel ends)
  rw [here]
  simp

theorem peek_ok {r : Reading} : Reader.peek? r = .ok (r.source.head?.map (·.1), r) := rfl

theorem lineHere_ok {r : Reading} :
    Reader.lineHere r = .ok ((r.source.head?.map (·.2)).getD (r.ending - 1), r) := rfl

theorem nameStart_ne {c d : Char} (first : isNameStart c = true) (other : isNameStart d = false) :
    c ≠ d := by
  rintro rfl
  rw [first] at other
  cases other

theorem nameChar_of_nameStart {c : Char} (first : isNameStart c = true) : isNameChar c = true := by
  simp only [isNameStart, isNameChar, Char.isAlphanum, Bool.or_eq_true] at first ⊢
  grind

theorem dollar_name (fuel : Nat) {r : Reading} {x : String} {name after : Source} {n : Nat}
    (named : isName x = true) (held : Holds name x.toList)
    (here : r.source = name ++ ('\x22', n) :: after) :
    Reader.dollar (fuel + 1) .quoted r =
      .ok (.param x [] .plain, { r with source := ('\x22', n) :: after }) := by
  unfold isName at named
  split at named
  · rename_i c rest shape
    rw [shape] at held
    obtain ⟨m, later, rfl, heldLater⟩ := holds_cons held
    simp only [Bool.and_eq_true] at named
    obtain ⟨first, others⟩ := named
    have all : ∀ entry ∈ (c, m) :: later, isNameChar entry.1 = true := by
      intro entry member
      have listed : entry.1 ∈ c :: rest := by
        rw [← show List.map (·.1) ((c, m) :: later) = c :: rest from held]
        exact List.mem_map_of_mem member
      rcases List.mem_cons.mp listed with same | later
      · rw [same]
        exact nameChar_of_nameStart first
      · exact List.all_eq_true.mp others _ later
    have taken : r.source.takeWhile (fun entry => isNameChar entry.1) = (c, m) :: later := by
      rw [here, List.takeWhile_append_of_pos all]
      simp [isNameChar]
    have dropped : r.source.drop ((c, m) :: later).length = ('\x22', n) :: after := by
      rw [here, List.drop_left]
    have shown : Source.text ((c, m) :: later) = x := by
      rw [Source.text, held, ← shape, String.ofList_toList]
    rw [Reader.dollar]
    rw [read_bind lineHere_ok, read_bind isPlain_ok, read_bind peek_ok, here]
    have marks : c ≠ '(' ∧ c ≠ '[' ∧ c ≠ '\x7b' :=
      ⟨nameStart_ne first rfl, nameStart_ne first rfl, nameStart_ne first rfl⟩
    obtain ⟨paren, bracket, brace⟩ := marks
    rw [here] at taken dropped
    simp [first, read_map (takeWhile_ok _)]
    simp only [here, taken, dropped, shown, and_self]
  · cases named

theorem quotedRef_reads {x : String} (named : isName x = true) :
    ReadsAs ("\"$" ++ x ++ "\"").toList (quotedRef x) := by
  have spelled : ("\"$" ++ x ++ "\"").toList = '\x22' :: '$' :: (x.toList ++ ['\x22']) := by
    simp
  rw [spelled]
  refine ⟨⟨_, _, rfl, by decide⟩, by simp [quotedRef], ?_⟩
  intro r source after fuel held ends here enough
  obtain ⟨m, inner, rfl, heldInner⟩ := holds_cons held
  obtain ⟨k, shown, rfl, heldShown⟩ := holds_cons heldInner
  obtain ⟨name, closing, rfl, heldName, heldClosing⟩ := holds_append heldShown
  obtain ⟨n, none_, rfl, heldNone⟩ := holds_cons heldClosing
  have empty : none_ = [] := List.map_eq_nil_iff.mp heldNone
  subst empty
  simp only [List.length_cons, List.length_append, List.length_nil] at enough
  obtain ⟨fuel, rfl⟩ : ∃ n, fuel = n + 3 := ⟨fuel - 3, by omega⟩
  refine parts_at_double (('$', k) :: name ++ ('\x22', n) :: after) after m n ?_ ?_
    (parts_at_end (fuel + 1) ends)
  · rw [here]
    simp
  · have read := dollar_name fuel (r := { r with source := name ++ ('\x22', n) :: after })
      named heldName rfl
    have stop := parts_at_quote fuel (r := { r with source := ('\x22', n) :: after }) rfl
    rw [Reader.parts]
    rw [read_bind left_ok, read_bind isPlain_ok]
    simp [read_bind read_get]
    rw [read_bind (skip_ok 1)]
    simp only [List.drop_one, List.tail_cons]
    rw [read_bind read, read_map stop]
    rfl

end Toolwrap.Quoting
