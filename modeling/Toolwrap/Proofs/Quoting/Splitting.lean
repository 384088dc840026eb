import Toolwrap.Proofs.Quoting.Exact
import Toolwrap.Proofs.Running.Pieces
import Toolwrap.Requirement

-- How the shell splits the text of a command into words, where it has nothing to expand. Texts that
-- are quoted for a command are split again into just these texts, each of them into one word, and the
-- reader of programs takes them so too.

namespace Toolwrap.Quoting

open Shell Running

section Written

variable {c d : Char}

theorem plainInWord_ne (plain : isPlainInWord c = true) (other : isPlainInWord d = false) : c ≠ d := by
  rintro rfl
  rw [plain] at other
  cases other

-- The body of a text in single quotes.
def singleBody (text : List Char) : List Char :=
  text.flatMap fun c => if c = '\x27' then ['\x27', '\x22', '\x27', '\x22', '\x27'] else [c]

theorem singleBody_piece {piece : List Char} (free : '\x27' ∉ piece) : singleBody piece = piece := by
  induction piece with
  | nil => rfl
  | cons c piece kept =>
    have other : c ≠ '\x27' := fun quote => free (quote ▸ List.mem_cons_self ..)
    have rest : singleBody piece = piece := kept fun member => free (List.mem_cons_of_mem _ member)
    unfold singleBody at rest ⊢
    rw [List.flatMap_cons, if_neg other, rest]
    rfl

theorem singleBody_next (piece rest : List Char) (free : '\x27' ∉ piece) :
    singleBody (piece ++ '\x27' :: rest) = piece ++ '\x27' :: '\x22' :: '\x27' :: '\x22' :: '\x27' :: singleBody rest := by
  have front := singleBody_piece free
  unfold singleBody at front ⊢
  rw [List.flatMap_append, front, List.flatMap_cons, if_pos rfl]
  rfl

theorem singleQuotedChars_cases (text : List Char) :
    (text ≠ [] ∧ (∀ c ∈ text, isPlainInWord c = true) ∧ singleQuotedChars text = text) ∨
      singleQuotedChars text = '\x27' :: (singleBody text ++ ['\x27']) := by
  unfold singleQuotedChars
  split
  · rename_i empty
    rw [List.isEmpty_iff.mp empty]
    exact Or.inr rfl
  · rename_i filled
    split
    · rename_i plain
      exact Or.inl ⟨mt List.isEmpty_iff.mpr filled, List.all_eq_true.mp plain, rfl⟩
    · exact Or.inr rfl

end Written

-- Where the splitting stands: between two words, in a word, or behind a quote that is open in it.
inductive Standing where
  | between | inside | single | double
  deriving DecidableEq

-- What the shell acts upon outside of quotes, besides the quotes and what is between words.
def activeSigns : List Char :=
  ['\n', ';', '&', '|', '<', '>', '(', ')', '$', '\x60', '*', '?', '[', ']', '#', '~', '!', '^', '\x7b', '\x7d']

-- A piece of text in front of what belongs to the same word.
def joined (piece : List Char) (found : Option (List (List Char))) : Option (List (List Char)) :=
  found.map (List.modifyHead (piece ++ ·))

-- The words of a text, none if a quote stays open or if it is more than words. Pieces without a
-- blank between them are one word, and a backslash takes a line end away.
def wordsFrom : Standing → List Char → Option (List (List Char))
  | .between, [] => some []
  | .inside, [] => some [[]]
  | .single, [] => none
  | .double, [] => none
  | .single, c :: rest => if c = '\x27' then wordsFrom .inside rest else joined [c] (wordsFrom .single rest)
  | .double, '\\' :: '\n' :: rest => wordsFrom .double rest
  | .double, '\\' :: c :: rest => joined (if losesMeaning c then [c] else ['\\', c]) (wordsFrom .double rest)
  | .double, c :: rest =>
    if c = '\x22' then wordsFrom .inside rest
    else if c = '$' ∨ c = '\x60' then none
    else joined [c] (wordsFrom .double rest)
  | s, '\\' :: '\n' :: rest => wordsFrom s rest
  | _, '\\' :: c :: rest => joined [c] (wordsFrom .inside rest)
  | s, c :: rest =>
    if c = '\x27' then wordsFrom .single rest
    else if c = '\x22' then wordsFrom .double rest
    else if Reader.isBlank c then (wordsFrom .between rest).map (if s = .inside then ([] :: ·) else id)
    else if c ∈ activeSigns then none
    else joined [c] (wordsFrom .inside rest)

def wordsOf (text : String) : Option (List String) := (wordsFrom .between text.toList).map (List.map String.ofList)

example : wordsOf "a 'b c'\"'\"d \\\n e" = some ["a", "b c'd", "e"] := by decide

section Pieces

variable {s : Standing} {c d : Char} {text rest : List Char}

theorem joined_none (found : Option (List (List Char))) : joined [] found = found := by
  unfold joined
  cases found with
  | none => rfl
  | some words => cases words <;> rfl

theorem joined_more (first second : List Char) (found : Option (List (List Char))) :
    joined first (joined second found) = joined (first ++ second) found := by
  unfold joined
  rw [Option.map_map]
  congr 1
  funext words
  cases words with
  | nil => rfl
  | cons word words => simp

theorem plainInWord_inactive (plain : isPlainInWord c = true) : c ∉ activeSigns := by
  have none_ : ∀ d ∈ activeSigns, isPlainInWord d = false := List.all_iff_forall_prop.mp (by decide)
  exact fun listed => plainInWord_ne plain (none_ c listed) rfl

-- Outside of quotes, a plain character goes on with the word or begins one.
theorem wordsFrom_plain (outside : s = .between ∨ s = .inside) (plain : isPlainInWord c = true) :
    wordsFrom s (c :: rest) = joined [c] (wordsFrom .inside rest) := by
  have backslash : c ≠ '\\' := plainInWord_ne plain (by decide)
  have single : c ≠ '\x27' := plainInWord_ne plain (by decide)
  have double : c ≠ '\x22' := plainInWord_ne plain (by decide)
  have blank : Reader.isBlank c = false := by
    have space : c ≠ ' ' := plainInWord_ne plain (by decide)
    have tab : c ≠ '\t' := plainInWord_ne plain (by decide)
    simp [Reader.isBlank, space, tab]
  have inactive := plainInWord_inactive plain
  rcases outside with rfl | rfl <;> rw [wordsFrom] <;> simp_all

theorem wordsFrom_run (plain : ∀ c ∈ text, isPlainInWord c = true) :
    wordsFrom .inside (text ++ rest) = joined text (wordsFrom .inside rest) := by
  induction text with
  | nil => exact (joined_none _).symm
  | cons c text more =>
    rw [List.cons_append, wordsFrom_plain (Or.inr rfl) (plain c List.mem_cons_self),
      more fun d member => plain d (List.mem_cons_of_mem _ member), joined_more]
    rfl

-- A text between single quotes, where its own ones stand between double quotes.
theorem wordsFrom_body (text : List Char) :
    wordsFrom .single (singleBody text ++ '\x27' :: rest) = joined text (wordsFrom .inside rest) := by
  unfold singleBody
  induction text with
  | nil => exact (joined_none _).symm
  | cons c text more =>
    have onward : joined (c :: text) (wordsFrom .inside rest) = joined [c] (joined text (wordsFrom .inside rest)) :=
      (joined_more [c] text _).symm
    rw [List.flatMap_cons, List.append_assoc, onward, ← more]
    by_cases quote : c = '\x27'
    · rw [if_pos quote, quote]
      simp [wordsFrom]
    · rw [if_neg quote, List.singleton_append, wordsFrom, if_neg quote]

theorem wordsFrom_singleQuoted (text : List Char) :
    wordsFrom .between (singleQuotedChars text ++ rest) = joined text (wordsFrom .inside rest) := by
  rcases singleQuotedChars_cases text with ⟨filled, plain, same⟩ | quoted
  · obtain ⟨c, text, rfl⟩ := List.exists_cons_of_ne_nil filled
    rw [same, List.cons_append, wordsFrom_plain (Or.inl rfl) (plain c (List.mem_cons_self ..)),
      wordsFrom_run fun d member => plain d (List.mem_cons_of_mem _ member), joined_more]
    rfl
  · rw [quoted, List.cons_append, List.append_assoc, List.singleton_append, ← wordsFrom_body]
    simp [wordsFrom]

theorem wordsFrom_spacedOut (outside : s = .between ∨ s = .inside) (texts : List (List Char)) :
    wordsFrom s (spacedOut (texts.map singleQuotedChars)) = some (if s = .inside then [] :: texts else texts) := by
  induction texts generalizing s with
  | nil => rcases outside with rfl | rfl <;> rfl
  | cons text texts more =>
    have shape : spacedOut ((text :: texts).map singleQuotedChars) =
        ' ' :: (singleQuotedChars text ++ spacedOut (texts.map singleQuotedChars)) := by
      simp [spacedOut]
    have blank : ∀ rest, wordsFrom s (' ' :: rest) =
        (wordsFrom .between rest).map (if s = .inside then ([] :: ·) else id) := by
      rcases outside with rfl | rfl <;> simp [wordsFrom, Reader.isBlank]
    rw [shape, blank, wordsFrom_singleQuoted, more (Or.inr rfl)]
    rcases outside with rfl | rfl <;> simp [joined]

end Pieces

section Plain

variable {r t : Reading} {fuel : Nat} {ps : List Part} {after : Source} {c : Char} {n : Nat}

-- A mark that begins a group with a parenthesis behind it is text without one.
theorem parts_at_mark (mark : c = '+' ∨ c = '@') (here : r.source = (c, n) :: after)
    (apart : ∀ entry ∈ after.head?, entry.1 ≠ '(')
    (rest : Reader.parts fuel .word Reader.isMeta { r with source := after } = .ok (ps, t)) :
    Reader.parts (fuel + 1) .word Reader.isMeta r = .ok (Reader.textThen (String.singleton c) ps, t) := by
  have single : ((after.head?.map (·.1)) == some '(') = false := by
    cases after with
    | nil => rfl
    | cons entry after => simpa using apart entry rfl
  have none_ : r.source.takeWhile (fun entry => isPlainInText entry.1) = [] := by
    rw [here]
    rcases mark with rfl | rfl <;> rfl
  have plain : Reader.isMeta c = false ∧ (c == '\\') = false ∧ (c == '\x27') = false ∧ (c == '\x22') = false ∧
      (c == '$') = false ∧ (c == '\x60') = false := by
    rcases mark with rfl | rfl <;> decide
  obtain ⟨closed, backslash, quote, double, dollar, backtick⟩ := plain
  rw [Reader.parts]
  rw [read_bind left_ok, read_bind isPlain_ok, here]
  simp only [single, closed, backslash, quote, double, dollar, backtick, Bool.and_false, Bool.false_and,
    Bool.false_eq_true, if_false]
  have stops : (fun c => !Reader.isMeta c && !Mode.word.isSpecial c && !(Mode.word.single && Reader.isGroupMark c)) =
      isPlainInText := rfl
  have empty : (Source.text []).isEmpty = true := rfl
  rw [read_bind read_get, stops, read_bind (takeWhile_ok _), none_, if_pos empty, read_bind (skip_ok 1)]
  simp only [here, List.length_nil, List.drop_zero, List.drop_one, List.tail_cons]
  rw [read_bind rest, read_pure]

theorem plainInWord_text (plain : isPlainInWord c = true) (other : Reader.isGroupMark c = false) :
    isPlainInText c = true := by
  have closed : Reader.isMeta c = false := by
    have signs : ∀ d ∈ [' ', '\t', '\n', ';', '&', '|', '<', '>', '(', ')'], isPlainInWord d = false :=
      List.all_iff_forall_prop.mp (by decide)
    exact decide_eq_false fun listed => plainInWord_ne plain (signs c listed) rfl
  have solid : Mode.word.isSpecial c = false := by
    have backslash : c ≠ '\\' := plainInWord_ne plain (by decide)
    have dollar : c ≠ '$' := plainInWord_ne plain (by decide)
    have backtick : c ≠ '\x60' := plainInWord_ne plain (by decide)
    have single : c ≠ '\x27' := plainInWord_ne plain (by decide)
    have double : c ≠ '\x22' := plainInWord_ne plain (by decide)
    simp [Mode.isSpecial, backslash, dollar, backtick, single, double]
  simp [isPlainInText, closed, solid, other]

theorem plainInWord_mark (plain : isPlainInWord c = true) (mark : Reader.isGroupMark c = true) : c = '+' ∨ c = '@' := by
  have listed := of_decide_eq_true mark
  simp only [List.mem_cons, List.not_mem_nil, or_false] at listed
  rcases listed with rfl | rfl | rfl | rfl | rfl | rfl | rfl <;> simp [isPlainInWord] at plain ⊢

-- What comes first in a text or, if that is empty, behind it.
theorem head_behind {P : Char → Prop} {source : Source} {text : List Char} (held : Holds source text)
    (first : ∀ c ∈ text.head?, P c) (spaced : Spaced after) (blank : P ' ') :
    ∀ entry ∈ (source ++ after).head?, P entry.1 := by
  intro entry listed
  cases text with
  | nil =>
    rw [List.map_eq_nil_iff.mp held] at listed
    rw [spaced entry listed]
    exact blank
  | cons c text =>
    obtain ⟨n, tail, rfl, _⟩ := holds_cons held
    cases listed
    exact first c rfl

def runPart (run : List Char) : Word := if run = [] then [] else [.text (String.ofList run)]

theorem textThen_run (front back : List Char) :
    Reader.textThen (String.ofList front) (runPart back) = [.text (String.ofList (front ++ back))] := by
  unfold runPart
  split
  · rename_i empty
    rw [empty, List.append_nil]
    rfl
  · rw [String.ofList_append]
    rfl

-- Plain text up to the next blank, however many marks are in it. A mark is read on its own, and the text
-- between two marks at once.
theorem plain_reads {run : List Char} (plain : ∀ c ∈ run, isPlainInWord c = true) (spaced : Spaced after)
    {source : Source} (held : Holds source run) (here : r.source = source ++ after) (enough : run.length < fuel) :
    Reader.parts fuel .word Reader.isMeta r = .ok (runPart run, { r with source := after }) := by
  obtain ⟨fuel, rfl⟩ : ∃ n, fuel = n + 1 := ⟨fuel - 1, by omega⟩
  induction run using @spans_induction Reader.isGroupMark generalizing r source fuel with
  | nil =>
    rw [List.map_eq_nil_iff.mp held, List.nil_append] at here
    rw [parts_at_end (r := r) fuel (by rw [here]; exact spaced.ends), ← here]
    rfl
  | single c run mark read =>
    have later : ∀ d ∈ run, isPlainInWord d = true := fun d member => plain d (List.mem_cons_of_mem _ member)
    obtain ⟨n, tail, rfl, heldTail⟩ := holds_cons held
    rw [List.length_cons] at enough
    obtain ⟨fuel, rfl⟩ : ∃ n, fuel = n + 1 := ⟨fuel - 1, by omega⟩
    have others : ∀ d ∈ run.head?, d ≠ '(' := fun d first =>
      plainInWord_ne (later d (List.mem_of_head? first)) (by decide)
    have apart : ∀ entry ∈ (tail ++ after).head?, entry.1 ≠ '(' :=
      head_behind (P := (· ≠ '(')) heldTail others spaced (by decide)
    rw [parts_at_mark (plainInWord_mark (plain c (List.mem_cons_self ..)) mark) here apart
      (read later heldTail rfl fuel (by omega))]
    exact congrArg (fun word => Except.ok (word, _)) (textThen_run [c] run)
  | span c run rest unmarked marked read =>
    have front : ∀ d ∈ c :: run, isPlainInText d = true := fun d member =>
      plainInWord_text (plain d (List.mem_append_left _ member)) (unmarked d member)
    have later : ∀ d ∈ rest, isPlainInWord d = true := fun d member => plain d (List.mem_append_right _ member)
    obtain ⟨before, tail, rfl, heldFront, heldTail⟩ := holds_append held
    rw [List.length_append, List.length_cons] at enough
    obtain ⟨fuel, rfl⟩ : ∃ n, fuel = n + 1 := ⟨fuel - 1, by omega⟩
    rw [List.append_assoc] at here
    have stops : ∀ d ∈ rest.head?, isPlainInText d = false := fun d first => by
      simp [isPlainInText, marked d first]
    have ends : ∀ entry ∈ (tail ++ after).head?, isPlainInText entry.1 = false :=
      head_behind (P := (isPlainInText · = false)) heldTail stops spaced (by decide)
    rw [parts_at_text heldFront (List.cons_ne_nil _ _) front ends here (read later heldTail rfl fuel (by omega)),
      textThen_run]
    rfl

end Plain

-- The word that the pieces between the single quotes of a text are read as, when these stand between double quotes.
def quotedPieces : List (List Char) → Word
  | [] => []
  | [piece] => [.single (String.ofList piece)]
  | piece :: rest => .single (String.ofList piece) :: .double [.text "'"] :: quotedPieces rest

def quotedParts (text : List Char) : Word := quotedPieces (Text.Chars.splitAt '\x27' text)

section Quoted

variable {E : Engine} {s : Session} {piece rest text : List Char} {p : Part} {ps : List Part}
  {fragments more : List Fragment}

theorem quotedParts_last (free : '\x27' ∉ piece) : quotedParts piece = [.single (String.ofList piece)] := by
  unfold quotedParts
  rw [splitAt_absent free]
  rfl

theorem quotedParts_next (free : '\x27' ∉ piece) :
    quotedParts (piece ++ '\x27' :: rest) = .single (String.ofList piece) :: .double [.text "'"] :: quotedParts rest := by
  obtain ⟨first, others, shape⟩ := splitAt_filled '\x27' rest
  unfold quotedParts
  rw [splitAt_append, splitAt_absent free, shape]
  rfl

theorem quotedParts_reads {r : Reading} {source after : Source} {m fuel : Nat}
    (held : Holds source (singleBody text ++ ['\x27'])) (spaced : Spaced after)
    (here : r.source = ('\x27', m) :: (source ++ after)) (enough : (singleBody text).length + 2 ≤ fuel) :
    Reader.parts fuel .word Reader.isMeta r = .ok (quotedParts text, { r with source := after }) := by
  obtain ⟨fuel, rfl⟩ : ∃ n, fuel = n + 2 := ⟨fuel - 2, by omega⟩
  induction text using @pieces_induction '\x27' generalizing r source m fuel with
  | last piece free =>
    rw [singleBody_piece free] at held
    obtain ⟨body, closing, rfl, heldBody, heldClosing⟩ := holds_append held
    obtain ⟨n, none_, rfl, heldNone⟩ := holds_cons heldClosing
    rw [List.map_eq_nil_iff.mp heldNone, List.append_assoc] at here
    rw [quotedParts_last free]
    exact parts_at_single free heldBody here (parts_at_end fuel spaced.ends)
  | next piece rest free more =>
    rw [singleBody_next piece rest free, List.append_assoc] at held
    rw [singleBody_next piece rest free, List.length_append] at enough
    simp only [List.length_cons] at enough
    obtain ⟨body, marks, rfl, heldBody, heldMarks⟩ := holds_append held
    obtain ⟨a, _, rfl, heldOpen⟩ := holds_cons heldMarks
    obtain ⟨b, _, rfl, heldQuote⟩ := holds_cons heldOpen
    obtain ⟨c, _, rfl, heldClose⟩ := holds_cons heldQuote
    obtain ⟨d, _, rfl, heldNext⟩ := holds_cons heldClose
    obtain ⟨e, tail, rfl, heldTail⟩ := holds_cons heldNext
    obtain ⟨fuel, rfl⟩ : ∃ n, fuel = n + 2 := ⟨fuel - 2, by omega⟩
    rw [List.append_assoc] at here
    rw [quotedParts_next free]
    refine parts_at_single free heldBody here (parts_at_double _ (('\x27', e) :: (tail ++ after)) b d rfl ?_
      (more heldTail rfl fuel (by omega)))
    exact parts_escapeChars ['\x27'] [('\x27', c)] rfl d _ _ rfl (fuel + 2) (by simp)

-- A part that is no text of its own, in front of others.
theorem expandWord_part {mode : Tilde.Mode} {first : Bool} (other : ∀ t, p ≠ .text t)
    (one : p.expand E false s = .ok fragments s) (others : expandWord E false mode false ps s = .ok more s) :
    expandWord E false mode first (p :: ps) s = .ok (fragments ++ more) s := by
  rw [expandWord]
  · rw [bind_ok one]
    exact bind_ok others
  · exact fun t same => absurd same (other t)

theorem quotedParts_expand (text : List Char) : ∃ kept : List (List Char), kept ≠ [] ∧ kept.flatten = text ∧
    ∀ E s first, expandWord E false .word first (quotedParts text) s = .ok (kept.map .kept) s := by
  have single : ∀ (piece : List Char) E s, Part.expand E false (.single (String.ofList piece)) s = .ok [.kept piece] s := by
    intro piece E s
    rw [Part.expand, String.toList_ofList, pure_ok]
  have double : ∀ E s, Part.expand E false (.double [.text "'"]) s = .ok [.kept ['\x27']] s := fun _ _ => rfl
  induction text using @pieces_induction '\x27' with
  | last piece free =>
    refine ⟨[piece], List.cons_ne_nil _ _, List.append_nil _, fun E s first => ?_⟩
    rw [quotedParts_last free]
    exact expandWord_part (by rintro _ ⟨⟩) (single piece E s) (by rw [expandWord, pure_ok])
  | next piece rest free more =>
    obtain ⟨kept, -, joined, ran⟩ := more
    refine ⟨piece :: ['\x27'] :: kept, List.cons_ne_nil _ _, ?_, fun E s first => ?_⟩
    · rw [List.flatten_cons, List.flatten_cons, joined]
      rfl
    · rw [quotedParts_next free]
      refine expandWord_part (by rintro _ ⟨⟩) (single piece E s) ?_
      exact expandWord_part (by rintro _ ⟨⟩) (double E s) (ran E s false)

theorem quotedParts_unfolded (text : List Char) : (quotedParts text).unfolded = [quotedParts text] := by
  have none_ : (Atom.ofWord (quotedParts text)).any (Atom.isChar '\x7b') = false := by
    induction text using @pieces_induction '\x27' with
    | last piece free =>
      rw [quotedParts_last free]
      rfl
    | next piece rest free more =>
      rw [quotedParts_next free]
      exact more
  unfold Word.unfolded
  rw [if_neg (by rw [none_]; decide)]

theorem quotedParts_filled (text : List Char) : ∃ piece others, quotedParts text = .single piece :: others := by
  induction text using @pieces_induction '\x27' with
  | last piece free => exact ⟨_, _, quotedParts_last free⟩
  | next piece rest free _ => exact ⟨_, _, quotedParts_next free⟩

theorem quotedParts_stands (text : String) : StandsFor (quotedParts text.toList) text := by
  obtain ⟨kept, filled, joined, ran⟩ := quotedParts_expand text.toList
  refine ⟨fun a same => ?_, fun E s => kept_fields (quotedParts_unfolded _) filled (ran E s true) joined⟩
  obtain ⟨piece, others, shape⟩ := quotedParts_filled text.toList
  rw [shape] at same
  cases same

end Quoted

section Whole

variable {text : String}

theorem plainInWord_not_glob {run : List Char} (plain : ∀ c ∈ run, isPlainInWord c = true) (groups : Bool) :
    isGlob groups (run.map fun c => (c, false)) = false := by
  induction run with
  | nil => rfl
  | cons c run more =>
    have first := plain c (List.mem_cons_self ..)
    have later : ∀ d ∈ run, isPlainInWord d = true := fun d member => plain d (List.mem_cons_of_mem _ member)
    have star : c ≠ '*' := plainInWord_ne first (by decide)
    have one : c ≠ '?' := plainInWord_ne first (by decide)
    have bracket : c ≠ '[' := plainInWord_ne first (by decide)
    have apart : run.head? ≠ some '(' := by
      cases run with
      | nil => nofun
      | cons d run =>
        have other : d ≠ '(' := plainInWord_ne (later d (List.mem_cons_self ..)) (by decide)
        simp [other]
    rw [List.map_cons, isGlob, more later]
    simp [isGlobMark, star, one, bracket, apart]

theorem plain_stands (filled : text.toList ≠ []) (plain : ∀ c ∈ text.toList, isPlainInWord c = true) :
    StandsFor (bare text) text := by
  have free : ∀ d, isPlainInWord d = false → d ∉ text.toList := fun d other listed =>
    plainInWord_ne (plain d listed) other rfl
  refine ⟨fun a same => ?_, fun E s => ?_⟩
  · simp [bare] at same
  · exact bare_alone filled (free _ (by decide)) (free _ (by decide)) (plainInWord_not_glob plain) E s

-- A quoted text is one word of a list, and it comes to the text.
theorem singleQuoted_word (text : String) : ∃ word, IsWord (singleQuotedChars text.toList) word ∧ StandsFor word text := by
  rcases singleQuotedChars_cases text.toList with ⟨filled, plain, same⟩ | quoted
  · refine ⟨bare text, ⟨?_, List.cons_ne_nil _ _, ?_⟩, plain_stands filled plain⟩
    · obtain ⟨c, rest, shape⟩ := List.exists_cons_of_ne_nil filled
      have signs : ∀ d ∈ [' ', '\t', '\\', '#'], isPlainInWord d = false := List.all_iff_forall_prop.mp (by decide)
      refine ⟨c, rest, by rw [same, shape], fun listed => ?_⟩
      exact plainInWord_ne (plain c (by rw [shape]; exact List.mem_cons_self ..)) (signs c listed) rfl
    · intro r source after fuel held spaced here enough
      rw [same] at held enough
      rw [plain_reads plain spaced held here (by omega), runPart, if_neg filled, String.ofList_toList]
      rfl
  · refine ⟨quotedParts text.toList, ⟨?_, ?_, ?_⟩, quotedParts_stands text⟩
    · exact ⟨_, _, quoted, by decide⟩
    · obtain ⟨piece, others, shape⟩ := quotedParts_filled text.toList
      rw [shape]
      exact List.cons_ne_nil _ _
    · intro r source after fuel held spaced here enough
      rw [quoted] at held enough
      obtain ⟨m, body, rfl, heldBody⟩ := holds_cons held
      rw [List.length_cons, List.length_append, List.length_singleton] at enough
      exact quotedParts_reads heldBody spaced here (by omega)

theorem quotedTexts_words (texts : List String) : ∃ words,
    List.Forall₂ IsWord ((texts.map String.toList).map singleQuotedChars) words ∧ List.Forall₂ StandsFor words texts := by
  induction texts with
  | nil => exact ⟨[], .nil, .nil⟩
  | cons text texts more =>
    obtain ⟨word, is, stands⟩ := singleQuoted_word text
    obtain ⟨words, all, each⟩ := more
    exact ⟨word :: words, .cons is all, .cons stands each⟩

end Whole

section Installing

-- The command of the installer with its options, and the texts for the packages.
def installer (user upgrade : Bool) : List String :=
  ["pip", "install"] ++ (if user then ["--user"] else []) ++ (if upgrade then ["--upgrade"] else []) ++ ["--no-cache-dir"]

def installed (packages git url : List String) : List String := packages ++ git.map ("git+" ++ ·) ++ url

def quotedTexts (texts : List String) : List Char := spacedOut ((texts.map String.toList).map singleQuotedChars)

theorem quotedTexts_append (first second : List String) :
    quotedTexts (first ++ second) = quotedTexts first ++ quotedTexts second := by
  unfold quotedTexts spacedOut
  rw [List.map_append, List.map_append, List.flatMap_append]

theorem quotedTexts_joined {texts : List String} (filled : texts ≠ []) :
    " " ++ " ".intercalate (texts.map singleQuoted) = String.ofList (quotedTexts texts) := by
  obtain ⟨text, texts, rfl⟩ := List.exists_cons_of_ne_nil filled
  apply String.toList_inj.mp
  rw [String.toList_append, List.map_cons, toList_joined]
  simp [quotedTexts, spacedOut, singleQuoted, Function.comp_def]

variable {packages git url : List String} (user upgrade : Bool)

-- The command needs no quotes, so that the line goes on with quoted texts only.
theorem installer_written (filled : packages ≠ [] ∨ git ≠ [] ∨ url ≠ []) :
    (Requirement.python packages git url user upgrade).instructions = ["RUN pip install --upgrade pip &&" ++
      (" \\\n " ++ String.ofList (quotedTexts (installer user upgrade ++ installed packages git url)))] := by
  have some_ : installed packages git url ≠ [] := by
    unfold installed
    simp only [ne_eq, List.append_eq_nil_iff, List.map_eq_nil_iff]
    tauto
  have options : "RUN pip install --upgrade pip && \\\n  pip install" ++
      ((if user then " --user" else "") ++ (if upgrade then " --upgrade" else "")) ++ " --no-cache-dir" =
        "RUN pip install --upgrade pip &&" ++ (" \\\n " ++ String.ofList (quotedTexts (installer user upgrade))) := by
    cases user <;> cases upgrade <;> decide
  unfold Requirement.instructions
  simp only [List.isEmpty_iff]
  rw [← installed, if_neg some_]
  have blank : ∀ text : String, text ++ " --no-cache-dir " = text ++ " --no-cache-dir" ++ " " := fun text => by
    rw [String.append_assoc]
    rfl
  rw [blank, options]
  simp only [String.append_assoc, quotedTexts_joined some_, quotedTexts_append, String.ofList_append]

-- What stands in front of the quoted texts: blanks, and a line end that a backslash takes away.
theorem front_dropped {source : Source} {rest : List Char} (held : Holds source ([' ', '\\', '\n', ' '] ++ rest)) :
    ∃ later, Holds later rest ∧ later.length + 4 = source.length ∧ Reader.dropBlanks source = Reader.dropBlanks later := by
  obtain ⟨a, _, rfl, heldBackslash⟩ := holds_cons held
  obtain ⟨b, _, rfl, heldEnd⟩ := holds_cons heldBackslash
  obtain ⟨c, _, rfl, heldBlank⟩ := holds_cons heldEnd
  obtain ⟨d, later, rfl, heldRest⟩ := holds_cons heldBlank
  exact ⟨later, heldRest, rfl, rfl⟩

theorem words_passed {r : Reading} {later : Source} (passed : Reader.dropBlanks r.source = Reader.dropBlanks later)
    (fuel : Nat) :
    Reader.words (fuel + 1) r = Reader.words (fuel + 1) { r with source := later } := by
  have blanks : Reader.blanks r = Reader.blanks { r with source := later } := by
    unfold Reader.blanks
    rw [read_bind left_ok, read_bind left_ok, read_bind (goOn_ok _), read_bind (goOn_ok _), passed]
  have same : ∀ next : Unit → Reader (List Word),
      (Reader.blanks >>= next) r = (Reader.blanks >>= next) { r with source := later } := fun next => by
    simp only [bind, StateT.bind, blanks]
  rw [Reader.words]
  exact same _

theorem installer_reads {texts : List String} {r : Reading} {fuel : Nat}
    (held : Holds r.source ([' ', '\\', '\n', ' '] ++ quotedTexts texts)) (enough : r.source.length ≤ fuel) :
    ∃ words, Reader.words fuel r = .ok (words, { r with source := [] }) ∧
      ∀ E s, commandFields E words s = .ok ⟨texts, []⟩ s := by
  obtain ⟨words, all, stand⟩ := quotedTexts_words texts
  obtain ⟨later, heldLater, size, passed⟩ := front_dropped held
  have length : (quotedTexts texts).length = later.length := by rw [← heldLater, List.length_map]
  refine ⟨words, ?_, fun E s => commandFields_stand stand E s⟩
  obtain ⟨fuel, rfl⟩ : ∃ n, fuel = n + 1 := ⟨fuel - 1, by omega⟩
  rw [words_passed passed]
  refine words_spacedOut (r := { r with source := later }) all heldLater (fuel + 1) ?_
  change (quotedTexts texts).length + 2 ≤ fuel + 1
  omega

-- What stands behind the sign is the command of the installer, and every package is one word of it. The
-- reader of programs finds the same words, and the shell leaves each of them as it is.
theorem packages_installed (filled : packages ≠ [] ∨ git ≠ [] ∨ url ≠ []) : ∃ behind,
    (Requirement.python packages git url user upgrade).instructions = ["RUN pip install --upgrade pip &&" ++ behind] ∧
      ∃ texts, texts = ["pip", "install"] ++ (if user then ["--user"] else []) ++ (if upgrade then ["--upgrade"] else []) ++
          ["--no-cache-dir"] ++ packages ++ git.map ("git+" ++ ·) ++ url ∧
        wordsOf behind = some texts ∧
        ∀ (r : Reading) (fuel : Nat), Holds r.source behind.toList → r.source.length ≤ fuel →
          ∃ words, Reader.words fuel r = .ok (words, { r with source := [] }) ∧
            ∀ E s, commandFields E words s = .ok ⟨texts, []⟩ s := by
  refine ⟨_, installer_written user upgrade filled, installer user upgrade ++ installed packages git url, ?_, ?_, ?_⟩
  · simp only [installer, installed, List.append_assoc]
  · have front : ∀ rest, wordsFrom .between ([' ', '\\', '\n', ' '] ++ rest) = wordsFrom .between rest := fun rest => by
      simp [wordsFrom, Reader.isBlank]
    unfold wordsOf quotedTexts
    rw [String.toList_append, String.toList_ofList, String.toList_ofList, front, wordsFrom_spacedOut (Or.inl rfl)]
    simp [Function.comp_def]
  · intro r fuel held enough
    rw [String.toList_append, String.toList_ofList, String.toList_ofList] at held
    exact installer_reads held enough

theorem packages_installed_at_marks : ∃ behind,
    (Requirement.python ["numpy<2", "it's", "", "a b\n"] ["https://host/x.git@v1"] ["$HOME"] true false).instructions =
        ["RUN pip install --upgrade pip &&" ++ behind] ∧
      wordsOf behind = some ["pip", "install", "--user", "--no-cache-dir", "numpy<2", "it's", "", "a b\n",
        "git+https://host/x.git@v1", "$HOME"] ∧
      ∃ words after, Reader.words (Reading.ofText false behind).source.length (Reading.ofText false behind) =
          .ok (words, after) ∧
        ∀ E s, commandFields E words s = .ok ⟨["pip", "install", "--user", "--no-cache-dir", "numpy<2", "it's", "", "a b\n",
          "git+https://host/x.git@v1", "$HOME"], []⟩ s := by
  obtain ⟨behind, written, _, rfl, words, reads⟩ := @packages_installed ["numpy<2", "it's", "", "a b\n"]
    ["https://host/x.git@v1"] ["$HOME"] true false (Or.inl (by decide))
  obtain ⟨found, read, fields⟩ := reads (Reading.ofText false behind) _ (ofText_holds behind) (Nat.le_refl _)
  exact ⟨behind, written, words, found, _, read, fields⟩

end Installing

end Toolwrap.Quoting
