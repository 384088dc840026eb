import Mathlib.Data.List.TakeWhile
import Toolwrap.Proofs.Quoting.InQuotes
import Toolwrap.Shell.Reader
import Toolwrap.Shell.Phrases

-- The reader of programs on escaped text: what stands between the quotes is read
-- as literal parts, and these are the parts that generated commands are made of.

namespace Toolwrap.Quoting

open Shell

-- Sources that hold a text, whatever lines its characters stand on.
def Holds (source : Source) (text : List Char) : Prop := source.map (·.1) = text

theorem holds_cons
    {source : Source} {c : Char} {text : List Char}
    (held : Holds source (c :: text)) :
    ∃ line rest, source = (c, line) :: rest ∧ Holds rest text := by
  cases source with
  | nil => cases held
  | cons entry rest =>
    obtain ⟨d, line⟩ := entry
    obtain ⟨same, held⟩ := List.cons.inj held
    exact ⟨line, rest, by rw [← same], held⟩

theorem holds_append
    {source : Source} {first second : List Char}
    (held : Holds source (first ++ second)) :
    ∃ before after, source = before ++ after ∧ Holds before first ∧ Holds after second := by
  refine ⟨source.take first.length, source.drop first.length, ?_, ?_, ?_⟩
  · rw [List.take_append_drop]
  · unfold Holds at held ⊢
    rw [List.map_take, held]
    simp
  · unfold Holds at held ⊢
    rw [List.map_drop, held]
    simp

section Steps

variable {α β : Type} {r t : Reading} {a : α}

theorem read_bind {work : Reader α} {next : α → Reader β} (done : work r = .ok (a, t)) :
    (work >>= next) r = next a t := by
  simp only [bind, StateT.bind, done, Except.bind]

theorem read_map {work : Reader α} {f : α → β} (done : work r = .ok (a, t)) :
    (f <$> work) r = .ok (f a, t) := by
  simp only [Functor.map, StateT.map, done, bind, Except.bind, pure, Except.pure]

theorem read_pure : (pure a : Reader α) r = .ok (a, r) := rfl

theorem read_get : (get : Reader Reading) r = .ok (r, r) := rfl

theorem left_ok : Reader.left r = .ok (r.source, r) := rfl

theorem isPlain_ok : Reader.isPlain r = .ok (r.plain, r) := rfl

theorem goOn_ok (source : Source) : Reader.goOn source r = .ok ((), { r with source }) := rfl

theorem skip_ok (n : Nat) :
    Reader.skip n r = .ok ((), { r with source := r.source.drop n }) := rfl

theorem takeWhile_ok (p : Char → Bool) :
    Reader.takeWhile p r =
      .ok (Source.text (r.source.takeWhile fun c => p c.1),
        { r with source := r.source.drop (r.source.takeWhile fun c => p c.1).length }) := rfl

end Steps

@[simp]
theorem quoted_single : Mode.quoted.single = false := rfl

@[simp]
theorem quoted_double : Mode.quoted.double = false := rfl

@[simp]
theorem quoted_escapes (c : Char) : Mode.quoted.escapes c = losesMeaning c := by
  simp [Mode.quoted, losesMeaning, Bool.or_assoc, Bool.beq_eq_decide_eq]

-- The three ways in which a part between quotes can begin here. What the rest
-- comes to is a hypothesis, so that these can be put together in any order.
section Parts

variable {fuel : Nat} {r t : Reading} {ps : List Part}

theorem parts_at_quote (fuel : Nat) {line : Nat} {after : Source}
    (here : r.source = ('\x22', line) :: after) :
    Reader.parts (fuel + 1) .quoted (· == '\x22') r = .ok ([], r) := by
  rw [Reader.parts]
  rw [read_bind left_ok, read_bind isPlain_ok, here]
  simp only [quoted_single, Bool.false_and, Char.reduceBEq, Bool.or_self, Bool.and_self,
    Bool.false_eq_true, if_false, List.mem_cons, Char.reduceEq, List.not_mem_nil, or_self, decide_false,
    BEq.rfl, if_true, bind_pure_comp, read_map read_get]

theorem parts_at_escape {c : Char} {m n : Nat} {after : Source}
    (here : r.source = ('\\', m) :: (c, n) :: after)
    (special : losesMeaning c = true)
    (rest : Reader.parts fuel .quoted (· == '\x22') { r with source := after } = .ok (ps, t)) :
    Reader.parts (fuel + 1) .quoted (· == '\x22') r = .ok (.escaped c :: ps, t) := by
  have newline : c ≠ '\n' := by
    rintro rfl
    simp [losesMeaning] at special
  rw [Reader.parts]
  rw [read_bind left_ok, read_bind isPlain_ok, here]
  simp [special, read_bind read_get, read_bind (goOn_ok _), read_map rest]

theorem parts_at_plain (after : Source) {c : Char} {n : Nat} {run : Source}
    (here : r.source = (c, n) :: run ++ after)
    (plain : ∀ entry ∈ (c, n) :: run, losesMeaning entry.1 = false)
    (ends : ∀ entry ∈ after.head?, losesMeaning entry.1 = true)
    (rest : Reader.parts fuel .quoted (· == '\x22') { r with source := after } = .ok (ps, t)) :
    Reader.parts (fuel + 1) .quoted (· == '\x22') r =
      .ok (Reader.textThen (Source.text ((c, n) :: run)) ps, t) := by
  have stops : (fun d => !d == '\x22' && !Mode.quoted.isSpecial d && !false) =
      fun d => !losesMeaning d := by
    funext d
    simp only [Mode.isSpecial, quoted_single, quoted_double, losesMeaning]
    grind
  have taken : r.source.takeWhile (fun entry => !losesMeaning entry.1) = (c, n) :: run := by
    rw [here, List.takeWhile_append_of_pos]
    · cases after with
      | nil => simp
      | cons entry after => simp [ends entry (by simp)]
    · intro entry member
      simp [plain entry member]
  have dropped : r.source.drop ((c, n) :: run).length = after := by
    rw [here, List.drop_left]
  have shown : (Source.text ((c, n) :: run)).isEmpty = false := by
    simp [Source.text]
  have head := plain (c, n) (by simp)
  unfold losesMeaning at head
  simp only [Bool.or_eq_false_iff] at head
  obtain ⟨⟨⟨dollar, backtick⟩, quote⟩, backslash⟩ := head
  rw [Reader.parts]
  rw [read_bind left_ok, read_bind isPlain_ok]
  rw [here, List.cons_append]
  simp only [quoted_single, quoted_double, quote, backslash, dollar, backtick, Bool.false_and,
    Bool.and_false, Bool.false_eq_true, if_false]
  rw [read_bind read_get, stops, read_bind (takeWhile_ok _), taken, dropped]
  simp only [shown, Bool.false_eq_true, if_false]
  rw [read_bind rest, read_pure]

end Parts

-- A text is a sequence of special characters and of runs of other ones, each run as long as it can be.
@[elab_as_elim]
theorem spans_induction (special : Char → Bool) {motive : List Char → Prop}
    (nil : motive [])
    (single : ∀ c rest, special c = true → motive rest → motive (c :: rest))
    (span : ∀ c run rest, (∀ d ∈ c :: run, special d = false) →
      (∀ d ∈ rest.head?, special d = true) → motive rest → motive (c :: run ++ rest))
    (text : List Char) : motive text := by
  match text with
  | [] => exact nil
  | c :: tail =>
    cases stands : special c with
    | true => exact single c tail stands (spans_induction special nil single span tail)
    | false =>
      have shorter : (tail.dropWhile fun d => !special d).length ≤ tail.length :=
        (List.dropWhile_sublist _).length_le
      have split : c :: tail = c :: (tail.takeWhile fun d => !special d) ++
          (tail.dropWhile fun d => !special d) := by
        rw [List.cons_append, List.takeWhile_append_dropWhile]
      rw [split]
      refine span c _ _ ?_ ?_ (spans_induction special nil single span _)
      · intro d member
        rcases List.mem_cons.mp member with rfl | later
        · exact stands
        · simpa using List.mem_takeWhile_imp later
      · intro d first
        have stopped := List.head?_dropWhile_not (fun d => !special d) tail
        rw [Option.mem_def.mp first] at stopped
        simpa using stopped
termination_by text.length
decreasing_by
  · exact Nat.lt_succ_of_le shorter
  · exact Nat.lt_succ_self _

-- The reader and the writer of escaped text both go through it that way.
@[elab_as_elim]
theorem runs_induction {motive : List Char → Prop}
    (nil : motive [])
    (escaped : ∀ c rest, losesMeaning c = true → motive rest → motive (c :: rest))
    (plain : ∀ c run rest, (∀ d ∈ c :: run, losesMeaning d = false) →
      (∀ d ∈ rest.head?, losesMeaning d = true) → motive rest → motive (c :: run ++ rest))
    (text : List Char) : motive text := spans_induction losesMeaning nil escaped plain text

theorem isSpecial_inQuotes (c : Char) : Escaping.inQuotes.isSpecial c = losesMeaning c := by
  simp only [Escaping.isSpecial, Escaping.inQuotes, losesMeaning, Bool.true_and]
  grind

theorem escapeChars_plain {run : List Char} (plain : ∀ c ∈ run, losesMeaning c = false) :
    Escaping.inQuotes.escapeChars run = run := by
  induction run with
  | nil => rfl
  | cons c run kept =>
    rw [escapeChars_cons, kept (fun d member => plain d (List.mem_cons_of_mem _ member))]
    rcases escapeChar_cases c with ⟨special, _⟩ | ⟨_, written⟩
    · rw [plain c (by simp)] at special
      cases special
    · rw [written]
      rfl

theorem escapeChars_escaped {c : Char} (special : losesMeaning c = true) (rest : List Char) :
    Escaping.inQuotes.escapeChars (c :: rest) =
      '\\' :: c :: Escaping.inQuotes.escapeChars rest := by
  rw [escapeChars_cons]
  rcases escapeChar_cases c with ⟨_, written⟩ | ⟨plain, _⟩
  · rw [written]
    rfl
  · rw [special] at plain
    cases plain

theorem escapeChars_append (first second : List Char) :
    Escaping.inQuotes.escapeChars (first ++ second) =
      Escaping.inQuotes.escapeChars first ++ Escaping.inQuotes.escapeChars second :=
  List.flatMap_append

theorem literalParts_escaped {c : Char} (special : losesMeaning c = true) (rest : List Char) :
    literalParts (c :: rest) = .escaped c :: literalParts rest := by
  simp [literalParts, literalParts.go, literalParts.flush, isSpecial_inQuotes, special]

theorem literalParts_go_plain {run : List Char} (plain : ∀ c ∈ run, losesMeaning c = false)
    (before rest : List Char) :
    literalParts.go before (run ++ rest) = literalParts.go (run.reverse ++ before) rest := by
  induction run generalizing before with
  | nil => rfl
  | cons c run moved =>
    have later : ∀ d ∈ run, losesMeaning d = false :=
      fun d member => plain d (List.mem_cons_of_mem _ member)
    rw [List.cons_append, literalParts.go, isSpecial_inQuotes, plain c (by simp)]
    simp [moved later]

theorem literalParts_plain {run rest : List Char} (filled : run ≠ [])
    (plain : ∀ c ∈ run, losesMeaning c = false)
    (ends : ∀ d ∈ rest.head?, losesMeaning d = true) :
    literalParts (run ++ rest) = .text (String.ofList run) :: literalParts rest := by
  rw [literalParts, literalParts_go_plain plain]
  cases rest with
  | nil => simp [literalParts, literalParts.go, literalParts.flush, filled]
  | cons d rest =>
    have special := ends d (by simp)
    rw [literalParts_escaped special]
    simp [literalParts.go, literalParts.flush, isSpecial_inQuotes, special, filled, literalParts]

theorem textThen_literalParts {rest : List Char} (ends : ∀ d ∈ rest.head?, losesMeaning d = true)
    (s : String) :
    Reader.textThen s (literalParts rest) = .text s :: literalParts rest := by
  cases rest with
  | nil => rfl
  | cons d rest =>
    rw [literalParts_escaped (ends d (by simp))]
    rfl

-- Escaped text up to the quote that ends it.
theorem parts_escapeChars
    (text : List Char) (source : Source) (held : Holds source (Escaping.inQuotes.escapeChars text))
    (line : Nat) (after : Source) (r : Reading)
    (here : r.source = source ++ ('\x22', line) :: after)
    (fuel : Nat) (enough : text.length < fuel) :
    Reader.parts fuel .quoted (· == '\x22') r =
      .ok (literalParts text, { r with source := ('\x22', line) :: after }) := by
  obtain ⟨fuel, rfl⟩ : ∃ n, fuel = n + 1 := ⟨fuel - 1, by omega⟩
  induction text using runs_induction generalizing source r fuel with
  | nil =>
    have empty : source = [] := List.map_eq_nil_iff.mp held
    rw [empty, List.nil_append] at here
    rw [parts_at_quote fuel here, ← here]
    rfl
  | escaped c rest special read =>
    rw [escapeChars_escaped special] at held
    obtain ⟨m, _, rfl, heldOne⟩ := holds_cons held
    obtain ⟨n, tail, rfl, heldRest⟩ := holds_cons heldOne
    rw [List.length_cons] at enough
    obtain ⟨fuel, rfl⟩ : ∃ n, fuel = n + 1 := ⟨fuel - 1, by omega⟩
    rw [literalParts_escaped special]
    exact parts_at_escape here special (read tail heldRest _ rfl fuel (by omega))
  | plain c run rest plain ends read =>
    rw [escapeChars_append, escapeChars_plain plain] at held
    obtain ⟨_, tail, rfl, heldFirst, heldRest⟩ := holds_append held
    obtain ⟨n, later, rfl, _⟩ := holds_cons heldFirst
    rw [List.length_append, List.length_cons] at enough
    obtain ⟨fuel, rfl⟩ : ∃ n, fuel = n + 1 := ⟨fuel - 1, by omega⟩
    have shown : Source.text ((c, n) :: later) = String.ofList (c :: run) :=
      congrArg String.ofList heldFirst
    rw [literalParts_plain (by simp) plain ends, ← shown, ← textThen_literalParts ends]
    refine parts_at_plain (tail ++ ('\x22', line) :: after) ?_ ?_ ?_
      (read tail heldRest _ rfl fuel (by omega))
    · rw [here, List.append_assoc]
    · intro entry member
      refine plain entry.1 ?_
      rw [← show List.map (·.1) ((c, n) :: later) = c :: run from heldFirst]
      exact List.mem_map_of_mem member
    · intro entry first
      cases rest with
      | nil =>
        have empty : tail = [] := List.map_eq_nil_iff.mp heldRest
        rw [empty] at first
        cases first
        rfl
      | cons d rest =>
        rw [escapeChars_escaped (ends d (by simp))] at heldRest
        obtain ⟨m, _, rfl, _⟩ := holds_cons heldRest
        cases first
        rfl

end Toolwrap.Quoting
