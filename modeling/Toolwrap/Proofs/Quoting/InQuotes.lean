import Toolwrap.Quoting

-- What the shell makes of a text between double quotes, character by character,
-- and that the escaped form of a text is read back as the text itself.

namespace Toolwrap.Quoting

-- Where the reader stops. An expansion is reported with the sign it begins with,
-- because nothing here says what the expansion would come to.
inductive QuoteEnd where
  | closed (rest : List Char)
  | expansion (sign : Char) (rest : List Char)
  | missing
  deriving DecidableEq, Repr

-- A backslash takes the meaning from these four characters only.
def losesMeaning (c : Char) : Bool :=
  c == '$' || c == '\x60' || c == '\x22' || c == '\\'

def grown (c : Char) (found : List Char × QuoteEnd) : List Char × QuoteEnd :=
  (c :: found.1, found.2)

-- The reader starts behind the opening quote and gives what it appended to the
-- word, with the place where it stopped.
def readInQuotes : List Char → List Char × QuoteEnd
  | [] => ([], .missing)
  | '\\' :: '\n' :: rest => readInQuotes rest
  | '\\' :: c :: rest =>
    if losesMeaning c then grown c (readInQuotes rest)
    else grown '\\' (readInQuotes (c :: rest))
  | c :: rest =>
    if c = '\x22' then ([], .closed rest)
    else if c = '$' ∨ c = '\x60' then ([], .expansion c rest)
    else grown c (readInQuotes rest)
  termination_by text => text.length

-- A character that is escaped costs two characters, any other one stands alone
-- and has no meaning for the reader.
theorem escapeChar_cases (c : Char) :
    (losesMeaning c = true ∧ Escaping.inQuotes.escapeChar c = ['\\', c]) ∨
      (losesMeaning c = false ∧ Escaping.inQuotes.escapeChar c = [c]) := by
  cases special : losesMeaning c with
  | true =>
    left
    refine ⟨rfl, ?_⟩
    unfold losesMeaning at special
    simp only [Bool.or_eq_true, beq_iff_eq] at special
    rcases special with ((rfl | rfl) | rfl) | rfl <;> rfl
  | false =>
    right
    refine ⟨rfl, ?_⟩
    unfold losesMeaning at special
    simp only [Bool.or_eq_false_iff, beq_eq_false_iff_ne] at special
    obtain ⟨⟨⟨dollar, backtick⟩, quote⟩, backslash⟩ := special
    simp [Escaping.escapeChar, Escaping.isSpecial, Escaping.inQuotes,
      dollar, backtick, quote, backslash]

theorem escapeChars_cons (c : Char) (text : List Char) :
    Escaping.inQuotes.escapeChars (c :: text) =
      Escaping.inQuotes.escapeChar c ++ Escaping.inQuotes.escapeChars text := by
  simp [Escaping.escapeChars]

theorem read_escaped_special
    {c : Char}
    (special : losesMeaning c = true)
    (rest : List Char) :
    readInQuotes ('\\' :: c :: rest) = grown c (readInQuotes rest) := by
  have newline : c ≠ '\n' := by
    intro same
    subst same
    simp [losesMeaning] at special
  rw [readInQuotes]
  · simp [special]
  · exact newline

theorem read_plain
    {c : Char}
    (plain : losesMeaning c = false)
    (rest : List Char) :
    readInQuotes (c :: rest) = grown c (readInQuotes rest) := by
  unfold losesMeaning at plain
  simp only [Bool.or_eq_false_iff, beq_eq_false_iff_ne] at plain
  obtain ⟨⟨⟨dollar, backtick⟩, quote⟩, backslash⟩ := plain
  rw [readInQuotes]
  · simp [dollar, backtick, quote]
  · intro after same
    exact absurd same backslash
  · intro d after same
    exact absurd same backslash

-- Reader and writer stay aligned: the induction is on the text that was written,
-- for whatever follows it.
theorem read_escapeChars (text rest : List Char) :
    readInQuotes (Escaping.inQuotes.escapeChars text ++ rest) =
      (text ++ (readInQuotes rest).1, (readInQuotes rest).2) := by
  induction text with
  | nil => simp [Escaping.escapeChars]
  | cons c text aligned =>
    rw [escapeChars_cons, List.append_assoc]
    rcases escapeChar_cases c with ⟨special, written⟩ | ⟨plain, written⟩
    · rw [written]
      simp only [List.cons_append, List.nil_append]
      rw [read_escaped_special special, aligned]
      rfl
    · rw [written]
      simp only [List.cons_append, List.nil_append]
      rw [read_plain plain, aligned]
      rfl

theorem read_closing (rest : List Char) :
    readInQuotes ('\x22' :: rest) = ([], .closed rest) := by
  rw [readInQuotes] <;> simp

end Toolwrap.Quoting
