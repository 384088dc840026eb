import Mathlib.Data.List.Induction
import Toolwrap.Quoting

-- Escaping and its inverse, with the same settings on both sides. What is written for one
-- character is read back as that character whatever stands behind it, so that a text that was
-- escaped may be the front of any other text.

namespace Toolwrap.Escaping

section Characters

variable {e : Escaping} {c : Char}

theorem backslash_special : e.isSpecial '\\' = true := rfl

-- The letter of a line feed is never special, so that no setting reads it as itself behind a backslash.
theorem letter_plain : e.isSpecial 'n' = false := by
  simp [isSpecial]

-- A character is written behind a backslash, or it is a line feed in two characters, or it
-- stands for itself and is no backslash.
theorem written_cases (e : Escaping) (c : Char) :
    (e.isSpecial c = true ∧ e.escapeChar c = ['\\', c]) ∨
      (c = '\n' ∧ e.newline = true ∧ e.escapeChar c = ['\\', 'n']) ∨
        (c ≠ '\\' ∧ e.escapeChar c = [c]) := by
  by_cases special : e.isSpecial c = true
  · exact Or.inl ⟨special, if_pos special⟩
  · right
    by_cases feed : (e.newline && c == '\n') = true
    · obtain ⟨newline, same⟩ := Bool.and_eq_true_iff.mp feed
      exact Or.inl ⟨beq_iff_eq.mp same, newline, (if_neg special).trans (if_pos feed)⟩
    · refine Or.inr ⟨?_, (if_neg special).trans (if_neg feed)⟩
      rintro rfl
      exact special backslash_special

theorem unescape_special (special : e.isSpecial c = true) (rest : List Char) :
    e.unescapeChars ('\\' :: c :: rest) = c :: e.unescapeChars rest := by
  simp [unescapeChars, special]

theorem unescape_letter (newline : e.newline = true) (rest : List Char) :
    e.unescapeChars ('\\' :: 'n' :: rest) = '\n' :: e.unescapeChars rest := by
  simp [unescapeChars, letter_plain, newline]

theorem unescape_other (other : c ≠ '\\') (rest : List Char) :
    e.unescapeChars (c :: rest) = c :: e.unescapeChars rest := by
  cases rest with
  | nil => rfl
  | cons d rest => simp [unescapeChars, other]

theorem unescape_written (e : Escaping) (c : Char) (rest : List Char) :
    e.unescapeChars (e.escapeChar c ++ rest) = c :: e.unescapeChars rest := by
  rcases written_cases e c with ⟨special, written⟩ | ⟨rfl, newline, written⟩ | ⟨other, written⟩
  · rw [written]
    exact unescape_special special rest
  · rw [written]
    exact unescape_letter newline rest
  · rw [written]
    exact unescape_other other rest

end Characters

section Texts

variable (e : Escaping)

theorem unescape_front (text rest : List Char) :
    e.unescapeChars (e.escapeChars text ++ rest) = text ++ e.unescapeChars rest := by
  induction text with
  | nil => rfl
  | cons c text aligned =>
    rw [escapeChars, List.flatMap_cons, List.append_assoc, unescape_written]
    exact congrArg (c :: ·) aligned

-- The backslashes that a text ends in. An odd number of them leaves the last one without the
-- character that it was to escape.
def lastBackslashes (text : List Char) : Nat := (text.reverse.takeWhile (· == '\\')).length

def Dangling (text : String) : Prop := lastBackslashes text.toList % 2 = 1

theorem lastBackslashes_other {c : Char} (other : c ≠ '\\') (text : List Char) :
    lastBackslashes (text ++ [c]) = 0 := by
  simp [lastBackslashes, other]

theorem lastBackslashes_pair (text : List Char) :
    lastBackslashes (text ++ ['\\', '\\']) = lastBackslashes text + 2 := by
  simp [lastBackslashes]

-- Backslashes are written in pairs, and behind anything else that is written none is left.
theorem written_pairs (text : List Char) : lastBackslashes (e.escapeChars text) % 2 = 0 := by
  induction text using List.reverseRecOn with
  | nil => rfl
  | append_singleton text c paired =>
    have split : e.escapeChars (text ++ [c]) = e.escapeChars text ++ e.escapeChar c := by
      simp [escapeChars]
    rw [split]
    rcases written_cases e c with ⟨special, written⟩ | ⟨rfl, newline, written⟩ | ⟨other, written⟩
    · rw [written]
      by_cases backslash : c = '\\'
      · rw [backslash, lastBackslashes_pair, Nat.add_mod_right]
        exact paired
      · rw [show ['\\', c] = ['\\'] ++ [c] from rfl, ← List.append_assoc, lastBackslashes_other backslash]
    · rw [written, show ['\\', 'n'] = ['\\'] ++ ['n'] from rfl, ← List.append_assoc,
        lastBackslashes_other (by decide)]
    · rw [written, lastBackslashes_other other]

end Texts

-- For any settings, reading undoes writing at the front of every text. So it undoes writing,
-- no two texts are written alike, and what is written never ends in a backslash that would
-- take hold of what follows.
theorem escape_reversed (e : Escaping) :
    (∀ text rest : String, e.unescape (e.escape text ++ rest) = text ++ e.unescape rest) ∧
      (∀ text : String, e.unescape (e.escape text) = text) ∧
        Function.Injective e.escape ∧ ∀ text : String, ¬ Dangling (e.escape text) := by
  have front : ∀ text rest : String, e.unescape (e.escape text ++ rest) = text ++ e.unescape rest := by
    intro text rest
    rw [unescape, escape, String.toList_append, String.toList_ofList, unescape_front, String.ofList_append,
      String.ofList_toList]
    rfl
  have undone : ∀ text : String, e.unescape (e.escape text) = text := by
    intro text
    have alone := front text ""
    rwa [String.append_empty, show e.unescape "" = "" from rfl, String.append_empty] at alone
  refine ⟨front, undone, Function.LeftInverse.injective undone, fun text dangling => ?_⟩
  have paired := written_pairs e text.toList
  rw [Dangling, escape, String.toList_ofList] at dangling
  omega

end Toolwrap.Escaping
