import Toolwrap.Text.Unicode
/-!
Blanks and lines. A blank is one of the 25 white space characters of Unicode or one of the four
information separators U+001C to U+001F. A text is cut into words at runs of blanks, and into lines
at every line boundary, where a carriage return and the line feed after it count as one.
-/
namespace Toolwrap.Text

def blankRanges : List (Nat × Nat) :=
  [(0x09, 0x0D), (0x1C, 0x20), (0x85, 0x85), (0xA0, 0xA0), (0x1680, 0x1680), (0x2000, 0x200A),
   (0x2028, 0x2029), (0x202F, 0x202F), (0x205F, 0x205F), (0x3000, 0x3000)]

def isBlank (c : Char) : Bool := inRanges blankRanges c.toNat

example : Ascending blankRanges = true ∧ total blankRanges = 29 := by decide

theorem isBlank_of_isWhitespace {c : Char} (h : c.isWhitespace = true) : isBlank c = true := by
  simp [Char.isWhitespace] at h
  rcases h with ((h | h) | h) | h <;> subst h <;> decide

/-- The characters that end a line, a carriage return and line feed together being one end. -/
def isLineEnd (c : Char) : Bool :=
  inRanges [(0x0A, 0x0D), (0x1C, 0x1E), (0x85, 0x85), (0x2028, 0x2029)] c.toNat

namespace Chars

def stripLeft (s : List Char) : List Char := s.dropWhile isBlank

def stripRight (s : List Char) : List Char := (s.reverse.dropWhile isBlank).reverse

def strip (s : List Char) : List Char := stripRight (stripLeft s)

/-- The maximal runs of characters that are not blank. -/
def words (s : List Char) : List (List Char) :=
  go [] s
where
  -- `word` is the run being read, last character first
  go (word : List Char) : List Char → List (List Char)
    | [] => if word.isEmpty then [] else [word.reverse]
    | c :: rest =>
      if isBlank c then
        if word.isEmpty then go [] rest else word.reverse :: go [] rest
      else go (c :: word) rest

/-- The lines of a text, without their ends. A text that ends with a line end has no empty last line. -/
def lines : List Char → List (List Char)
  | [] => []
  | '\r' :: '\n' :: rest => [] :: lines rest
  | c :: rest =>
    if isLineEnd c then [] :: lines rest
    else
      match lines rest with
      | [] => [[c]]
      | line :: more => (c :: line) :: more

/-- The pieces between the places where a character stands; always at least one. -/
def splitAt (sep : Char) : List Char → List (List Char)
  | [] => [[]]
  | c :: rest =>
    if c = sep then [] :: splitAt sep rest
    else
      match splitAt sep rest with
      | [] => [[c]]
      | piece :: more => (c :: piece) :: more

/-- Every line end of a text file is read as a line feed. -/
def readLineEnds : List Char → List Char
  | [] => []
  | '\r' :: '\n' :: rest => '\n' :: readLineEnds rest
  | '\r' :: rest => '\n' :: readLineEnds rest
  | c :: rest => c :: readLineEnds rest

/-- A carriage return in front of a line feed belongs to it. -/
def joinedLineEnds : List Char → List Char
  | [] => []
  | '\r' :: '\n' :: rest => '\n' :: joinedLineEnds rest
  | c :: rest => c :: joinedLineEnds rest

end Chars

def stripLeft (s : String) : String := String.ofList (Chars.stripLeft s.toList)

def stripRight (s : String) : String := String.ofList (Chars.stripRight s.toList)

def strip (s : String) : String := String.ofList (Chars.strip s.toList)

def words (s : String) : List String := (Chars.words s.toList).map String.ofList

def lines (s : String) : List String := (Chars.lines s.toList).map String.ofList

def splitAt (sep : Char) (s : String) : List String := (Chars.splitAt sep s.toList).map String.ofList

def readLineEnds (s : String) : String := String.ofList (Chars.readLineEnds s.toList)

/-- The text without its blanks. -/
def withoutBlanks (s : String) : String := String.ofList (s.toList.filter fun c => !isBlank c)

def unlines (ls : List String) : String := "\n".intercalate ls

/-- Whether one text occurs in another. -/
def occursIn (part s : String) : Bool := go s.toList
where
  go : List Char → Bool
    | [] => part.isEmpty
    | c :: rest => part.toList.isPrefixOf (c :: rest) || go rest

/-- The order of code points, which sorts the names in a message. -/
def sorted (names : List String) : List String := names.mergeSort fun a b => decide (a ≤ b)

end Toolwrap.Text
