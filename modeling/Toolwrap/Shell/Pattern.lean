import Toolwrap.Shell.Escape
import Toolwrap.Text.Unicode
/-!
Patterns of the shell: a star stands for any text, a question mark for one character, brackets for one
of several, and a group behind a mark for some of its alternatives. A character that was quoted stands
for itself. Main functions: `Pattern.fits` decides whether a whole text fits, `Pattern.trim` takes a
fitting end or beginning away, `Pattern.replace` puts a text in place of what fits.
-/
namespace Toolwrap.Shell

/-- A character of a pattern, and whether it was quoted. -/
abbrev Marked := Char × Bool

/-- One of the characters of a bracket. -/
inductive Member where
  | range (first last : Char)
  | named (name : String)
deriving DecidableEq, Repr

/-- How often one of the alternatives of a group is there. -/
inductive GroupKind where
  | optional | once | any | some | none
deriving DecidableEq, Repr

inductive Glob where
  | char (c : Char)
  | one
  | star
  | bracket (negated : Bool) (members : List Member)
  | group (kind : GroupKind) (alternatives : List (List Glob))
deriving Repr

abbrev Pattern := List Glob

instance : Inhabited Glob := ⟨.star⟩

/-- The named classes. A letter of another script belongs to the classes of letters. -/
def inClass (name : String) (c : Char) : Bool :=
  let wide := 128 ≤ c.toNat
  let isLetter := c.isAlpha || (wide && Text.isCased c)
  match name with
  | "upper" => ('A' ≤ c && c ≤ 'Z') || (wide && Text.lowerOne c != c)
  | "lower" => ('a' ≤ c && c ≤ 'z') || (wide && Text.upperChar c != c)
  | "alpha" => isLetter
  | "digit" => '0' ≤ c && c ≤ '9'
  | "alnum" => isLetter || c.isDigit
  | "word" => isLetter || c.isDigit || c == '_'
  | "space" => c == ' ' || (9 ≤ c.toNat && c.toNat ≤ 13)
  | "blank" => c == ' ' || c == '\t'
  | "punct" => 33 ≤ c.toNat && c.toNat ≤ 126 && !c.isAlphanum
  | "xdigit" => c.isDigit || ('a' ≤ c && c ≤ 'f') || ('A' ≤ c && c ≤ 'F')
  | "cntrl" => c.toNat < 32 || c.toNat == 127
  | "print" => (32 ≤ c.toNat && c.toNat ≤ 126) || (160 ≤ c.toNat && !Text.isLoose c)
  | "graph" => (33 ≤ c.toNat && c.toNat ≤ 126) || (161 ≤ c.toNat && !Text.isLoose c)
  | "ascii" => c.toNat < 128
  | _ => false

/-- Both cases of a letter. -/
def casesOf (c : Char) : List Char := [c, Text.lowerOne c, Text.upperChar c]

def Member.holds (c : Char) : Member → Bool
  | range first last => first ≤ c && c ≤ last
  | named name => inClass name c

theorem Member.holds_single (c d : Char) : (Member.range c c).holds d = (d == c) := by
  rw [Member.holds, Bool.eq_iff_iff, Bool.and_eq_true, beq_iff_eq, decide_eq_true_eq, decide_eq_true_eq]
  exact ⟨fun both => Char.le_antisymm both.2 both.1, fun same => same ▸ ⟨Char.le_refl _, Char.le_refl _⟩⟩

namespace Pattern

/-- Sorted numbers without those that are there twice. -/
def distinct (ns : List Nat) : List Nat :=
  (ns.mergeSort (· ≤ ·)).foldr (fun n rest => if rest.head? == some n then rest else n :: rest) []

/-- Goes on from places while that leads to new ones. The fuel is more than the number of places. -/
def closure (next : List Nat → List Nat) : Nat → List Nat → List Nat → List Nat
  | 0, seen, _ => seen
  | fuel + 1, seen, fresh =>
    match (next fresh).filter fun n => !seen.contains n with
    | [] => seen
    | fresh => closure next fuel (distinct (seen ++ fresh)) fresh

mutual

/-- The places that a pattern leads to from places in a text. -/
def reached (folds : Bool) (s : Array Char) (places : List Nat) : List Glob → List Nat
  | [] => places
  | g :: rest => if places.isEmpty then [] else reached folds s (stepped folds s places g) rest

def stepped (folds : Bool) (s : Array Char) (places : List Nat) : Glob → List Nat
  | .char c =>
    let cs := if folds then casesOf c else [c]
    (places.filter fun n => (s[n]?).any cs.contains).map (· + 1)
  | .one => (places.filter (· < s.size)).map (· + 1)
  | .star =>
    match places with
    | [] => []
    | n :: _ => (List.range (s.size + 1 - n)).map (n + ·)
  | .bracket negated members =>
    (places.filter fun n => (s[n]?).any fun c =>
      (if folds then casesOf c else [c]).any (fun c => members.any (·.holds c)) != negated).map (· + 1)
  | .group kind alternatives =>
    match kind with
    | .once => distinct (eitherReached folds s places alternatives)
    | .optional => distinct (places ++ eitherReached folds s places alternatives)
    | .any =>
      closure (fun ps => distinct (eitherReached folds s ps alternatives)) (s.size + 2) places places
    | .some =>
      let first := distinct (eitherReached folds s places alternatives)
      closure (fun ps => distinct (eitherReached folds s ps alternatives)) (s.size + 2) first first
    | .none =>
      distinct (places.flatMap fun n =>
        let taken := eitherReached folds s [n] alternatives
        ((List.range (s.size + 1 - n)).map (n + ·)).filter fun m => !taken.contains m)

def eitherReached (folds : Bool) (s : Array Char) (places : List Nat) : List (List Glob) → List Nat
  | [] => []
  | p :: rest => reached folds s places p ++ eitherReached folds s places rest

end

/-- The places behind beginnings of a text that fit, in ascending order. -/
def ends (folds : Bool) (p : Pattern) (s : Array Char) (start : Nat) : List Nat :=
  distinct (reached folds s [start] p)

/-- Whether the whole text fits, perhaps in either case. -/
def fits (folds : Bool) (p : Pattern) (s : List Char) : Bool :=
  let chars := s.toArray
  (p.ends folds chars 0).getLast? == some chars.size

/-- The name of a class, up to its end mark, and what follows. -/
def className : List Marked → Option (String × List Marked)
  | (':', _) :: (']', false) :: rest => some ("", rest)
  | (c, _) :: rest => (className rest).map fun (name, rest) => (String.ofList (c :: name.toList), rest)
  | [] => none

/-- The members of a bracket and what follows it; nothing if it is not closed. -/
def readMembers (fuel : Nat) (first : Bool) : List Marked → Option (List Member × List Marked) :=
  match fuel with
  | 0 => fun _ => none
  | fuel + 1 => fun s =>
    match s with
    | [] => none
    | (']', false) :: rest =>
      if first then (readMembers fuel false rest).map fun (ms, r) => (.range ']' ']' :: ms, r)
      else some ([], rest)
    | ('[', false) :: (':', false) :: rest =>
      match className rest with
      | some (name, rest) => (readMembers fuel false rest).map fun (ms, r) => (.named name :: ms, r)
      | none => (readMembers fuel false ((':', false) :: rest)).map fun (ms, r) => (.range '[' '[' :: ms, r)
    | ('[', false) :: ('.', false) :: (c, _) :: ('.', false) :: (']', false) :: rest =>
      (readMembers fuel false rest).map fun (ms, r) => (.range c c :: ms, r)
    | ('[', false) :: ('=', false) :: (c, _) :: ('=', false) :: (']', false) :: rest =>
      (readMembers fuel false rest).map fun (ms, r) => (.range c c :: ms, r)
    | ('\\', false) :: (c, _) :: rest => readMembers fuel false ((c, true) :: rest)
    | (a, _) :: ('-', false) :: (']', false) :: rest =>
      (readMembers fuel false (('-', true) :: (']', false) :: rest)).map fun (ms, r) =>
        (.range a a :: ms, r)
    | (a, _) :: ('-', false) :: (b, _) :: rest =>
      (readMembers fuel false rest).map fun (ms, r) => (.range a b :: ms, r)
    | (a, _) :: rest => (readMembers fuel false rest).map fun (ms, r) => (.range a a :: ms, r)

/-- A bracket from behind its first mark. -/
def readBracket (s : List Marked) : Option (Glob × List Marked) :=
  let (negated, body) :=
    match s with
    | ('!', false) :: rest => (true, rest)
    | ('^', false) :: rest => (true, rest)
    | _ => (false, s)
  (readMembers (body.length + 1) true body).map fun (members, rest) =>
    (.bracket negated members, rest)

def groupKind? : Char → Option GroupKind
  | '?' => some .optional
  | '@' => some .once
  | '*' => some .any
  | '+' => some .some
  | '!' => some .none
  | _ => none

/-- The alternatives of a group, from behind its parenthesis, and what follows it. -/
def alternatives? (depth : Nat) (current : List Marked) :
    List Marked → Option (List (List Marked) × List Marked)
  | [] => none
  | ('\\', false) :: c :: rest => alternatives? depth (c :: ('\\', false) :: current) rest
  | c :: rest =>
    match c with
    | (')', false) =>
      match depth with
      | 0 => some ([current.reverse], rest)
      | depth + 1 => alternatives? depth (c :: current) rest
    | ('|', false) =>
      if depth == 0 then
        (alternatives? 0 [] rest).map fun (more, after) => (current.reverse :: more, after)
      else alternatives? depth (c :: current) rest
    | ('(', false) => alternatives? (depth + 1) (c :: current) rest
    | c => alternatives? depth (c :: current) rest

/-- Reads a pattern; a bracket or group that is not closed stands for itself. Groups count if they are
turned on. -/
def read (groups : Bool) (fuel : Nat) : List Marked → Pattern :=
  match fuel with
  | 0 => fun _ => []
  | fuel + 1 => fun s =>
    match s with
    | [] => []
    | (c, true) :: rest => .char c :: read groups fuel rest
    | (c, false) :: rest =>
      let group? := do
        let kind ← if groups then groupKind? c else none
        match rest with
        | ('(', false) :: inner =>
          let (alternatives, after) ← alternatives? 0 [] inner
          return (Glob.group kind (alternatives.map (read groups fuel)), after)
        | _ => none
      match group? with
      | some (g, after) => g :: read groups fuel after
      | none =>
        match c with
        | '*' => .star :: read groups fuel rest
        | '?' => .one :: read groups fuel rest
        | '[' =>
          match readBracket rest with
          | some (g, rest) => g :: read groups fuel rest
          | none => .char '[' :: read groups fuel rest
        | '\\' =>
          match rest with
          | (d, _) :: after => .char d :: read groups fuel after
          | [] => [.char '\\']
        | c => .char c :: read groups fuel rest

def ofMarked (groups : Bool) (s : List Marked) : Pattern := read groups (s.length + 1) s

/-- The text without the shortest or longest beginning that fits. -/
def trimStart (p : Pattern) (longest : Bool) (s : List Char) : List Char :=
  let found := p.ends false s.toArray 0
  match if longest then found.getLast? else found.head? with
  | some n => s.drop n
  | none => s

/-- The text without the shortest or longest end that fits. -/
def trimEnd (p : Pattern) (longest : Bool) (s : List Char) : List Char :=
  let chars := s.toArray
  let cuts := List.range (s.length + 1)
  let whole := fun n => (p.ends false chars n).getLast? == some chars.size
  match (if longest then cuts else cuts.reverse).find? whole with
  | some n => s.take n
  | none => s

def trim (p : Pattern) (fromEnd longest : Bool) (s : List Char) : List Char :=
  if fromEnd then p.trimEnd longest s else p.trimStart longest s

/-- Replaces what fits from a place on, the leftmost first and of these the longest. `skipped` is the
number of characters that belong to the last match. -/
def replaceFrom (p : Pattern) (folds everywhere : Bool) (by_ : List Char → List Char) (all : Array Char)
    (place skipped : Nat) : List Char → List Char
  | [] => []
  | c :: rest =>
    match skipped with
    | n + 1 => replaceFrom p folds everywhere by_ all (place + 1) n rest
    | 0 =>
      match ((p.ends folds all place).getLast?).filter (place < ·) with
      | some stop =>
        let n := stop - place
        let match_ := (c :: rest).take n
        if everywhere then
          by_ match_ ++ replaceFrom p folds everywhere by_ all (place + 1) (n - 1) rest
        else by_ match_ ++ (c :: rest).drop n
      | none => c :: replaceFrom p folds everywhere by_ all (place + 1) 0 rest

/-- Puts a text in place of the first match, or of all of them. -/
def replace (p : Pattern) (folds everywhere : Bool) (by_ : List Char → List Char) (s : List Char) :
    List Char :=
  replaceFrom p folds everywhere by_ s.toArray 0 0 s

/-- Puts a text in place of the longest beginning that fits. -/
def replaceStart (p : Pattern) (folds : Bool) (by_ : List Char → List Char) (s : List Char) : List Char :=
  match (p.ends folds s.toArray 0).getLast? with
  | some n => by_ (s.take n) ++ s.drop n
  | none => s

/-- Puts a text in place of the longest end that fits. -/
def replaceEnd (p : Pattern) (folds : Bool) (by_ : List Char → List Char) (s : List Char) : List Char :=
  let chars := s.toArray
  match (List.range (s.length + 1)).find? fun n => (p.ends folds chars n).getLast? == some chars.size with
  | some n => s.take n ++ by_ (s.drop n)
  | none => s

end Pattern

end Toolwrap.Shell
