import Toolwrap.Shell.Regex
/-!
How regular expressions are written. There are two ways, the basic and the extended one, which differ
in which marks need a backslash. A text is first cut into tokens, which are the same for both, and the
tokens make up an expression.
-/
namespace Toolwrap.Shell.Regex

/-- Why a text is no expression. -/
inductive Fault where
  | openGroup | closedGroup | openSet | openBounds | badBounds | badRange | badClass | badRepetition
  | badBack | loneBackslash | bareClass | emptySet | tooBig
deriving DecidableEq, Repr

def Fault.message : Fault → String
  | openGroup => "Unmatched ( or \\("
  | closedGroup => "Unmatched ) or \\)"
  | openSet => "Unmatched [, [^, [:, [., or [="
  | openBounds => "Unmatched \\\x7b"
  | badBounds => "Invalid content of \\\x7b\\\x7d"
  | badRange => "Invalid range end"
  | badClass => "Invalid character class name"
  | badRepetition => "Invalid preceding regular expression"
  | badBack => "Invalid back reference"
  | loneBackslash => "Trailing backslash"
  | emptySet => "Invalid regular expression"
  | tooBig => "Regular expression too big"
  | bareClass => "character class syntax is [[:space:]], not [:space:]"

/-- What an expression is made of. -/
inductive Token where
  | atom (r : Regex)
  | repetition (least : Nat) (most : Option Nat)
  /-- a repetition where there is nothing to repeat, as it is named in warnings -/
  | idle (mark : String) (least : Nat) (most : Option Nat)
  | opening
  | closing
  | bar
deriving Repr

/-- How expressions are written. -/
structure Style where
  /-- the extended way: marks need no backslash -/
  extended : Bool
  /-- escapes stand for characters, also in brackets -/
  escapes : Bool := false
  /-- a bracket that closes no group is a mistake -/
  strict : Bool := true
  /-- so is a repetition of nothing, or of a repetition, and a class without brackets of its own -/
  exact : Bool := false

def classNames : List String :=
  ["alpha", "digit", "alnum", "upper", "lower", "space", "blank", "punct", "print", "graph", "cntrl", "xdigit"]

/-- The characters that escapes stand for. -/
def escapedChar? : Char → Option Char
  | 'n' => some '\n'
  | 't' => some '\t'
  | 'r' => some '\r'
  | 'f' => some '\x0c'
  | 'v' => some '\x0b'
  | 'a' => some '\x07'
  | _ => none

/-- One end of a range in a bracket, or a character that stands alone. -/
def setChar? (escapes : Bool) : List Char → Option (Char × List Char)
  | '[' :: '.' :: c :: '.' :: ']' :: rest => some (c, rest)
  | '[' :: '=' :: c :: '=' :: ']' :: rest => some (c, rest)
  | '\\' :: c :: rest =>
    match if escapes then escapedChar? c else none with
    | some d => some (d, rest)
    | none => if escapes && c == ']' then some ('\\', c :: rest) else some ('\\', c :: rest)
  | c :: rest => some (c, rest)
  | [] => none

/-- The members of a bracket, from behind its beginning, and what follows. The fuel bounds their number. -/
def setMembers (escapes : Bool) : Nat → Bool → List Char → Except Fault (List Member × List Char)
  | 0, _, _ => .error .openSet
  | _, _, [] => .error .openSet
  | fuel + 1, first, ']' :: rest =>
    if first then do
      let (more, after) ← setMembers escapes fuel false rest
      return (.range ']' ']' :: more, after)
    else .ok ([], rest)
  | fuel + 1, _, '[' :: ':' :: rest => do
    let name := String.ofList (rest.takeWhile (· != ':'))
    match rest.drop name.length with
    | ':' :: ']' :: after =>
      if !classNames.contains name then throw .badClass
      let (more, after) ← setMembers escapes fuel false after
      return (.named name :: more, after)
    | _ => throw .openSet
  | fuel + 1, _, s => do
    match setChar? escapes s with
    | none => throw .openSet
    | some (a, '-' :: ']' :: rest) =>
      let (more, after) ← setMembers escapes fuel false ('-' :: ']' :: rest)
      return (.range a a :: more, after)
    | some (a, '-' :: rest) =>
      match setChar? escapes rest with
      | none => throw .openSet
      | some (b, rest) =>
        if b < a then throw .badRange
        let (more, after) ← setMembers escapes fuel false rest
        return (.range a b :: more, after)
    | some (a, rest) =>
      let (more, after) ← setMembers escapes fuel false rest
      return (.range a a :: more, after)

/-- Whether the members of a bracket look like the name of a class without brackets of its own. -/
def looksLikeClass (members : List Member) : Bool :=
  let alone := members.filterMap fun m =>
    match m with
    | .range a b => if a == b then some a else none
    | _ => none
  alone.length == members.length && alone.head? == some ':' && alone.getLast? == some ':' && alone.any (· != ':')

/-- A set of characters, from behind its opening bracket. -/
def readSet (w : Style) (s : List Char) : Except Fault (Regex × List Char) := do
  let negated := s.head? == some '^'
  let inside := if negated then s.drop 1 else s
  if inside.isEmpty then throw .emptySet
  let (members, after) ← setMembers w.escapes (inside.length + 1) true inside
  if (!w.strict || w.exact) && looksLikeClass members then throw .bareClass
  return (.set negated members, after)

def digitsAt (s : List Char) : Option Nat × List Char :=
  let digits := s.takeWhile Char.isDigit
  (if digits.isEmpty then none else some (numberIn 10 digits), s.drop digits.length)

/-- The bounds of a repetition, from behind the opening brace; none if there are none. -/
def boundsAt (closing : List Char) (s : List Char) : Option ((Nat × Option Nat) × List Char) :=
  let (least, rest) := digitsAt s
  match rest with
  | ',' :: after =>
    let (most, rest) := digitsAt after
    if closing.isPrefixOf rest then
      if most.any (· < least.getD 0) then none
      else some ((least.getD 0, most), rest.drop closing.length)
    else none
  | rest =>
    match least with
    | some n => if closing.isPrefixOf rest then some ((n, some n), rest.drop closing.length) else none
    | none => none

/-- What a letter behind a backslash means in both ways of writing. -/
def letterToken? : Char → Option Regex
  | 'w' => some (.set false [.named "word"])
  | 'W' => some (.set true [.named "word"])
  | 's' => some (.set false [.named "space"])
  | 'S' => some (.set true [.named "space"])
  | 'b' => some (.edge true true)
  | 'B' => some .noEdge
  | '<' => some (.edge true false)
  | '>' => some (.edge false true)
  | '\x60' => some .start
  | '\x27' => some .finish
  | _ => none

/-- A bar where an expression may begin again, or its beginning. -/
def beginsHere : List Token → Bool
  | [] => true
  | .opening :: _ => true
  | .bar :: _ => true
  | .atom .start :: _ => true
  | .idle _ _ _ :: _ => true
  | _ => false

/-- What a mark of a repetition is where there is nothing to repeat. -/
def Style.idle (w : Style) (literal waived : Except Fault (List Token)) : Except Fault (List Token) :=
  if !w.extended then literal else if w.exact then .error .badRepetition else if w.strict then literal else waived

/-- More repetitions than these cannot be asked for. -/
def mostRepetitions : Nat := 32767

/-- Whether a repetition may not stand here, because one stands in front of it. -/
def Style.isDoubled (w : Style) (found : List Token) : Bool :=
  w.exact && !w.extended && (match found with | .repetition _ _ :: _ => true | _ => false)

/-- The tokens of a text; those that were found are given last one first. The fuel bounds their number. -/
def tokens (w : Style) : Nat → List Token → List Char → Except Fault (List Token)
  | 0, found, _ => .ok found.reverse
  | _, found, [] => .ok found.reverse
  | fuel + 1, found, '\\' :: rest =>
    match rest with
    | [] => .error .loneBackslash
    | c :: after =>
      let literal := tokens w fuel (.atom (.char c) :: found) after
      if c.isDigit && c != '0' then
        let n := c.toNat - 48
        let groups := (found.filter fun t => match t with | .opening => true | _ => false).length
        if groups < n then .error .badBack else tokens w fuel (.atom (.back n) :: found) after
      else
        match letterToken? c, if w.escapes then escapedChar? c else none with
        | some r, _ => tokens w fuel (.atom r :: found) after
        | none, some d => tokens w fuel (.atom (.char d) :: found) after
        | none, none =>
          if w.extended then literal
          else
            match c with
            | '(' => tokens w fuel (.opening :: found) after
            | ')' => tokens w fuel (.closing :: found) after
            | '|' => tokens w fuel (.bar :: found) after
            | '+' => if beginsHere found then literal else tokens w fuel (.repetition 1 none :: found) after
            | '?' => if beginsHere found then literal else tokens w fuel (.repetition 0 (some 1) :: found) after
            | '\x7b' =>
              if w.isDoubled found || (w.strict && beginsHere found) then .error .badRepetition
              else if beginsHere found then literal
              else
                match boundsAt ['\\', '\x7d'] after with
                | some ((least, most), after) =>
                  if mostRepetitions < most.getD least then .error .tooBig
                  else tokens w fuel (.repetition least most :: found) after
                | none => .error (if after.contains '\x7d' then .badBounds else .openBounds)
            | _ => literal
  | fuel + 1, found, '[' :: rest => do
    let (r, after) ← readSet w rest
    tokens w fuel (.atom r :: found) after
  | fuel + 1, found, c :: rest =>
    let literal := tokens w fuel (.atom (.char c) :: found) rest
    match c with
    | '.' => tokens w fuel (.atom .any :: found) rest
    | '*' =>
      if beginsHere found then w.idle literal (tokens w fuel (.idle "*" 0 none :: found) rest)
      else if w.isDoubled found then .error .badRepetition
      else tokens w fuel (.repetition 0 none :: found) rest
    | '^' =>
      let anchors := match found with
        | [] => true
        | .opening :: _ => true
        | .bar :: _ => true
        | _ => false
      if w.extended || anchors then tokens w fuel (.atom .start :: found) rest else literal
    | '$' =>
      let anchors := match rest with
        | [] => true
        | '\\' :: ')' :: _ => true
        | '\\' :: '|' :: _ => true
        | _ => false
      if w.extended || anchors then tokens w fuel (.atom .finish :: found) rest else literal
    | _ =>
      if !w.extended then literal
      else
        match c with
        | '(' => tokens w fuel (.opening :: found) rest
        | ')' => tokens w fuel (.closing :: found) rest
        | '|' => tokens w fuel (.bar :: found) rest
        | '+' =>
          if beginsHere found then w.idle literal (tokens w fuel (.idle "+" 1 none :: found) rest)
          else tokens w fuel (.repetition 1 none :: found) rest
        | '?' =>
          if beginsHere found then w.idle literal (tokens w fuel (.idle "?" 0 (some 1) :: found) rest)
          else tokens w fuel (.repetition 0 (some 1) :: found) rest
        | '\x7b' =>
          match boundsAt ['\x7d'] rest with
          | some ((least, most), after) =>
            if mostRepetitions < most.getD least then .error .tooBig
            else if beginsHere found then
              w.idle literal (tokens w fuel (.idle "\x7b...\x7d" least most :: found) after)
            else tokens w fuel (.repetition least most :: found) after
          | none =>
            if rest.head?.any Char.isDigit && rest.contains '\x7d' then .error .badBounds else literal
        | _ => literal

/-! Expressions of tokens. -/

/-- What is left of the tokens, and how many groups were opened. -/
structure Assembly where
  rest : List Token
  groups : Nat := 0

abbrev Assembler := StateT Assembly (Except Fault)

def nextToken? : Assembler (Option Token) := return (← get).rest.head?

def skipToken : Assembler Unit := modify fun r => { r with rest := r.rest.drop 1 }

/-- The repetitions behind an expression. -/
def repetitions : Nat → Regex → Assembler Regex
  | 0, r => return r
  | fuel + 1, r => do
    match ← nextToken? with
    | some (.repetition least most) =>
      skipToken
      repetitions fuel (.times r least most)
    | some (.idle _ least most) =>
      skipToken
      repetitions fuel (.times r least most)
    | _ => return r

mutual

def alternatives (strict : Bool) : Nat → Bool → Assembler Regex
  | 0, _ => throw .openGroup
  | fuel + 1, inGroup => do
    let first ← sequence strict fuel inGroup .empty
    match ← nextToken? with
    | some .bar =>
      skipToken
      return .either first (← alternatives strict fuel inGroup)
    | _ => return first

def sequence (strict : Bool) : Nat → Bool → Regex → Assembler Regex
  | 0, _, _ => throw .openGroup
  | fuel + 1, inGroup, before => do
    match ← nextToken? with
    | none => return before
    | some .bar => return before
    | some .closing =>
      if inGroup then return before
      if strict then throw .closedGroup
      skipToken
      sequence strict fuel inGroup (.seq before (.char ')'))
    | some (.repetition _ _) => throw .badRepetition
    | some (.idle _ _ _) =>
      skipToken
      sequence strict fuel inGroup before
    | some (.atom r) =>
      skipToken
      let r ← repetitions (fuel + 1) r
      sequence strict fuel inGroup (.seq before r)
    | some .opening =>
      skipToken
      let n := (← get).groups + 1
      modify fun s => { s with groups := n }
      let inner ← alternatives strict fuel true
      match ← nextToken? with
      | some .closing => skipToken
      | _ => throw .openGroup
      let r ← repetitions (fuel + 1) (.group n inner)
      sequence strict fuel inGroup (.seq before r)

end

/-- Puts tokens together. -/
def assemble (strict : Bool) (ts : List Token) : Except Fault Expression := do
  let (r, left) ← (alternatives strict (4 * ts.length + 4) false).run { rest := ts }
  return ⟨r, left.groups⟩

/-- Reads an expression. -/
def read (w : Style) (s : List Char) : Except Fault Expression := do
  assemble (w.strict || !w.extended) (← tokens w (s.length + 1) [] s)

/-- The marks of a text that repeat nothing. -/
def idleMarks (w : Style) (s : List Char) : List String :=
  match tokens w (s.length + 1) [] s with
  | .ok ts => ts.filterMap fun t => match t with
    | .idle mark _ _ => some mark
    | _ => none
  | .error _ => []

def basic : Style := { extended := false }

def extended : Style := { extended := true }

/-! Expressions among the words of the shell: a character that was quoted stands for itself. -/

/-- The tokens of marked characters. -/
def markedTokens : Nat → List Token → List Marked → Option (List Token)
  | 0, found, _ => some found.reverse
  | _, found, [] => some found.reverse
  | fuel + 1, found, (c, true) :: rest => markedTokens fuel (.atom (.char c) :: found) rest
  | fuel + 1, found, ('[', false) :: rest =>
    match Pattern.readBracket rest with
    | some (.bracket negated members, rest) => markedTokens fuel (.atom (.set negated members) :: found) rest
    | _ => none
  | fuel + 1, found, ('\\', false) :: (c, _) :: rest => markedTokens fuel (.atom (.char c) :: found) rest
  | fuel + 1, found, (c, false) :: rest =>
    match c with
    | '.' => markedTokens fuel (.atom .any :: found) rest
    | '^' => markedTokens fuel (.atom .start :: found) rest
    | '$' => markedTokens fuel (.atom .finish :: found) rest
    | '(' => markedTokens fuel (.opening :: found) rest
    | ')' => markedTokens fuel (.closing :: found) rest
    | '|' => markedTokens fuel (.bar :: found) rest
    | '*' => markedTokens fuel ((if beginsHere found then .atom (.char '*') else .repetition 0 none) :: found) rest
    | '+' => if beginsHere found then none else markedTokens fuel (.repetition 1 none :: found) rest
    | '?' => if beginsHere found then none else markedTokens fuel (.repetition 0 (some 1) :: found) rest
    | '\x7b' =>
      match boundsAt ['\x7d'] (rest.map (·.1)) with
      | some ((least, most), after) =>
        markedTokens fuel (.repetition least most :: found) (rest.drop (rest.length - after.length))
      | none => markedTokens fuel (.atom (.char c) :: found) rest
    | c => markedTokens fuel (.atom (.char c) :: found) rest

/-- Reads an expression of the shell. -/
def ofMarked? (s : List Marked) : Option Expression := do
  let ts ← markedTokens (s.length + 1) [] s
  (assemble true ts).toOption

end Toolwrap.Shell.Regex
