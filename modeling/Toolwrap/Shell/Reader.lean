import Toolwrap.Shell.Numbering
import Toolwrap.Shell.Source
import Toolwrap.Text.Blank
/-!
Reading programs. A word is read part by part, each part in a mode that says which quotes count; a
command is read by the keyword at its front. Main function: `Program.read`, which gives the commands of
a program line by line, up to a line that cannot be read.
-/
namespace Toolwrap.Shell

namespace Reader

/-- Words that end a list of commands when they stand at the front of one. -/
def closers : List (List Char) :=
  [['t', 'h', 'e', 'n'], ['e', 'l', 's', 'e'], ['e', 'l', 'i', 'f'],
   ['f', 'i'], ['d', 'o'], ['d', 'o', 'n', 'e'],
   ['e', 's', 'a', 'c'], ['\x7d']]

/-- What a word begins that is no simple command. -/
inductive Opening where
  | group | condition | whileLoop | untilLoop | forLoop | menu | choice | test | function
deriving DecidableEq, Repr

/-- Whether the plain language knows it not. -/
def Opening.isFull : Opening → Bool
  | menu | test | function => true
  | _ => false

def openings : List (List Char × Opening) :=
  [(['\x7b'], .group), (['i', 'f'], .condition), (['w', 'h', 'i', 'l', 'e'], .whileLoop),
   (['u', 'n', 't', 'i', 'l'], .untilLoop), (['f', 'o', 'r'], .forLoop),
   (['s', 'e', 'l', 'e', 'c', 't'], .menu), (['c', 'a', 's', 'e'], .choice), (['[', '['], .test),
   (['f', 'u', 'n', 'c', 't', 'i', 'o', 'n'], .function)]

/-- Whether a list of commands ends here. -/
def atEnd : Reader Bool := do
  match ← peek? with
  | none => return true
  | some ')' => return true
  | some ';' =>
    let falls ← sees ";&"
    return (← sees ";;") || (falls && !(← isPlain))
  | some _ => return closers.contains (← upcomingChars)

/-- Questions between double brackets about one operand. -/
def unaryTests : List Char :=
  ['a', 'b', 'c', 'd', 'e', 'f', 'g', 'h', 'k', 'n', 'o', 'p', 'r', 's', 't', 'u', 'v', 'w', 'x', 'z',
   'G', 'L', 'N', 'O', 'R', 'S']

/-- Questions between double brackets about two operands. -/
def binaryTests : List String :=
  ["==", "=", "!=", "=~", "<", ">", "-eq", "-ne", "-lt", "-le", "-gt", "-ge", "-nt", "-ot", "-ef"]

/-- Commands among whose words there may be assignments of arrays. -/
def declarations : List String := ["declare", "typeset", "local", "export", "readonly"]

/-- A name between braces in front of a redirection, with its length. -/
def descriptorName? (source : Source) : Option (String × Nat) :=
  match source with
  | ('\x7b', _) :: rest =>
    let name := rest.takeWhile fun c => isNameChar c.1
    match rest.drop name.length with
    | ('\x7d', _) :: ('<', _) :: _ => some (Source.text name, name.length + 2)
    | ('\x7d', _) :: ('>', _) :: _ => some (Source.text name, name.length + 2)
    | _ => none
  | _ => none

/-- Whether a redirection comes next. In the plain language it begins with one digit at most. -/
def redirectAhead (isPlain : Bool) (source : Source) : Bool :=
  let digits := source.takeWhile fun c => c.1.isDigit
  if isPlain then
    digits.length ≤ 1 && (source.drop digits.length).head?.any fun c => c.1 == '<' || c.1 == '>'
  else
  match source.drop digits.length with
  | ('<', _) :: ('(', _) :: _ => false
  | ('>', _) :: ('(', _) :: _ => false
  | ('<', _) :: _ => true
  | ('>', _) :: _ => true
  | ('&', _) :: ('>', _) :: _ => digits.isEmpty
  | rest => (descriptorName? rest).isSome && digits.isEmpty

/-- What follows a bracket that closes, brackets inside coming in pairs. -/
def behindBracket (depth : Nat) : Source → Source
  | [] => []
  | (c, _) :: rest =>
    if c == ']' then (if depth == 0 then rest else behindBracket (depth - 1) rest)
    else if c == '\n' then []
    else behindBracket (if c == '[' then depth + 1 else depth) rest

def equalsAhead : Source → Bool
  | ('=', _) :: _ => true
  | ('+', _) :: ('=', _) :: _ => true
  | _ => false

/-- Whether an assignment comes next. In the plain language it has no index and adds nothing. -/
def assignmentAhead (isPlain : Bool) (source : Source) : Bool :=
  match source with
  | (c, _) :: _ =>
    if !isNameStart c then false
    else if isPlain then ((source.dropWhile fun c => isNameChar c.1).head?.map (·.1)) == some '='
    else
      match source.dropWhile fun c => isNameChar c.1 with
      | ('[', _) :: rest => equalsAhead (behindBracket 0 rest)
      | rest => equalsAhead rest
  | [] => false

/-- Whether a name with an index comes next that is not closed. -/
def openIndex (source : Source) : Bool :=
  match source with
  | (c, _) :: _ =>
    isNameStart c &&
      match source.dropWhile fun c => isNameChar c.1 with
      | ('[', _) :: rest => !rest.any (·.1 == ']')
      | _ => false
  | [] => false

/-- Whether an item with its index comes next. -/
def keyAhead (source : Source) : Bool :=
  match source with
  | ('[', _) :: rest => equalsAhead (behindBracket 0 rest)
  | _ => false

/-- Whether the assignment that comes next gives an array. -/
def arrayAhead (source : Source) : Bool :=
  match (source.dropWhile fun c => isNameChar c.1).dropWhile fun c => c.1 == '+' with
  | ('=', _) :: ('(', _) :: _ => true
  | _ => false

/-- Marks that begin something together with a parenthesis behind them. -/
def isGroupMark (c : Char) : Bool := c ∈ ['?', '*', '+', '@', '!', '<', '>']

/-- Text in front of parts; two texts in a row are one. -/
def textThen (s : String) : List Part → List Part
  | .text t :: rest => .text (s ++ t) :: rest
  | ps => .text s :: ps

/-- Parts in front of parts, where a text at the end of the first and one at the front of the second are
one. -/
def joinParts : List Part → List Part → List Part
  | [], qs => qs
  | .text s :: ps, qs => textThen s (joinParts ps qs)
  | p :: ps, qs => p :: joinParts ps qs

/-- Whether a number comes next with a mark behind it that would be redirected. -/
def numberAhead (source : Source) : Bool :=
  let digits := source.takeWhile fun c => c.1.isDigit
  !digits.isEmpty && (source.drop digits.length).head?.any fun c => c.1 == '<' || c.1 == '>'

/-- Reads with patterns that may hold groups. -/
def withGroups {α : Type} (reader : Reader α) : Reader α := do
  let extended := (← get).extended
  modify fun r => { r with extended := true }
  let x ← reader
  modify fun r => { r with extended }
  return x

mutual

/-- The parts of a word up to a character that stops it. -/
def parts : Nat → Mode → (Char → Bool) → Reader (List Part)
  | 0, _, _ => unfit
  | fuel + 1, m, stop => do
    let source ← left
    let isPlain ← isPlain
    match source with
    | [] => return []
    | (c, line) :: rest =>
      let isGroup := (rest.head?.map (·.1)) == some '('
      if m.single && isGroup && (c == '<' || c == '>') && !isPlain then
        skip 1
        let body ← enclosed fuel
        return .process (c == '<') body.numbered :: (← parts fuel m stop)
      else if m.single && isGroup && c ∈ ['?', '*', '+', '@', '!'] && (← get).extended then
        skip 2
        let inner ← parts fuel m (· == ')')
        pass ")"
        return textThen (String.ofList [c, '(']) (joinParts inner (textThen ")" (← parts fuel m stop)))
      else if stop c then return []
      else if c == '\\' then
        match rest with
        | ('\n', _) :: after =>
          goOn after
          parts fuel m stop
        | (d, _) :: after =>
          if m.escapes d then
            goOn after
            return .escaped d :: (← parts fuel m stop)
          else
            goOn rest
            return textThen "\\" (← parts fuel m stop)
        | [] =>
          goOn rest
          return [.text "\\"]
      else if c == '\x27' && m.single then
        skip 1
        let s ← takeWhile (· != '\x27')
        if !(← passes "\x27") then unclosed '\x27' line
        return .single s :: (← parts fuel m stop)
      else if c == '\x22' && m.double then
        skip 1
        let inner ← parts fuel .quoted (· == '\x22')
        if !(← passes "\x22") then unclosed '\x22' line
        return .double inner :: (← parts fuel m stop)
      else if c == '$' then
        skip 1
        let p ← dollar fuel m
        return joinParts [p] (← parts fuel m stop)
      else if c == '\x60' then
        match backquoted rest with
        | some (body, after) =>
          goOn (body.map fun (c, n) => (c, n - line))
          let p ←
            (do let script ← list fuel
                if !(← left).isEmpty then unfit
                return Part.output script) <|> return Part.unread (Source.text body)
          goOn after
          return p :: (← parts fuel m stop)
        | none => unclosed '\x60' line
      else
        -- one character at least is text, since it is neither special nor stops the word
        let s ← takeWhile fun c => !stop c && !m.isSpecial c && !(m.single && isGroupMark c)
        if s.isEmpty then
          skip 1
          return textThen (String.singleton c) (← parts fuel m stop)
        return textThen s (← parts fuel m stop)
termination_by structural n => n

/-- What follows a dollar sign. -/
def dollar : Nat → Mode → Reader Part
  | 0, _ => unfit
  | fuel + 1, m => do
    let line ← lineHere
    let isPlain ← isPlain
    let arithmetic : Reader Part := do
      pass "(("
      let expr ← calculation fuel line 0 false
      pass "))"
      return .arith expr
    match ← peek? with
    | some '(' =>
      if !(← sees "((") then return .output (← enclosed fuel).numbered
      if isPlain then arithmetic
      else
        match balanced line 0 none ((← left).drop 1) with
        | .error (mark, line) => unclosed mark line
        | .ok (body, after) =>
          let commands : Reader Part := do
            goOn body
            let script ← list fuel
            if !(← left).isEmpty then unfit
            goOn after
            return .output script.numbered
          let unread : Reader Part := do
            goOn after
            return .unread (Source.text body)
          arithmetic <|> commands <|> unread
    | some '[' =>
      if isPlain then return .text "$"
      skip 1
      let expr ← parts fuel .quoted (· == ']')
      if !(← passes "]") then unclosed ']' line
      return .arith expr
    | some '\x7b' =>
      skip 1
      expansion fuel m
    | some c =>
      if c == '\x27' && m.single && !isPlain then
        skip 1
        ansi
      else if c == '\x22' && m.single && !isPlain then
        skip 1
        let inner ← parts fuel .quoted (· == '\x22')
        if !(← passes "\x22") then unclosed '\x22' line
        return .double inner
      else if isNameStart c then return .param (← takeWhile isNameChar) [] .plain
      else if c.isDigit || isMark c then
        skip 1
        return .param (String.singleton c) [] .plain
      else return .text "$"
    | none => return .text "$"
termination_by structural n => n

/-- Commands between parentheses. A text that ends before them lacks the second one. -/
def enclosed : Nat → Reader Script
  | 0 => unfit
  | fuel + 1 => do
    pass "("
    if ← isPlain then
      let body ← list fuel
      need ")"
      return body
    try
      let body ← list fuel
      need ")"
      return body
    catch
      | .unexpected [] => unclosedAtEnd ')'
      | .missing _ [] => unclosedAtEnd ')'
      | fault => throw fault
termination_by structural n => n

/-- An expansion from behind its opening brace. One that makes no sense is kept as text. -/
def expansion : Nat → Mode → Reader Part
  | 0, _ => unfit
  | fuel + 1, m => do
    let source ← left
    let line ← lineHere
    let isPlain ← isPlain
    (do pass "#"
        let name ← parameter
        let index ← if isPlain then pure [] else subscript fuel
        pass "\x7d"
        return .param name index .length) <|>
    (do if isPlain then unfit
        pass "!"
        let name ← parameter
        if ← passes "*\x7d" then return .param name [] (.names true)
        if ← passes "@\x7d" then return .param name [] (.names false)
        let index ← subscript fuel
        return .param name index (.indirect (← operation fuel m))) <|>
    (do let name ← parameter
        let index ← if isPlain then pure [] else subscript fuel
        return .param name index (← operation fuel m)) <|>
    (match braced 0 none source with
      | some (inner, rest) => do
        goOn rest
        return .invalid ("$\x7b" ++ String.ofList inner ++ "\x7d")
      | none => unclosed '\x7d' line)
termination_by structural n => n

/-- A subscript, if there is one. -/
def subscript : Nat → Reader (List Part)
  | 0 => unfit
  | fuel + 1 => do
    if ← passes "[" then
      let index ← bracketed fuel 0
      pass "]"
      if index.isEmpty then unfit
      return index
    return []
termination_by structural n => n

/-- The parts up to a closing bracket, brackets inside coming in pairs. -/
def bracketed : Nat → Nat → Reader (List Part)
  | 0, _ => unfit
  | fuel + 1, depth => do
    let first ← parts fuel .word fun c => c == '[' || c == ']'
    if ← passes "[" then return joinParts first (textThen "[" (← bracketed fuel (depth + 1)))
    if depth == 0 then return first
    if ← passes "]" then return joinParts first (textThen "]" (← bracketed fuel (depth - 1)))
    return first
termination_by structural n => n

/-- What is done to a parameter, up to the closing brace. -/
def operation : Nat → Mode → Reader Op
  | 0, _ => unfit
  | fuel + 1, m => do
    let close := fun (c : Char) => c == '\x7d'
    let default := fun (kind : DefaultKind) (colon : Bool) => do
      let word ← parts fuel m.inner close
      pass "\x7d"
      return Op.default kind colon word
    let trim := fun (fromEnd longest : Bool) => do
      let pattern ← parts fuel .word close
      pass "\x7d"
      return Op.trim fromEnd longest pattern
    let casing := fun (kind : LetterCase) (everywhere : Bool) => do
      let pattern ← parts fuel .word close
      pass "\x7d"
      return Op.casing kind everywhere pattern
    let replace := fun (site : Site) => do
      let pattern ← parts fuel .word fun c => c == '/' || c == '\x7d'
      if ← passes "\x7d" then return Op.replace site pattern []
      pass "/"
      let word ← parts fuel .word close
      pass "\x7d"
      return Op.replace site pattern word
    if ← passes "\x7d" then return .braced
    if ← passes ":-" then return ← default .use true
    if ← passes ":=" then return ← default .assign true
    if ← passes ":+" then return ← default .alternative true
    if ← passes ":?" then return ← default .require true
    if ← passes "-" then return ← default .use false
    if ← passes "=" then return ← default .assign false
    if ← passes "+" then return ← default .alternative false
    if ← passes "?" then return ← default .require false
    if ← passes "##" then return ← trim false true
    if ← passes "#" then return ← trim false false
    if ← passes "%%" then return ← trim true true
    if ← passes "%" then return ← trim true false
    if ← isPlain then unfit
    if ← passes "^^" then return ← casing .upper true
    if ← passes "^" then return ← casing .upper false
    if ← passes ",," then return ← casing .lower true
    if ← passes "," then return ← casing .lower false
    if ← passes "~~" then return ← casing .other true
    if ← passes "~" then return ← casing .other false
    if ← passes "@" then
      match ← peek? with
      | some c =>
        skip 1
        pass "\x7d"
        if c ∈ ['Q', 'E', 'P', 'A', 'a', 'U', 'u', 'L', 'K', 'k'] then return .transform c
        unfit
      | none => unfit
    if ← passes ":" then
      let offset ← parts fuel .quoted fun c => c == ':' || c == '\x7d'
      if ← passes "\x7d" then return .dropChars offset
      pass ":"
      let length ← parts fuel .quoted close
      pass "\x7d"
      return .slice offset length
    if ← passes "//" then return ← replace .everywhere
    if ← passes "/#" then return ← replace .start
    if ← passes "/%" then return ← replace .finish
    if ← passes "/" then return ← replace .first
    unfit
termination_by structural n => n

/-- An arithmetic expression up to the closing parentheses, or to a semicolon if it ends one; both are
left. `depth` counts the parentheses that are open inside, and `line` is where they opened. -/
def calculation : Nat → Nat → Nat → Bool → Reader (List Part)
  | 0, _, _, _ => unfit
  | fuel + 1, line, depth, semicolon => do
    match ← left with
    | [] => unclosed ')' line
    | (c, _) :: _ =>
      if c == '(' then
        skip 1
        return .text "(" :: (← calculation fuel line (depth + 1) semicolon)
      else if c == ')' then
        match depth with
        | 0 =>
          if ← sees "))" then return []
          if !(← isPlain) then unfit
          skip 1
          return .text ")" :: (← calculation fuel line 0 semicolon)
        | depth + 1 =>
          skip 1
          return .text ")" :: (← calculation fuel line depth semicolon)
      else if c == ';' && semicolon then
        if depth != 0 then unfit
        return []
      else if c == '\x22' && !(← isPlain) then
        skip 1
        calculation fuel line depth semicolon
      else if c == '$' || c == '\x60' || c == '\\' then
        let stop := fun (c : Char) => !(c == '$' || c == '\x60' || c == '\\')
        let ps ← parts fuel .quoted stop
        return ps ++ (← calculation fuel line depth semicolon)
      else
        skip 1
        let s ← takeWhile fun c => c ∉ ['(', ')', ';', '$', '\x60', '\x22', '\\']
        return .text (String.singleton c ++ s) :: (← calculation fuel line depth semicolon)
termination_by structural n => n

/-- Words up to the end of a command. -/
def words : Nat → Reader (List Word)
  | 0 => unfit
  | fuel + 1 => do
    blanks
    let word ← parts fuel .word isMeta
    if word.isEmpty then return []
    return word :: (← words fuel)
termination_by structural n => n

/-- The items of an array, up to its closing parenthesis. -/
def items : Nat → Nat → Reader (List Item)
  | 0, _ => unfit
  | fuel + 1, line => do
    allEmptyLines
    if ← passes ")" then return []
    if (← left).isEmpty then throw (.inArray (.unclosed ')' line))
    if keyAhead (← left) then
      skip 1
      let index ← bracketed fuel 0
      pass "]"
      let append ← passes "+"
      pass "="
      let word ← parts fuel .word isMeta
      return .keyed index append word :: (← items fuel line)
    let word ← parts fuel .word isMeta
    if word.isEmpty then throw (.inArray (.unexpected (← left)))
    return .plain word :: (← items fuel line)
termination_by structural n => n

/-- An assignment. -/
def assignment : Nat → Reader Assign
  | 0 => unfit
  | fuel + 1 => do
    let name ← takeWhile isNameChar
    -- an index that is missing is refused when it is used
    let index ← if ← passes "[]" then pure [Part.text ""] else subscript fuel
    let append ← passes "+"
    pass "="
    let line ← lineHere
    if index.isEmpty && !(← isPlain) then
      if ← passes "(" then return .array name append (← items fuel line)
    return .value name index append (← parts fuel .word isMeta)
termination_by structural n => n

/-- The word behind the mark of a redirection. -/
def target : Nat → Reader Word
  | 0 => unfit
  | fuel + 1 => do
    blanks
    let word ← parts fuel .word isMeta
    if word.isEmpty then unfit
    return word
termination_by structural n => n

/-- A redirection. -/
def redirect : Nat → Reader Redirect
  | 0 => unfit
  | fuel + 1 => do
    let isPlain ← isPlain
    let source ← left
    match if isPlain then none else descriptorName? source with
    | some (name, length) =>
      skip length
      match ← redirect fuel with
      | .mk _ kind target => return .named name kind target
      | r => return r
    | none => pure ()
    let digits := (← takeWhile Char.isDigit).toList
    let fd := fun (absent : Nat) => if digits.isEmpty then absent else numberIn 10 digits
    let here := fun (tabs : Bool) => do
      let (mark, quoted) := markOf (← target fuel)
      let body ← takeDocument tabs mark
      if quoted then return Redirect.mk (fd 0) .hereVerbatim [.text (Source.text body)]
      let rest ← left
      goOn body
      let document ← parts fuel .document fun _ => false
      goOn rest
      return Redirect.mk (fd 0) .hereExpanded document
    if !isPlain then
      if ← passes "&>>" then return .mk 1 .appendBoth (← target fuel)
      if ← passes "&>" then return .mk 1 .writeBoth (← target fuel)
      if ← passes "<<<" then return .mk (fd 0) .hereText (← target fuel)
    if ← passes "<<-" then return ← here true
    if ← passes "<<" then return ← here false
    if ← passes "<&" then return .mk (fd 0) .duplicate (← target fuel)
    if ← passes "<>" then return .mk (fd 0) .readWrite (← target fuel)
    if ← passes ">>" then return .mk (fd 1) .append (← target fuel)
    if ← passes ">&" then return .mk (fd 1) .duplicate (← target fuel)
    if ← passes ">|" then return .mk (fd 1) .force (← target fuel)
    if ← passes ">" then return .mk (fd 1) .write (← target fuel)
    if ← passes "<" then return .mk (fd 0) .read (← target fuel)
    unfit
termination_by structural n => n

/-- Redirections behind a command. -/
def redirects : Nat → Reader (List Redirect)
  | 0 => unfit
  | fuel + 1 => do
    blanks
    if !redirectAhead (← isPlain) (← left) then return []
    let r ← redirect fuel
    return r :: (← redirects fuel)
termination_by structural n => n

/-- A word of a command. Behind a command that declares, an assignment of an array is one. -/
def commandWord : Nat → Bool → Reader Word
  | 0, _ => unfit
  | fuel + 1, declares => do
    let source ← left
    if declares && assignmentAhead false source && arrayAhead source then return [.assign (← assignment fuel)]
    parts fuel .word isMeta
termination_by structural n => n

/-- Assignments, words and redirections of a simple command, with the line on which it counts as
standing: a command that begins with a word stands where the token behind that word ends. -/
def simple : Nat → Nat → List Assign → List Word → List Redirect → Reader Command
  | 0, _, _, _, _ => unfit
  | fuel + 1, line, assigns, words, redirects => do
    blanks
    if words.isEmpty then replaceNames (← get).aliases.length else replaceNext
    blanks
    let source ← left
    let isPlain ← isPlain
    if words.isEmpty && !isPlain && openIndex source then unclosed ']' (← lineHere)
    let isFirst := assigns.isEmpty && words.isEmpty && redirects.isEmpty
    if redirectAhead isPlain source then
      let r ← redirect fuel
      let line ← if isFirst then lineHere else pure line
      simple fuel line assigns words (redirects ++ [r])
    else if words.isEmpty && assignmentAhead isPlain source then
      let a ← assignment fuel
      let line ← if isFirst then lineHere else pure line
      simple fuel line (assigns ++ [a]) words redirects
    else
      let declares := match words with
        | [.text name] :: _ => declarations.contains name && !isPlain
        | _ => false
      let word ← commandWord fuel declares
      if word.isEmpty then
        let opens ← sees "("
        if isFirst || (opens && !isPlain) then unfit
        return .located line (.simple assigns words redirects)
      let isSecond := assigns.isEmpty && redirects.isEmpty && words.length ≤ 1
      let line ← if isSecond then lineHere else pure line
      simple fuel line assigns (words ++ [word]) redirects
termination_by structural n => n

/-- A word of a condition between double brackets, empty if something else comes next. -/
def testWord : Nat → Bool → Reader Word
  | 0, _ => unfit
  | fuel + 1, expression => do
    blanks
    if expression then expressionWord fuel 0
    else withGroups (parts fuel .word isMeta)
termination_by structural n => n

/-- A regular expression, in which parentheses come in pairs. -/
def expressionWord : Nat → Nat → Reader Word
  | 0, _ => unfit
  | fuel + 1, depth => do
    let stop := fun (c : Char) =>
      c == '(' || c == ')' || (depth == 0 && (c == ' ' || c == '\t' || c == '\n'))
    let first ← parts fuel .word stop
    if ← passes "(" then return joinParts first (textThen "(" (← expressionWord fuel (depth + 1)))
    if depth == 0 then return first
    if ← passes ")" then return joinParts first (textThen ")" (← expressionWord fuel (depth - 1)))
    return first
termination_by structural n => n

/-- An operand that has to come next. -/
def operand : Nat → String → Bool → Reader Word
  | 0, _, _ => unfit
  | fuel + 1, arity, expression => do
    blanks
    let source ← left
    if numberAhead source then
      throw (.condition [(← lineHere, s!"unexpected argument to conditional {arity} operator")] source)
    let word ← if (← upcoming) == "]]" then pure [] else testWord fuel expression
    if word.isEmpty then
      throw (.condition
        [(← lineHere, s!"unexpected argument \x60{source.token}' to conditional {arity} operator")] source)
    return word
termination_by structural n => n

def testPrimary : Nat → Reader Test
  | 0 => unfit
  | fuel + 1 => do
    allEmptyLines
    let line ← lineHere
    if ← keyword "!" then return .not (← testPrimary fuel)
    if ← passes "(" then
      let t ←
        try testAny fuel
        catch
          | .condition reasons rest => throw (.condition (reasons ++ [(line, "expected \x60)'")]) rest)
          | fault => throw fault
      allEmptyLines
      if !(← passes ")") then
        let source ← left
        throw (.condition [(line, s!"unexpected token \x60{source.token}', expected \x60)'")] source)
      return t
    let source ← left
    let first ← upcoming
    if first == "]]" then throw (.condition [] source)
    match first.toList with
    | ['-', c] =>
      if unaryTests.contains c then
        skip 2
        return .unary first (← operand fuel "unary" false)
    | _ => pure ()
    if numberAhead source then
      throw (.condition [(line, "unexpected token 284 in conditional command")] source)
    let left_ ← testWord fuel false
    if left_.isEmpty then
      throw (.condition
        [(← lineBehindText, s!"unexpected token \x60{source.token}' in conditional command")] source)
    blanks
    let next ← upcoming
    match ← binaryTests.findM? fun op => do
        if op == "<" || op == ">" then sees op else return next == op with
    | some op =>
      skip op.length
      return .binary left_ op (← operand fuel "binary" (op == "=~"))
    | none =>
      if next == "]]" || (← sees "&&") || (← sees "||") || (← sees ")") then
        return .unary "-n" left_
      let source ← left
      let line ← lineBehindText
      if next.isEmpty then
        throw (.condition
          [(line, s!"unexpected token \x60{source.token}', conditional binary operator expected")] source)
      throw (.condition [(line, "conditional binary operator expected")] source)
termination_by structural n => n

def testAll : Nat → Reader Test
  | 0 => unfit
  | fuel + 1 => do
    let first ← testPrimary fuel
    allEmptyLines
    if ← passes "&&" then return .and first (← testAll fuel)
    return first
termination_by structural n => n

def testAny : Nat → Reader Test
  | 0 => unfit
  | fuel + 1 => do
    let first ← testAll fuel
    allEmptyLines
    if ← passes "||" then return .or first (← testAny fuel)
    return first
termination_by structural n => n

/-- The patterns of a branch, up to the parenthesis behind them. -/
def patterns : Nat → Reader (List Word)
  | 0 => unfit
  | fuel + 1 => do
    blanks
    let word ← parts fuel .word isMeta
    if word.isEmpty then unfit
    blanks
    if ← passes "|" then return word :: (← patterns fuel)
    need ")"
    return [word]
termination_by structural n => n

/-- The branches of a case, up to its end. -/
def clauses : Nat → Reader (List Clause)
  | 0 => unfit
  | fuel + 1 => do
    allEmptyLines
    if ← keyword "esac" then return []
    discard <| passes "("
    let ps ← patterns fuel
    let body ← list fuel
    allEmptyLines
    let isPlain ← isPlain
    let next ←
      if isPlain && (← sees ";;") then
        skip 2
        pure ClauseEnd.leave
      else if ← passes ";;&" then pure ClauseEnd.testNext
      else if ← passes ";;" then pure ClauseEnd.leave
      else if ← passes ";&" then pure ClauseEnd.fallThrough
      else
        if (← upcoming) != "esac" then throw (.missing ";;" (← left))
        pure ClauseEnd.leave
    return .branch ps body next :: (← clauses fuel)
termination_by structural n => n

/-- Commands, of which there is at least one. -/
def body : Nat → Reader Script
  | 0 => unfit
  | fuel + 1 => do
    let script ← list fuel
    if script.isEmpty then
      -- that the end is missing is the matter of what is around the list in the plain language
      let misses := (← left).isEmpty && (← isPlain)
      if !misses then unfit
    return script
termination_by structural n => n

/-- What follows the condition of an `if`. -/
def branches : Nat → Reader Command
  | 0 => unfit
  | fuel + 1 => do
    let cond ← body fuel
    needKeyword "then"
    let positive ← body fuel
    if ← keyword "elif" then return .ifThen cond positive [← branches fuel]
    if ← keyword "else" then
      let negative ← body fuel
      needKeyword "fi"
      return .ifThen cond positive negative
    needKeyword "fi"
    return .ifThen cond positive []
termination_by structural n => n

/-- The body of a loop. -/
def loopBody : Nat → Reader Script
  | 0 => unfit
  | fuel + 1 => do
    needKeyword "do"
    let script ← body fuel
    needKeyword "done"
    return script
termination_by structural n => n

/-- The body of a loop behind what it goes through, set apart by a semicolon or line feeds. -/
def listLoopBody : Nat → Reader Script
  | 0 => unfit
  | fuel + 1 => do
    blanks
    if !(← passes ";") && (← peek?) != some '\n' then unfit
    allEmptyLines
    let isPlain ← isPlain
    if !isPlain then
      if ← keyword "\x7b" then
        let script ← body fuel
        needKeyword "\x7d"
        return script
    loopBody fuel
termination_by structural n => n

def forLoop : Nat → Reader Command
  | 0 => unfit
  | fuel + 1 => do
    blanks
    let line ← lineHere
    let isPlain ← isPlain
    let upcoming_ ← upcoming
    if isPlain && !isName upcoming_ then throw (.misnamed "for loop variable" (← left))
    if ← passes "((" then
      let start ← calculation fuel line 0 true
      pass ";"
      let cond ← calculation fuel line 0 true
      pass ";"
      let next ← calculation fuel line 0 true
      pass "))"
      blanks
      discard <| passes ";"
      allEmptyLines
      if ← keyword "\x7b" then
        let script ← body fuel
        needKeyword "\x7d"
        return .forArith start cond next script
      return .forArith start cond next (← loopBody fuel)
    let name ← upcoming
    if name.isEmpty then unfit
    skip name.length
    allEmptyLines
    if ← keyword "in" then
      let ws ← words fuel
      return .forIn name (some ws) (← listLoopBody fuel)
    if (← sees ";") then return .forIn name none (← listLoopBody fuel)
    return .forIn name none (← loopBody fuel)
termination_by structural n => n

def choice : Nat → Reader Command
  | 0 => unfit
  | fuel + 1 => do
    blanks
    let name ← upcoming
    if name.isEmpty then unfit
    skip name.length
    allEmptyLines
    if ← keyword "in" then
      let ws ← words fuel
      return .choose name (some ws) (← listLoopBody fuel)
    if (← sees ";") then return .choose name none (← listLoopBody fuel)
    return .choose name none (← loopBody fuel)
termination_by structural n => n

/-- The body of a function. -/
def functionBody : Nat → Reader Command
  | 0 => unfit
  | fuel + 1 => do
    allEmptyLines
    let line ← lineHere
    if ← isPlain then return ← command fuel
    match ← compound fuel with
    | some c =>
      match ← redirects fuel with
      | [] => return .located line c
      | rs => return .located line (.redirected c rs)
    | none => unfit
termination_by structural n => n

/-- A command that begins with a keyword or a parenthesis, if it is one. -/
def compound : Nat → Reader (Option Command)
  | 0 => unfit
  | fuel + 1 => do
    let line ← lineHere
    let isPlain ← isPlain
    let doubled ← sees "(("
    if doubled && !isPlain then
      match balanced line 0 none ((← left).drop 2) with
      | .error (mark, line) => unclosed mark line
      | .ok _ => pure ()
      let arith? ← (do
          pass "(("
          let expr ← calculation fuel line 0 false
          pass "))"
          return some (Command.arith expr)) <|> return none
      if arith?.isSome then return arith?
    if ← passes "(" then
      let script ← body fuel
      need ")"
      return some (.subshell script)
    let opening := (openings.lookup (← upcomingChars)).filter fun o => !isPlain || !o.isFull
    match opening with
    | some .group =>
      skip 1
      let script ← body fuel
      needKeyword "\x7d"
      return some (.group script)
    | some .condition =>
      skip 2
      some <$> branches fuel
    | some .whileLoop =>
      skip 5
      let cond ← body fuel
      return some (.whileLoop false cond (← loopBody fuel))
    | some .untilLoop =>
      skip 5
      let cond ← body fuel
      return some (.whileLoop true cond (← loopBody fuel))
    | some .forLoop =>
      skip 3
      some <$> forLoop fuel
    | some .menu =>
      skip 6
      some <$> choice fuel
    | some .choice =>
      skip 4
      blanks
      let word ← parts fuel .word isMeta
      if word.isEmpty then unfit
      allEmptyLines
      needKeyword "in"
      return some (.caseOf word (← clauses fuel))
    | some .test =>
      skip 2
      let t ← testAny fuel
      allEmptyLines
      if !(← keyword "]]") then
        let source ← left
        if source.isEmpty then throw (.condition [(line, "unexpected EOF while looking for \x60]]'")] source)
        let message := "syntax error in conditional expression"
        if (← upcoming).isEmpty then
          throw (.condition [(line, message ++ s!": unexpected token \x60{source.token}'")] source)
        throw (.condition [(line, message)] source)
      return some (.test t)
    | some .function =>
      skip 8
      blanks
      let name ← upcoming
      if name.isEmpty then unfit
      skip name.length
      blanks
      if ← passes "(" then
        blanks
        pass ")"
      return some (.function name (← functionBody fuel))
    | none => return none
termination_by structural n => n

/-- A function whose name stands before parentheses, if there is one. -/
def namedFunction : Nat → Reader (Option Command)
  | 0 => unfit
  | fuel + 1 => do
    let source ← left
    let word := source.takeWhile fun c => !isMeta c.1
    if word.isEmpty || assignmentAhead (← isPlain) source || word.any (·.1 ∈ ['$', '\x60', '\x27', '\x22', '\\']) then
      return none
    let name := Source.text word
    skip word.length
    blanks
    if !(← passes "(") then
      goOn source
      return none
    blanks
    need ")"
    let isPlain ← isPlain
    if isPlain && !isName name then throw (.misnamed "function name" source)
    return some (.function name (← functionBody fuel))
termination_by structural n => n

/-- One command with its redirections. Where these fail, the line on which it ends counts. -/
def command : Nat → Reader Command
  | 0 => unfit
  | fuel + 1 => do
    blanks
    let n := (← left).length
    modify fun r => { r with carriesOn := r.carriesOn.filter (· ≤ n) }
    replaceNames (← get).aliases.length
    let line ← lineHere
    match ← compound fuel with
    | some c =>
      match ← redirects fuel with
      | [] => return .located line c
      | rs => return .located (← lineHere) (.redirected (.located line c) rs)
    | none =>
      let next ← upcomingChars
      if closers.contains next || next == ['i', 'n'] || next == ['!'] then unfit
      match ← namedFunction fuel with
      | some c => return .located line c
      | none => simple fuel line [] [] []
termination_by structural n => n

/-- Commands joined by pipes, whose outcome may be turned round or whose time taken. -/
def pipeline : Nat → Reader Command
  | 0 => unfit
  | fuel + 1 => do
    let isPlain ← isPlain
    if ← keyword "!" then
      blanks
      if isPlain then
        if (← upcoming) == "!" then unfit
        return .not (← pipeline fuel)
      return .not (← pipelineOrNothing fuel)
    let timed ← if isPlain then pure false else keyword "time"
    if timed then
      let brief ← keyword "-p"
      let ends ← keyword "--"
      blanks
      return .timed (brief || ends) (← pipelineOrNothing fuel)
    piped fuel
termination_by structural n => n

/-- What a mark in front of a pipeline is about, which may be missing at the end of a line. -/
def pipelineOrNothing : Nat → Reader Command
  | 0 => unfit
  | fuel + 1 => do
    match ← peek? with
    | none => return .simple [] [] []
    | some '\n' => return .simple [] [] []
    | some ';' => return .simple [] [] []
    | some _ => pipeline fuel
termination_by structural n => n

/-- Commands joined by pipes. -/
def piped : Nat → Reader Command
  | 0 => unfit
  | fuel + 1 => do
    let first ← command fuel
    blanks
    let joins ← sees "|&"
    if joins && !(← isPlain) then
      skip 2
      allEmptyLines
      return .pipe (.redirected first [.mk 2 .duplicate [.text "1"]]) (← piped fuel)
    if (← sees "|") && !(← sees "||") then
      skip 1
      allEmptyLines
      return .pipe first (← piped fuel)
    return first
termination_by structural n => n

/-- Pipelines joined by what they depend on, grouped from the left. -/
def joined : Nat → Command → Reader Command
  | 0, _ => unfit
  | fuel + 1, left_ => do
    blanks
    if ← passes "&&" then
      allEmptyLines
      joined fuel (.and left_ (← pipeline fuel))
    else if ← passes "||" then
      allEmptyLines
      joined fuel (.or false left_ (← pipeline fuel))
    else return left_
termination_by structural n => n

/-- Commands up to what ends them, which is left. -/
def list : Nat → Reader Script
  | 0 => unfit
  | fuel + 1 => do
    allEmptyLines
    if ← atEnd then return []
    let first ← pipeline fuel
    let c ← joined fuel first
    blanks
    if ← atEnd then return [c]
    if (← sees "&") && !(← sees "&&") then
      skip 1
      return .background c :: (← list fuel)
    if ← passes ";" then return c :: (← list fuel)
    if ← passes "\n" then return c :: (← list fuel)
    -- what the plain language finds here is the matter of what is around the list
    if ← isPlain then return [c]
    unfit
termination_by structural n => n

end

/-- The commands of one line, up to the line feed that ends them. -/
def lineOf (fuel : Nat) : Nat → Reader Script
  | 0 => unfit
  | count + 1 => do
    blanks
    match ← peek? with
    | none => return []
    | some '\n' =>
      skip 1
      return []
    | some _ =>
      let first ← pipeline fuel
      let c ← joined fuel first
      blanks
      if (← sees "&") && !(← sees "&&") then
        skip 1
        return .background c :: (← lineOf fuel count)
      let falls ← sees ";&"
      if (← sees ";") && !(← sees ";;") && !(falls && !(← isPlain)) then
        skip 1
        return c :: (← lineOf fuel count)
      if (← left).isEmpty || (← passes "\n") then return [c]
      unfit

/-- The next line that holds commands, behind remarks on it. -/
def nextLine : Reader Script := do
  allEmptyLines
  let r ← get
  let size := r.aliases.foldl (fun n a => n + a.2.length) 1
  let n := r.source.length * size
  let script ← lineOf (30 * n + 100) (n + 1)
  let remarks := (← get).remarks
  modify fun r => { r with remarks := [] }
  return remarks.reverse.map (fun (line, message) => .located line (.remark message)) ++ script

end Reader

/-- A program as it was read: the commands of each line that holds some, and why what is behind them
cannot be read, if there is more. -/
structure Program where
  lines : List Script
  fault : Option Misread := none

namespace Program

/-- The fuel bounds the number of lines. -/
def readFrom : Nat → Reading → Program
  | 0, _ => ⟨[], none⟩
  | fuel + 1, r =>
    match Reader.nextLine.run r with
    | .error fault => ⟨[], some fault⟩
    | .ok (script, rest) =>
      if script.isEmpty && rest.source.isEmpty then ⟨[], none⟩
      else
        let more := readFrom fuel rest
        { more with lines := script :: more.lines }

/-- Reads a program; `extended` says whether patterns may hold groups everywhere. -/
def read (extended : Bool) (s : String) : Program :=
  readFrom (s.length + 2) (.ofText extended (closedText s))

/-- All commands that could be read, one after the other. -/
def script (p : Program) : Script := p.lines.flatten

end Program

/-- What is said about a text that cannot be read, with the lines on which that shows. -/
def Misread.report (text : String) : Misread → List (Nat × String)
  | unexpected rest => atToken text rest
  | missing _ rest => atToken text rest
  | misnamed _ rest => atToken text rest
  | unclosed mark line =>
    [(line, "unexpected EOF while looking for matching \x60" ++ String.singleton mark ++ "'")]
  | inArray fault => fault.report text
  | condition reasons rest =>
    reasons ++
      match rest with
      | [] => [(lineBehind text.toList, "syntax error: unexpected end of file")]
      | _ => quoting text rest ("syntax error near \x60" ++ lastWord (lineAround text rest) (placeBehind text rest) ++ "'")
where
  atToken (text : String) : Source → List (Nat × String)
    | [] => [(lineBehind text.toList, "syntax error: unexpected end of file")]
    | rest => quoting text rest (s!"syntax error near unexpected token \x60{rest.token}'")
  lineOf (rest : Source) : Nat := (rest.head?.map (·.2)).getD 1
  lineAround (text : String) (rest : Source) : String := (Text.splitAt '\n' text).getD (lineOf rest - 1) ""
  /-- A message and the line that is in the way. -/
  quoting (text : String) (rest : Source) (message : String) : List (Nat × String) :=
    [(lineOf rest, message), (lineOf rest, "\x60" ++ lineAround text rest ++ "'")]
  /-- How many characters of a line were read when the token at the front was. -/
  placeBehind (text : String) (rest : Source) : Nat :=
    let length := (lineAround text rest).length
    match rest with
    | ('\n', _) :: _ => length
    | _ => length - (rest.takeWhile fun c => c.2 == lineOf rest && c.1 != '\n').length + rest.token.length
  /-- The last word of a line up to one place behind the given one, blanks at the end left out. A mark
  in front of it that separates commands belongs to it. -/
  lastWord (line : String) (place : Nat) : String :=
    let isBlank := fun (c : Char) => c == ' ' || c == '\t' || c == '\n'
    let seen := ((line.toList ++ ['\n']).take (place + 1)).reverse.dropWhile isBlank
    let word := seen.takeWhile fun c => !isBlank c && c ∉ [';', '|', '&']
    let mark := ((seen.drop word.length).take 1).filter fun c => !isBlank c
    String.ofList (mark ++ word.reverse)

/-! What the plain shell says about a text that cannot be read. -/

/-- The marks that the plain language knows as tokens, longer ones first. -/
def plainOperators : List String := [";;", ";", "&&", "&", "||", "|", "(", ")"]

def plainKeywords : List String :=
  ["!", "case", "do", "done", "elif", "else", "esac", "fi", "for", "if", "in", "then", "until", "while", "\x7b", "\x7d"]

/-- The token at the front, as a message of the plain shell shows it. -/
def Source.plainToken (source : Source) : String :=
  match source with
  | [] => "end of file"
  | (c, _) :: _ =>
    if c == '\n' then "newline"
    else if c == '<' || c == '>' then "redirection"
    else
      match plainOperators.find? fun op => op.toList.isPrefixOf (source.map (·.1)) with
      | some op => "\x22" ++ op ++ "\x22"
      | none =>
        let word := String.ofList (wordFrom none source)
        if plainKeywords.contains word then "\x22" ++ word ++ "\x22" else "word"

/-- The message and the line on which reading stopped. -/
def Misread.plainReport (text : String) : Misread → Nat × String
  | unexpected rest => (lineAt rest, rest.plainToken ++ " unexpected")
  | missing needed rest =>
    (lineAt rest, rest.plainToken ++ " unexpected (expecting \x22" ++ needed ++ "\x22)")
  | misnamed what rest => (lineAt rest, "Bad " ++ what)
  | unclosed mark _ =>
    (lineAt [], match mark with
      | '\x60' => "EOF in backquote substitution"
      | '\x7d' => "Missing '\x7d'"
      | ')' => "Missing '))'"
      | _ => "Unterminated quoted string")
  | inArray fault => fault.plainReport text
  | condition _ rest => (lineAt rest, rest.plainToken ++ " unexpected")
where
  /-- A line feed is read before it is found to be in the way. -/
  lineAt : Source → Nat
    | [] => (text.toList.filter (· == '\n')).length + 1
    | (c, line) :: _ => if c == '\n' then line + 1 else line

end Toolwrap.Shell
