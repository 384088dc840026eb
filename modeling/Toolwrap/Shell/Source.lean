import Toolwrap.Shell.Command
import Toolwrap.Shell.Escape
/-!
The text of a program while it is read: the characters that are left with the lines they stand on, the
mode that says which quotes count, and what is read without regard to the grammar of commands. The body
of a here-document is taken out of what is left as soon as its mark is met. A text that cannot be read
is a `Misread`, which says what is in the way.
-/
namespace Toolwrap.Shell

/-- The text of a file as a shell reads it: bytes that end texts are passed over. -/
def readable (text : String) : String := String.ofList (text.toList.filter (· != '\x00'))

/-- What is left to be read: characters and the lines they stand on. -/
abbrev Source := List (Char × Nat)

namespace Source

def numbered (line : Nat) : List Char → Source
  | [] => []
  | c :: rest => (c, line) :: numbered (if c == '\n' then line + 1 else line) rest

def ofText (s : String) : Source := numbered 1 s.toList

def text (source : Source) : String := String.ofList (source.map (·.1))

/-- Marks that are tokens of their own, longer ones before their beginnings. -/
def operators : List String :=
  [";;&", ";;", ";&", ";", "&&", "&>>", "&>", "&", "||", "|&", "|", "<<<", "<<-", "<<", "<&", "<>", "<",
   ">>", ">&", ">|", ">", "(", ")"]

/-- The characters up to the end of a word, quoted ones included. `quote` is the quote that is open. -/
def wordFrom (quote : Option Char) : Source → List Char
  | [] => []
  | ('\\', _) :: (c, _) :: rest =>
    if quote == some '\x27' then '\\' :: wordFrom quote ((c, 0) :: rest) else '\\' :: c :: wordFrom quote rest
  | (c, _) :: rest =>
    match quote with
    | some q => c :: wordFrom (if c == q then none else quote) rest
    | none =>
      if c ∈ [' ', '\t', '\n', ';', '&', '|', '<', '>', '(', ')'] then []
      else c :: wordFrom (if c == '\x27' || c == '\x22' || c == '\x60' then some c else none) rest
termination_by s => s.length

/-- The token at the front, as a message shows it. -/
def token (source : Source) : String :=
  match source with
  | [] => "EOF"
  | ('\n', _) :: _ => "newline"
  | _ =>
    match operators.find? fun op => op.toList.isPrefixOf (source.map (·.1)) with
    | some op => op
    | none => String.ofList (wordFrom none source)

end Source

/-- Why a text is no program. -/
inductive Misread where
  /-- what is left begins with a token that has no place here; if nothing is left, the end has none -/
  | unexpected (rest : Source)
  /-- the same where only one word or mark would have done -/
  | missing (needed : String) (rest : Source)
  /-- what is left begins with a word that cannot be the name of something -/
  | misnamed (what : String) (rest : Source)
  /-- a quote or bracket that is not closed, and the line on which that shows -/
  | unclosed (mark : Char) (line : Nat)
  /-- the same between the parentheses of an array, which does not keep what follows from being read -/
  | inArray (fault : Misread)
  /-- a condition that is not one, because of the token that what is left begins with; reasons with their lines -/
  | condition (reasons : List (Nat × String)) (rest : Source)
deriving Repr

/-- A text that is being read. -/
structure Reading where
  source : Source
  /-- the line behind the last one -/
  ending : Nat
  /-- whether patterns may hold groups everywhere -/
  extended : Bool := false
  /-- whether the text is one of the plain language -/
  plain : Bool := false
  /-- the number of lines in front of the text -/
  base : Nat := 0
  /-- other names for what commands begin with -/
  aliases : List (String × String) := []
  /-- the names that were replaced, each with how much was left behind it -/
  replaced : List (String × Nat) := []
  /-- how much was left behind a name that lets the next word be replaced too -/
  carriesOn : Option Nat := none
  /-- remarks on what was read, with their lines, last one first -/
  remarks : List (Nat × String) := []
deriving Repr

/-- The line behind the last one of a text, whose last line need not be closed. -/
def lineBehind (s : List Char) : Nat :=
  (s.filter (· == '\n')).length + (if s.getLast?.all (· == '\n') then 1 else 2)

def Reading.ofText (extended : Bool) (s : String) : Reading :=
  { source := Source.ofText s, ending := lineBehind s.toList, extended }

/-- A text with its last line closed. A backslash at the end of a text stays one. -/
def closedText (s : String) : String :=
  match s.toList.getLast? with
  | none => s
  | some '\n' => s
  | some '\\' => s
  | some _ => s ++ "\n"

/-- Which quotes count, and what a backslash takes out of its meaning. -/
structure Mode where
  single : Bool
  double : Bool
  escapes : Char → Bool

namespace Mode

/-- Words outside of quotes. -/
def word : Mode := ⟨true, true, fun _ => true⟩

/-- Between double quotes. -/
def quoted : Mode := ⟨false, false, fun c => c ∈ ['$', '\x60', '\x22', '\\']⟩

/-- A here-document. -/
def document : Mode := ⟨false, false, fun c => c ∈ ['$', '\x60', '\\']⟩

/-- The word of an expansion that stands between double quotes itself. -/
def operand : Mode := ⟨false, true, fun c => c ∈ ['$', '\x60', '\x22', '\\', '\x7d']⟩

/-- The mode of a word in an expansion. -/
def inner (m : Mode) : Mode := if m.single then word else operand

/-- Whether a character begins something other than text. -/
def isSpecial (m : Mode) (c : Char) : Bool :=
  c == '\\' || c == '$' || c == '\x60' || (c == '\x27' && m.single) || (c == '\x22' && m.double)

end Mode

abbrev Reader := StateT Reading (Except Misread)

namespace Reader

def isBlank (c : Char) : Bool := c == ' ' || c == '\t'

/-- Characters that end a word. -/
def isMeta (c : Char) : Bool := c ∈ [' ', '\t', '\n', ';', '&', '|', '<', '>', '(', ')']

/-- Parameters whose name is a single mark. -/
def isMark (c : Char) : Bool := c ∈ ['@', '*', '#', '?', '$', '!', '-']

/-- What is left. -/
def left : Reader Source := return (← get).source

/-- Goes on with another text. -/
def goOn (source : Source) : Reader Unit := modify fun r => { r with source }

/-- Whether the text is one of the plain language. -/
def isPlain : Reader Bool := return (← get).plain

def peek? : Reader (Option Char) := return (← left).head?.map (·.1)

def skip (n : Nat) : Reader Unit := modify fun r => { r with source := r.source.drop n }

/-- What comes next has no place here. -/
def unfit {α : Type} : Reader α := do throw (.unexpected (← left))

/-- Whether characters come next. -/
def seesChars (cs : List Char) : Reader Bool :=
  return (((← left).take cs.length).map (·.1)) == cs

/-- Passes characters if they come next. -/
def passesChars (cs : List Char) : Reader Bool := do
  let found ← seesChars cs
  if found then skip cs.length
  return found

/-- Whether a text comes next. -/
def sees (s : String) : Reader Bool := seesChars s.toList

/-- Passes a text if it comes next. -/
def passes (s : String) : Reader Bool := passesChars s.toList

/-- Passes a text that has to come next. -/
def pass (s : String) : Reader Unit := do
  if !(← passes s) then unfit

/-- The same where nothing else would do. -/
def need (s : String) : Reader Unit := do
  if !(← passes s) then throw (.missing s (← left))

def takeWhile (p : Char → Bool) : Reader String := do
  let source ← left
  let run := source.takeWhile fun c => p c.1
  goOn (source.drop run.length)
  return Source.text run

def lineHere : Reader Nat := do
  let r ← get
  return (r.source.head?.map (·.2)).getD (r.ending - 1)

/-- The line of what comes next, or the one behind the last one. -/
def lineBehindText : Reader Nat := do
  let r ← get
  return (r.source.head?.map (·.2)).getD r.ending

/-- A quote or bracket is not closed that was opened on a line. -/
def unclosed {α : Type} (mark : Char) (line : Nat) : Reader α := throw (.unclosed mark line)

/-- The same for one that is missed where the text ends. -/
def unclosedAtEnd {α : Type} (mark : Char) : Reader α := do throw (.unclosed mark (← get).ending)

/-- Blanks, and line feeds behind a backslash. -/
def dropBlanks : Source → Source
  | (c, n) :: rest =>
    if isBlank c then dropBlanks rest
    else
      match c, rest with
      | '\\', ('\n', _) :: after => dropBlanks after
      | _, _ => (c, n) :: rest
  | [] => []

/-- Passes blanks and a comment. -/
def blanks : Reader Unit := do
  goOn (dropBlanks (← left))
  if (← peek?) == some '#' then discard <| takeWhile (· != '\n')

/-- Passes empty lines too. The fuel bounds their number. -/
def emptyLines : Nat → Reader Unit
  | 0 => blanks
  | fuel + 1 => do
    blanks
    if ← passes "\n" then emptyLines fuel

def allEmptyLines : Reader Unit := do emptyLines (← left).length

/-- The characters at the front up to the end of a word, if none of them is quoted. -/
def upcomingChars : Reader (List Char) :=
  return ((← left).takeWhile fun c => !isMeta c.1).map (·.1)

/-- The same as a text. -/
def upcoming : Reader String := String.ofList <$> upcomingChars

/-- Passes the characters of a keyword if it comes next. -/
def keywordChars (cs : List Char) : Reader Bool := do
  blanks
  if (← upcomingChars) == cs then
    skip cs.length
    return true
  return false

/-- Passes a keyword if it comes next. -/
def keyword (s : String) : Reader Bool := keywordChars s.toList

def needKeyword (s : String) : Reader Unit := do
  if !(← keyword s) then throw (.missing s (← left))

/-- What is left behind the quote that ends a text with escapes. -/
def ansiRest : Source → Option Source
  | ('\\', _) :: _ :: rest => ansiRest rest
  | ('\x27', _) :: rest => some rest
  | _ :: rest => ansiRest rest
  | [] => none

/-- A text with escapes, from behind its first quote. -/
def ansi : Reader Part := do
  let source ← left
  let line ← lineHere
  match ansiRest source with
  | some rest =>
    goOn rest
    return .single (String.ofList (Escape.ansi ((source.take (source.length - rest.length - 1)).map (·.1))))
  | none => unclosed '\x27' line

/-- Text up to a backquote, with the backslashes that backquotes need taken out, and what follows. -/
def backquoted : Source → Option (Source × Source)
  | ('\\', n) :: (c, m) :: rest => do
    let (body, after) ← backquoted rest
    if c ∈ ['\x60', '\\', '$'] then return ((c, m) :: body, after)
    else return (('\\', n) :: (c, m) :: body, after)
  | ('\x60', _) :: rest => some ([], rest)
  | c :: rest => do
    let (body, after) ← backquoted rest
    return (c :: body, after)
  | [] => none

/-- The name of a parameter between braces. -/
def parameter : Reader String := do
  match ← peek? with
  | some c =>
    if isNameStart c then takeWhile isNameChar
    else if c.isDigit then takeWhile Char.isDigit
    else if isMark c then
      skip 1
      return String.singleton c
    else unfit
  | none => unfit

/-- What stands between braces, from behind the first one, and what follows. Quotes and braces inside
come in pairs. -/
def braced (depth : Nat) (quote : Option Char) : Source → Option (List Char × Source)
  | [] => none
  | ('\\', _) :: (c, _) :: rest =>
    (braced depth quote rest).map fun (inner, after) => ('\\' :: c :: inner, after)
  | (c, _) :: rest =>
    match quote with
    | some q =>
      (braced depth (if c == q then none else quote) rest).map fun (inner, after) => (c :: inner, after)
    | none =>
      if c == '\x7d' then
        match depth with
        | 0 => some ([], rest)
        | depth + 1 => (braced depth none rest).map fun (inner, after) => (c :: inner, after)
      else
        let quote := if c == '\x27' || c == '\x22' then some c else none
        (braced (if c == '\x7b' then depth + 1 else depth) quote rest).map fun (inner, after) =>
          (c :: inner, after)

/-- What stands between parentheses, from behind the first one, and what follows; or the mark that is
not closed, with its line. Outside of quotes parentheses inside come in pairs. `line` is where the first
one stands. -/
def balanced (line depth : Nat) (quote : Option (Char × Nat)) :
    Source → Except (Char × Nat) (Source × Source)
  | [] => .error (quote.getD (')', line))
  | (c, n) :: rest =>
    match quote with
    | some (q, _) =>
      if c == '\\' && q != '\x27' then
        match rest with
        | d :: rest => (balanced line depth quote rest).map fun (inner, after) => ((c, n) :: d :: inner, after)
        | [] => .error (quote.getD (')', line))
      else
        (balanced line depth (if c == q then none else quote) rest).map fun (inner, after) =>
          ((c, n) :: inner, after)
    | none =>
      if c == '\\' then
        match rest with
        | d :: rest => (balanced line depth none rest).map fun (inner, after) => ((c, n) :: d :: inner, after)
        | [] => .error (')', line)
      else if c == ')' && depth == 0 then .ok ([], rest)
      else
        let depth := if c == '(' then depth + 1 else if c == ')' then depth - 1 else depth
        let quote := if c == '\x27' || c == '\x22' || c == '\x60' then some (c, n) else none
        (balanced line depth quote rest).map fun (inner, after) => ((c, n) :: inner, after)

/-- The lines of a here-document up to its mark, what follows, and whether the mark was there. With
`tabs`, tabs at the front of a line mean nothing. -/
def documentBody (tabs : Bool) (mark : String) : Nat → Source → Source × Source × Bool
  | 0, source => (source, [], false)
  | fuel + 1, source =>
    let line := source.takeWhile fun c => c.1 != '\n'
    let rest := source.drop line.length
    let shown := if tabs then line.dropWhile fun c => c.1 == '\t' else line
    if Source.text shown == mark then ([], rest.drop 1, true)
    else if rest.isEmpty then (shown, [], false)
    else
      let (body, after, closed) := documentBody tabs mark fuel (rest.drop 1)
      (shown ++ rest.take 1 ++ body, after, closed)

/-- Takes the body of a here-document out of what is left, from behind the current line. One that ends
with the text is remarked upon. -/
def takeDocument (tabs : Bool) (mark : String) : Reader Source := do
  let here := (← lineHere) + (← get).base
  let source ← left
  let line := source.takeWhile fun c => c.1 != '\n'
  let rest := source.drop line.length
  let (body, after, closed) := documentBody tabs mark rest.length (rest.drop 1)
  goOn (line ++ rest.take 1 ++ after)
  if !closed && !(← isPlain) then
    let message := s!"warning: here-document at line {here} delimited by end-of-file (wanted \x60{mark}')"
    modify fun r => { r with remarks := (r.ending - 1, message) :: r.remarks }
  return body

/-- Replaces a name that a command begins with by what it stands for, again and again. A name is not
replaced in what stands for it. -/
def replaceNames : Nat → Reader Unit
  | 0 => return ()
  | fuel + 1 => do
    if (← get).aliases.isEmpty then return ()
    blanks
    let r ← get
    let name ← upcoming
    match r.aliases.lookup name with
    | none => return ()
    | some value =>
      let size := r.source.length
      if r.replaced.any fun (x, behind) => x == name && behind < size then return ()
      let line ← lineHere
      let rest := r.source.drop name.length
      set { r with
        source := value.toList.map (fun c => (c, line)) ++ rest
        replaced := (name, rest.length) :: r.replaced
        carriesOn := if value.toList.getLast?.any isBlank then some rest.length else r.carriesOn }
      replaceNames fuel

/-- Replaces the next word if the name before it lets that be done. -/
def replaceNext : Reader Unit := do
  let r ← get
  match r.carriesOn with
  | none => return ()
  | some behind =>
    if r.source.length ≤ behind then
      set { r with carriesOn := none }
      replaceNames r.aliases.length

/-- The characters of a mark, and whether one of them is quoted. -/
def markOf (word : Word) : String × Bool :=
  word.foldl (fun (mark, quoted) p =>
    match p with
    | .text s => (mark ++ s, quoted)
    | .escaped c => (mark ++ String.singleton c, true)
    | .single s => (mark ++ s, true)
    | .double [.text s] => (mark ++ s, true)
    | _ => (mark, true)) ("", false)

end Reader

end Toolwrap.Shell
