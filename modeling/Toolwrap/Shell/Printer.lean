import Toolwrap.Quoting
import Toolwrap.Shell.Command
/-!
Lines of a program that is written out. A nested line is padded by the constructs around it; a flush
line keeps its place, as the lines of a here-document do.
-/
namespace Toolwrap.Shell

inductive Line where
  | nested (s : String)
  | flush (s : String)
deriving DecidableEq, Repr

def Line.text : Line → String
  | nested s => s
  | flush s => s

/-- Two blanks in front of a nested line that is not empty. -/
def Line.indent : Line → Line
  | nested s => if s.isEmpty then nested s else nested ("  " ++ s)
  | flush s => flush s

def indent (lines : List Line) : List Line := lines.map Line.indent

def indentBy : Nat → List Line → List Line
  | 0, lines => lines
  | n + 1, lines => indent (indentBy n lines)

/-- The lines as one text, without a final line feed. -/
def joinLines (lines : List Line) : String := "\n".intercalate (lines.map Line.text)

def nestedLines (ss : List String) : List Line := ss.map .nested

namespace Layout

def block (head : String) (body : List Line) (last : String) : List Line :=
  .nested head :: indent body ++ [.nested last]

/-- A conditional; without lines to run otherwise there is no second half. -/
def ifBlock (condition : String) (body orelse : List Line) : List Line :=
  let otherwise := if orelse.isEmpty then [] else .nested "else" :: indent orelse
  .nested s!"if {condition}; then" :: indent body ++ otherwise ++ [.nested "fi"]

/-- A branch of a case, relative to the case. -/
def clause (pattern : String) (body : List Line) (last : String) : List Line :=
  indent (.nested (pattern ++ ")") :: indent body ++ [.nested ("  " ++ last)])

end Layout

/-!
Writing programs. `Script.lines` sets each command on lines of its own, nested bodies indented by
two blanks; `Script.inline` writes commands on one line, as conditions and substitutions need them.
-/

def DefaultKind.mark : DefaultKind → String
  | use => "-" | assign => "=" | alternative => "+" | require => "?"

def ClauseEnd.mark : ClauseEnd → String
  | leave => ";;" | fallThrough => ";&" | testNext => ";;&"

def RedirectKind.mark : RedirectKind → String
  | write => ">" | append => ">>" | read => "<" | duplicate => ">&" | readWrite => "<>" | force => ">|"
  | writeBoth => "&>" | appendBoth => "&>>" | hereText => "<<< " | hereExpanded => "<< "
  | hereVerbatim => "<< "

/-- The descriptor that a redirection means when none is written. -/
def RedirectKind.fd : RedirectKind → Nat
  | write => 1 | append => 1 | duplicate => 1 | force => 1 | writeBoth => 1 | appendBoth => 1
  | read => 0 | readWrite => 0 | hereText => 0 | hereExpanded => 0 | hereVerbatim => 0

def Site.mark : Site → String
  | first => "/" | everywhere => "//" | start => "/#" | finish => "/%"

/-- What stands behind the mark: the target, or the mark at the end of a here-document. -/
def RedirectKind.place (kind : RedirectKind) (target : String) : String :=
  match kind with
  | hereVerbatim => "'" ++ freeDelimiter target "END" ++ "'"
  | hereExpanded => freeDelimiter target "END"
  | _ => target

def isHere : RedirectKind → Bool
  | .hereExpanded => true
  | .hereVerbatim => true
  | _ => false

def spaced (ss : List String) : String := " ".intercalate (ss.filter fun s => !s.isEmpty)

mutual

def Part.inline : Part → String
  | .text s => s
  | .escaped c => String.ofList ['\\', c]
  | .single s => "'" ++ s ++ "'"
  | .double parts => "\"" ++ inlineParts parts ++ "\""
  | .param name index op => op.inline (name ++ inlineIndex index)
  | .output body => "$(" ++ inlineScript body ++ ")"
  | .unread text => "$(" ++ text ++ ")"
  | .process output body => (if output then "<(" else ">(") ++ inlineScript body ++ ")"
  | .arith expr => "$((" ++ inlineParts expr ++ "))"
  | .invalid text => text
  | .assign a => a.inline
  | .spliced s => s

def inlineParts : List Part → String
  | [] => ""
  | p :: rest => p.inline ++ inlineParts rest

def inlineIndex : List Part → String
  | [] => ""
  | p :: rest => "[" ++ p.inline ++ inlineParts rest ++ "]"

def Op.inline (subject : String) : Op → String
  | .plain => "$" ++ subject
  | .braced => "$\x7b" ++ subject ++ "\x7d"
  | .length => "$\x7b#" ++ subject ++ "\x7d"
  | .indirect op => op.inline ("!" ++ subject)
  | .default kind colon word =>
    "$\x7b" ++ subject ++ (if colon then ":" else "") ++ kind.mark ++ inlineParts word ++ "\x7d"
  | .trim fromEnd longest pattern =>
    let mark := if fromEnd then "%" else "#"
    "$\x7b" ++ subject ++ mark ++ (if longest then mark else "") ++ inlineParts pattern ++ "\x7d"
  | .replace site pattern word =>
    "$\x7b" ++ subject ++ site.mark ++ inlineParts pattern ++ "/" ++ inlineParts word ++ "\x7d"
  | .dropChars offset => "$\x7b" ++ subject ++ ":" ++ inlineParts offset ++ "\x7d"
  | .slice offset length =>
    "$\x7b" ++ subject ++ ":" ++ inlineParts offset ++ ":" ++ inlineParts length ++ "\x7d"
  | .casing kind everywhere pattern =>
    let mark := match kind with
      | .upper => "^"
      | .lower => ","
      | .other => "~"
    "$\x7b" ++ subject ++ mark ++ (if everywhere then mark else "") ++ inlineParts pattern ++ "\x7d"
  | .transform kind => "$\x7b" ++ subject ++ "@" ++ String.singleton kind ++ "\x7d"
  | .names joined => "$\x7b!" ++ subject ++ (if joined then "*" else "@") ++ "\x7d"

def inlineWords : List (List Part) → List String
  | [] => []
  | w :: rest => inlineParts w :: inlineWords rest

def Assign.inline : Assign → String
  | .value name index append word =>
    name ++ inlineIndex index ++ (if append then "+=" else "=") ++ inlineParts word
  | .array name append items =>
    name ++ (if append then "+=" else "=") ++ "(" ++ " ".intercalate (inlineItems items) ++ ")"

def Item.inline : Item → String
  | .plain word => inlineParts word
  | .keyed index append word => inlineIndex index ++ (if append then "+=" else "=") ++ inlineParts word

def inlineItems : List Item → List String
  | [] => []
  | item :: rest => item.inline :: inlineItems rest

def inlineAssigns : List Assign → List String
  | [] => []
  | a :: rest => a.inline :: inlineAssigns rest

/-- A redirection on the line of its command; the document of a here-document comes later. -/
def Redirect.inline : Redirect → String
  | .mk fd kind target => (if fd == kind.fd then "" else toString fd) ++ kind.mark ++ kind.place (inlineParts target)
  | .named x kind target => "\x7b" ++ x ++ "\x7d" ++ kind.mark ++ kind.place (inlineParts target)

def inlineRedirects : List Redirect → List String
  | [] => []
  | r :: rest => r.inline :: inlineRedirects rest

def Test.inline : Test → String
  | .unary op word => op ++ " " ++ inlineParts word
  | .binary left op right => inlineParts left ++ " " ++ op ++ " " ++ inlineParts right
  | .not t => "! " ++ t.inline
  | .and a b => a.inline ++ " && " ++ b.inline
  | .or a b => a.inline ++ " || " ++ b.inline

def inlineBranch : Clause → String
  | .branch patterns body next =>
    "|".intercalate (inlineWords patterns) ++ ") " ++ inlineScript body ++ " " ++ next.mark
  | .spliced s => s

def inlineClauses : List Clause → List String
  | [] => []
  | c :: rest => inlineBranch c :: inlineClauses rest

def inlineList : Option (List (List Part)) → String
  | none => ""
  | some words => " in " ++ " ".intercalate (inlineWords words)

def Command.inline : Command → String
  | .simple assigns words redirects =>
    spaced (inlineAssigns assigns ++ inlineWords words ++ inlineRedirects redirects)
  | .pipe first second => first.inline ++ " | " ++ second.inline
  | .not c => "! " ++ c.inline
  | .timed brief c => (if brief then "time -p " else "time ") ++ c.inline
  | .and a b => a.inline ++ " && " ++ b.inline
  | .or _ a b => a.inline ++ " || " ++ b.inline
  | .group body => "\x7b " ++ inlineScript body ++ "; \x7d"
  | .subshell body => "( " ++ inlineScript body ++ " )"
  | .ifThen cond body orelse =>
    let otherwise := inlineScript orelse
    "if " ++ inlineScript cond ++ "; then " ++ inlineScript body ++
      (if otherwise.isEmpty then "" else "; else " ++ otherwise) ++ "; fi"
  | .whileLoop untilTrue cond body =>
    (if untilTrue then "until " else "while ") ++ inlineScript cond ++ "; do " ++
      inlineScript body ++ "; done"
  | .forIn name words body =>
    "for " ++ name ++ inlineList words ++ "; do " ++ inlineScript body ++ "; done"
  | .choose name words body =>
    "select " ++ name ++ inlineList words ++ "; do " ++ inlineScript body ++ "; done"
  | .forArith start cond next body =>
    "for ((" ++ inlineParts start ++ "; " ++ inlineParts cond ++ "; " ++ inlineParts next ++
      ")); do " ++ inlineScript body ++ "; done"
  | .caseOf word clauses =>
    "case " ++ inlineParts word ++ " in " ++ " ".intercalate (inlineClauses clauses) ++ " esac"
  | .test t => "[[ " ++ t.inline ++ " ]]"
  | .arith expr => "((" ++ inlineParts expr ++ "))"
  | .function name body => "function " ++ name ++ " " ++ body.inline
  | .redirected c redirects => spaced (c.inline :: inlineRedirects redirects)
  | .background c => c.inline ++ " &"
  | .located _ c => c.inline
  | .comment s => "# " ++ s
  | .remark message => "# " ++ message
  | .spliced s => s

def inlineScript : List Command → String
  | [] => ""
  | [c] => c.inline
  | c :: rest => c.inline ++ "; " ++ inlineScript rest

end

/-- The lines of a document that ends with a line feed. -/
def linesOfDocument (document : String) : List Line :=
  ((Text.splitAt '\n' document).dropLast).map .flush

/-- The lines of the here-documents of a command, each with its end mark. -/
def documentLines : List Redirect → List Line
  | [] => []
  | .named _ _ _ :: rest => documentLines rest
  | .mk _ kind target :: rest =>
    if isHere kind then
      let document := inlineParts target
      linesOfDocument document ++ .flush (freeDelimiter document "END") :: documentLines rest
    else documentLines rest

/-- Puts a text after the last line. -/
def appendToLast (s : String) : List Line → List Line
  | [] => [.nested s]
  | [.nested l] => [.nested (l ++ s)]
  | [.flush l] => [.flush (l ++ s)]
  | l :: rest => l :: appendToLast s rest

/-- Puts a text before the first line. -/
def prependToFirst (s : String) : List Line → List Line
  | [] => [.nested s]
  | .nested l :: rest => .nested (s ++ l) :: rest
  | .flush l :: rest => .flush (s ++ l) :: rest

mutual

def Command.lines : Command → List Line
  | .simple assigns words redirects =>
    .nested (spaced (inlineAssigns assigns ++ inlineWords words ++ inlineRedirects redirects)) ::
      documentLines redirects
  | .or true a b => appendToLast " || \\" a.lines ++ indent b.lines
  | .or false a b => prependToFirst (a.inline ++ " || ") b.lines
  | .group body => Layout.block "\x7b" (scriptLines body) "\x7d"
  | .subshell body => Layout.block "(" (scriptLines body) ")"
  | .ifThen cond body orelse =>
    Layout.ifBlock (inlineScript cond) (scriptLines body) (scriptLines orelse)
  | .whileLoop untilTrue cond body =>
    Layout.block ((if untilTrue then "until " else "while ") ++ inlineScript cond ++ "; do")
      (scriptLines body) "done"
  | .forIn name words body =>
    Layout.block ("for " ++ name ++ inlineList words ++ "; do") (scriptLines body) "done"
  | .choose name words body =>
    Layout.block ("select " ++ name ++ inlineList words ++ "; do") (scriptLines body) "done"
  | .caseOf word clauses =>
    .nested ("case " ++ inlineParts word ++ " in") :: clausesLines clauses ++ [.nested "esac"]
  | .function name body => prependToFirst ("function " ++ name ++ " ") body.lines
  | .redirected c redirects =>
    appendToLast (" " ++ spaced (inlineRedirects redirects)) c.lines
  | .located _ c => c.lines
  | .pipe first second => [.nested (first.inline ++ " | " ++ second.inline)]
  | .not c => [.nested ("! " ++ c.inline)]
  | .timed brief c => [.nested ((if brief then "time -p " else "time ") ++ c.inline)]
  | .and a b => [.nested (a.inline ++ " && " ++ b.inline)]
  | .forArith start cond next body =>
    Layout.block ("for ((" ++ inlineParts start ++ "; " ++ inlineParts cond ++ "; " ++
      inlineParts next ++ ")); do") (scriptLines body) "done"
  | .test t => [.nested ("[[ " ++ t.inline ++ " ]]")]
  | .arith expr => [.nested ("((" ++ inlineParts expr ++ "))")]
  | .background c => appendToLast " &" c.lines
  | .remark message => [.nested ("# " ++ message)]
  | .comment s => [.nested (if s.isEmpty then "#" else "# " ++ s)]
  | .spliced s => [.nested s]

def scriptLines : List Command → List Line
  | [] => []
  | c :: rest => c.lines ++ scriptLines rest

def Clause.lines : Clause → List Line
  | .branch patterns body next =>
    Layout.clause ("|".intercalate (inlineWords patterns)) (scriptLines body) next.mark
  | .spliced s => [.flush s]

def clausesLines : List Clause → List Line
  | [] => []
  | c :: rest => c.lines ++ clausesLines rest

end

/-- The text of a program, without a final line feed. -/
def Script.render (script : Script) : String := joinLines (scriptLines script)

/-- The text of a branch where it stands in the loop of the option parser, two levels in. -/
def Clause.render (clause : Clause) : String := joinLines (indent clause.lines)

end Toolwrap.Shell
