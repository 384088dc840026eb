import Toolwrap.Shell.Printer
/-!
Commands as a shell shows them when it is asked for a function or for the command that is run: each
command on a line of its own, the bodies of compound commands four blanks further in.
-/
namespace Toolwrap.Shell

/-- A redirection, with a blank before its target unless that is a descriptor. -/
def Redirect.spelled : Redirect → String
  | .named x kind target => "\x7b" ++ x ++ "\x7d" ++ kind.mark ++ " " ++ inlineParts target
  | .mk fd kind target =>
    let lead := if fd == kind.fd then "" else toString fd
    match kind with
    | .duplicate => toString fd ++ (if fd == 0 then "<&" else ">&") ++ inlineParts target
    | .hereText => lead ++ kind.mark ++ inlineParts target
    | .hereExpanded => lead ++ "<<" ++ kind.place (inlineParts target)
    | .hereVerbatim => lead ++ "<<" ++ kind.place (inlineParts target)
    | _ => lead ++ kind.mark ++ " " ++ inlineParts target

def blanks (n : Nat) : String := String.ofList (List.replicate n ' ')

/-- A condition; what binds less tightly than what is around it stands between parentheses. -/
def Test.spelled : Nat → Test → String
  | _, .unary op word => op ++ " " ++ inlineParts word
  | _, .binary left op right => inlineParts left ++ " " ++ op ++ " " ++ inlineParts right
  | _, .not t => "! " ++ t.spelled 2
  | n, .and a b =>
    let text := a.spelled 1 ++ " && " ++ b.spelled 1
    if 1 < n then "( " ++ text ++ " )" else text
  | n, .or a b =>
    let text := a.spelled 0 ++ " || " ++ b.spelled 0
    if 0 < n then "( " ++ text ++ " )" else text

/-- An expression without the blanks in front. -/
def spelledExpr (expr : List Part) : String :=
  String.ofList ((inlineParts expr).toList.dropWhile fun c => c == ' ' || c == '\t' || c == '\n')

def spelledHead (keyword x : String) (words : Option (List Word)) : String :=
  keyword ++ " " ++ x ++ " in " ++ (match words with | some ws => " ".intercalate (inlineWords ws) | none => "\x22$@\x22")

/-- A body whose last command ends with a semicolon, unless that is not waited for. -/
def closedBody (text : String) : String := if text.endsWith "&" then text else text ++ ";"

mutual

/-- A command of which all lines but the first are so many blanks in. -/
def Command.spelled (n : Nat) : Command → String
  | .simple assigns words redirects =>
    spaced (inlineAssigns assigns ++ inlineWords words ++ redirects.map Redirect.spelled)
  | .pipe first second => first.spelled n ++ " | " ++ second.spelled n
  | .not c => "! " ++ c.spelled n
  | .timed brief c => (if brief then "time -p " else "time ") ++ c.spelled n
  | .and a b => a.spelled n ++ " && " ++ b.spelled n
  | .or _ a b => a.spelled n ++ " || " ++ b.spelled n
  | .group body =>
    "\x7b \n" ++ blanks (n + 4) ++ spelledScript (n + 4) body ++ "\n" ++ blanks n ++ "\x7d"
  | .subshell body => "( " ++ spelledScript n body ++ " )"
  | .ifThen cond body orelse =>
    let inner := "\n" ++ blanks (n + 4)
    "if " ++ spelledScript n cond ++ "; then" ++ inner ++ closedBody (spelledScript (n + 4) body) ++
      (if orelse.isEmpty then ""
       else "\n" ++ blanks n ++ "else" ++ inner ++ closedBody (spelledScript (n + 4) orelse)) ++
      "\n" ++ blanks n ++ "fi"
  | .whileLoop untilTrue cond body =>
    (if untilTrue then "until " else "while ") ++ spelledScript n cond ++ "; do\n" ++ blanks (n + 4) ++
      closedBody (spelledScript (n + 4) body) ++ "\n" ++ blanks n ++ "done"
  | .choose x words body => spelledHead "select" x words ++ "\n" ++ spelledLoop n (spelledScript (n + 4) body)
  | .forIn x words body => spelledHead "for" x words ++ ";\n" ++ spelledLoop n (spelledScript (n + 4) body)
  | .forArith start cond next body =>
    "for ((" ++ spelledExpr start ++ "; " ++ spelledExpr cond ++ "; " ++ spelledExpr next ++ "))\n" ++
      spelledLoop n (spelledScript (n + 4) body)
  | .caseOf word clauses =>
    "case " ++ inlineParts word ++ " in " ++ spelledClauses n clauses ++ "\n" ++ blanks n ++ "esac"
  | .test t => "[[ " ++ t.spelled 0 ++ " ]]"
  | .arith expr => "((" ++ inlineParts expr ++ "))"
  | .function name body => "function " ++ name ++ " () \n" ++ blanks n ++ spelledBody n body
  | .redirected c redirects => spaced (c.spelled n :: redirects.map Redirect.spelled)
  | .background c => c.spelled n ++ " &"
  | .located _ c => c.spelled n
  | .comment _ => ""
  | .remark _ => ""
  | .spliced s => s

/-- The body of a function, which is a group in any case. -/
def spelledBody (n : Nat) : Command → String
  | .located _ c => spelledBody n c
  | .group body =>
    "\x7b \n" ++ blanks (n + 4) ++ spelledScript (n + 4) body ++ "\n" ++ blanks n ++ "\x7d"
  | .redirected c redirects => spaced (spelledBody n c :: redirects.map Redirect.spelled)
  | c => "\x7b \n" ++ blanks (n + 4) ++ c.spelled (n + 4) ++ "\n" ++ blanks n ++ "\x7d"

def spelledScript (n : Nat) : List Command → String
  | [] => ""
  | [c] => c.spelled n
  | c :: rest =>
    let text := c.spelled n
    text ++ (if text.endsWith " &" then " " else ";\n" ++ blanks n) ++ spelledScript n rest

def spelledLoop (n : Nat) (body : String) : String :=
  blanks n ++ "do\n" ++ blanks (n + 4) ++ closedBody body ++ "\n" ++ blanks n ++ "done"

def spelledClauses (n : Nat) : List Clause → String
  | [] => ""
  | .branch patterns body next :: rest =>
    "\n" ++ blanks (n + 4) ++ " | ".intercalate (inlineWords patterns) ++ ")\n" ++
      (if body.isEmpty then "" else blanks (n + 8) ++ spelledScript (n + 8) body) ++ "\n" ++ blanks (n + 4) ++
      next.mark ++ spelledClauses n rest
  | .spliced s :: rest => s ++ spelledClauses n rest

end

/-- The text of a function. -/
def spelledFunction (name : String) (body : Command) : String := name ++ " () \n" ++ spelledBody 0 body ++ "\n"

/-- Whether a command holds a here-document. -/
def hasDocument (redirects : List Redirect) : Bool :=
  redirects.any fun r => match r with
    | .mk _ kind _ => isHere kind
    | .named _ kind _ => isHere kind

mutual

/-- The text of a task in the list of a shell, where groups stand on one line. -/
def Command.jobText : Command → String
  | .located _ c => c.jobText
  | .group body => "\x7b " ++ closedBody (jobTexts body) ++ " \x7d"
  | .subshell body => "( " ++ jobTexts body ++ " )"
  | .redirected c redirects => spaced (c.jobText :: redirects.map Redirect.spelled)
  | .pipe a b => a.jobText ++ " | " ++ b.jobText
  | .and a b => a.jobText ++ " && " ++ b.jobText
  | .or _ a b => a.jobText ++ " || " ++ b.jobText
  | .background c => c.jobText ++ " &"
  | c => c.spelled 0

def jobTexts : List Command → String
  | [] => ""
  | [c] => c.jobText
  | c :: rest =>
    let text := c.jobText
    text ++ (if text.endsWith " &" then " " else "; ") ++ jobTexts rest

end

/-- What a shell says that it runs. -/
def Command.current : Command → String
  | .forIn x words _ => spelledHead "for" x words
  | .choose x words _ => spelledHead "select" x words
  | .caseOf word _ => "case " ++ inlineParts word ++ " in "
  | c => c.jobText

end Toolwrap.Shell
