import Toolwrap.Shell.Command
/-!
Lines of substituted commands. The commands whose output stands for text have lines of their own: the
lines on which they stand when they are written out again, counted from zero. In a running program the
line of the command around them is added.
-/
namespace Toolwrap.Shell

def lineFeeds (s : String) : Nat := (s.toList.filter (· == '\n')).length

mutual

/-- How many line feeds the words of a command hold. -/
def Part.lineFeeds : Part → Nat
  | .text s => Shell.lineFeeds s
  | .single s => Shell.lineFeeds s
  | .double parts => partsLineFeeds parts
  | _ => 0

def partsLineFeeds : List Part → Nat
  | [] => 0
  | p :: rest => p.lineFeeds + partsLineFeeds rest

end

/-- The line on which a command begins in the text that it was read from. -/
def Command.line? : Command → Option Nat
  | .located line _ => some line
  | .pipe a _ => a.line?
  | .not c => c.line?
  | .timed _ c => c.line?
  | .and a _ => a.line?
  | .or _ a _ => a.line?
  | .background c => c.line?
  | .redirected c _ => c.line?
  | _ => none

/-- Whether the second command stands on a line of its own behind the first. -/
def Command.isApart (a b : Command) : Bool :=
  match a.line?, b.line? with
  | some m, some n => m < n
  | _, _ => false

mutual

/-- A command that begins on a line, with all that it holds, and the line on which it ends. In the body
of a function every command has a line of its own. -/
def Command.numbered (inFunction : Bool) (n : Nat) : Command → Command × Nat
  | .simple assigns words redirects =>
    (.simple assigns words redirects, (words.map partsLineFeeds).foldl (· + ·) n)
  | .pipe a b =>
    let (a, n) := a.numbered inFunction n
    let (b, n) := b.numbered inFunction n
    (.pipe a b, n)
  | .not c =>
    let (c, n) := c.numbered inFunction n
    (.not c, n)
  | .timed brief c =>
    let (c, n) := c.numbered inFunction n
    (.timed brief c, n)
  | .and a b =>
    let (a, n) := a.numbered inFunction n
    let (b, n) := b.numbered inFunction n
    (.and a b, n)
  | .or broken a b =>
    let (a, n) := a.numbered inFunction n
    let (b, n) := b.numbered inFunction n
    (.or broken a b, n)
  | .group body =>
    let (body, m) := scriptNumbered inFunction (if inFunction then n + 1 else n) body
    (.group body, if inFunction then m + 1 else m)
  | .subshell body =>
    let (body, n) := scriptNumbered inFunction n body
    (.subshell body, n)
  | .ifThen cond body orelse =>
    let (cond, n) := scriptNumbered inFunction n cond
    let (body, n) := scriptNumbered inFunction (n + 1) body
    if orelse.isEmpty then (.ifThen cond body orelse, n + 1)
    else
      let (orelse, n) := scriptNumbered inFunction (n + 2) orelse
      (.ifThen cond body orelse, n + 1)
  | .whileLoop untilTrue cond body =>
    let (cond, n) := scriptNumbered inFunction n cond
    let (body, n) := scriptNumbered inFunction (n + 1) body
    (.whileLoop untilTrue cond body, n + 1)
  | .forIn name words body =>
    let (body, n) := scriptNumbered inFunction (n + 2) body
    (.forIn name words body, n + 1)
  | .choose name words body =>
    let (body, n) := scriptNumbered inFunction (n + 2) body
    (.choose name words body, n + 1)
  | .forArith start cond next body =>
    let (body, n) := scriptNumbered inFunction (n + 2) body
    (.forArith start cond next body, n + 1)
  | .caseOf word clauses =>
    let (clauses, n) := clausesNumbered inFunction n clauses
    (.caseOf word clauses, n + 1)
  | .function name body =>
    let (body, n) := body.numbered true (n + 1)
    (.function name body, n)
  | .redirected c redirects =>
    let (c, n) := c.numbered inFunction n
    (.redirected c redirects, n)
  | .background c =>
    let (c, n) := c.numbered inFunction n
    (.background c, n)
  | .located _ c =>
    let (c, m) := c.numbered inFunction n
    (.located n c, m)
  | c => (c, n)

def scriptNumbered (inFunction : Bool) (n : Nat) : List Command → List Command × Nat
  | [] => ([], n)
  | c :: rest =>
    let (numbered, m) := c.numbered inFunction n
    let next :=
      match rest with
      | d :: _ => if inFunction || c.isApart d then m + 1 else m
      | [] => m
    let (rest, n) := scriptNumbered inFunction next rest
    (numbered :: rest, n)

def clausesNumbered (inFunction : Bool) (n : Nat) : List Clause → List Clause × Nat
  | [] => ([], n)
  | .branch patterns body next :: rest =>
    let (body, m) := scriptNumbered inFunction (n + 2) body
    let (rest, n) := clausesNumbered inFunction (m + 1) rest
    (.branch patterns body next :: rest, n)
  | .spliced s :: rest =>
    let (rest, n) := clausesNumbered inFunction n rest
    (.spliced s :: rest, n)

end

/-- The commands of a substitution with the lines that they have when they are written out. -/
def Script.numbered (script : Script) : Script := (scriptNumbered false 0 script).1

end Toolwrap.Shell
