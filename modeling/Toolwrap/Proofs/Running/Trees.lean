import Mathlib.Data.List.Forall2
import Toolwrap.Shell.Command
import Toolwrap.Shell.Reader
import Toolwrap.Shell.Session
import Toolwrap.Text.Blank
-- Trees of programs compared and moved. Trees hold lists of trees, so their equality is no
-- derived decision: a test compares them piece by piece, and carries what it has found.

namespace Toolwrap.Running

open Shell

-- A test that shows something where it comes out true. Where it fails, nothing is said.
def Sure (p : Prop) : Type := {b : Bool // b = true → p}

namespace Sure

variable {p q : Prop}

def never : Sure p := ⟨false, nofun⟩

def ask (p : Prop) [Decidable p] : Sure p := ⟨decide p, of_decide_eq_true⟩

def imp (a : Sure p) (shows : p → q) : Sure q := ⟨a.1, shows ∘ a.2⟩

def and (a : Sure p) (b : Sure q) : Sure (p ∧ q) :=
  ⟨a.1 && b.1, fun both =>
    have ⟨first, second⟩ := Bool.and_eq_true_iff.mp both
    ⟨a.2 first, b.2 second⟩⟩

end Sure

section Same

open Sure

mutual

def samePart : (a b : Part) → Sure (a = b)
  | .text a, .text b => (ask (a = b)).imp (congrArg _)
  | .escaped a, .escaped b => (ask (a = b)).imp (congrArg _)
  | .single a, .single b => (ask (a = b)).imp (congrArg _)
  | .double a, .double b => (sameParts a b).imp (congrArg _)
  | .param x i o, .param y j p =>
    ((ask (x = y)).and ((sameParts i j).and (sameOp o p))).imp (by rintro ⟨rfl, rfl, rfl⟩; rfl)
  | .output a, .output b => (sameScript a b).imp (congrArg _)
  | .arith a, .arith b => (sameParts a b).imp (congrArg _)
  | _, _ => never

def sameOp : (a b : Op) → Sure (a = b)
  | .plain, .plain => (ask True).imp fun _ => rfl
  | .braced, .braced => (ask True).imp fun _ => rfl
  | .length, .length => (ask True).imp fun _ => rfl
  | .default k c w, .default l d v =>
    ((ask (k = l ∧ c = d)).and (sameParts w v)).imp (by rintro ⟨⟨rfl, rfl⟩, rfl⟩; rfl)
  | .trim e l p, .trim f m q =>
    ((ask (e = f ∧ l = m)).and (sameParts p q)).imp (by rintro ⟨⟨rfl, rfl⟩, rfl⟩; rfl)
  | .slice a n, .slice b m => ((sameParts a b).and (sameParts n m)).imp (by rintro ⟨rfl, rfl⟩; rfl)
  | _, _ => never

def sameParts : (a b : List Part) → Sure (a = b)
  | [], [] => (ask True).imp fun _ => rfl
  | p :: ps, q :: qs => ((samePart p q).and (sameParts ps qs)).imp (by rintro ⟨rfl, rfl⟩; rfl)
  | _, _ => never

def sameWords : (a b : List (List Part)) → Sure (a = b)
  | [], [] => (ask True).imp fun _ => rfl
  | p :: ps, q :: qs => ((sameParts p q).and (sameWords ps qs)).imp (by rintro ⟨rfl, rfl⟩; rfl)
  | _, _ => never

def sameAssign : (a b : Assign) → Sure (a = b)
  | .value x i a w, .value y j b v =>
    ((ask (x = y ∧ a = b)).and ((sameParts i j).and (sameParts w v))).imp
      (by rintro ⟨⟨rfl, rfl⟩, rfl, rfl⟩; rfl)
  | .array x a is, .array y b js =>
    ((ask (x = y ∧ a = b)).and (sameItems is js)).imp (by rintro ⟨⟨rfl, rfl⟩, rfl⟩; rfl)
  | _, _ => never

def sameItem : (a b : Item) → Sure (a = b)
  | .plain w, .plain v => (sameParts w v).imp (congrArg _)
  | _, _ => never

def sameItems : (a b : List Item) → Sure (a = b)
  | [], [] => (ask True).imp fun _ => rfl
  | p :: ps, q :: qs => ((sameItem p q).and (sameItems ps qs)).imp (by rintro ⟨rfl, rfl⟩; rfl)
  | _, _ => never

def sameAssigns : (a b : List Assign) → Sure (a = b)
  | [], [] => (ask True).imp fun _ => rfl
  | p :: ps, q :: qs => ((sameAssign p q).and (sameAssigns ps qs)).imp (by rintro ⟨rfl, rfl⟩; rfl)
  | _, _ => never

def sameRedirect : (a b : Redirect) → Sure (a = b)
  | .mk n k w, .mk m l v =>
    ((ask (n = m ∧ k = l)).and (sameParts w v)).imp (by rintro ⟨⟨rfl, rfl⟩, rfl⟩; rfl)
  | _, _ => never

def sameRedirects : (a b : List Redirect) → Sure (a = b)
  | [], [] => (ask True).imp fun _ => rfl
  | p :: ps, q :: qs =>
    ((sameRedirect p q).and (sameRedirects ps qs)).imp (by rintro ⟨rfl, rfl⟩; rfl)
  | _, _ => never

def sameTest : (a b : Test) → Sure (a = b)
  | .unary o w, .unary p v => ((ask (o = p)).and (sameParts w v)).imp (by rintro ⟨rfl, rfl⟩; rfl)
  | .binary l o r, .binary k p q =>
    ((ask (o = p)).and ((sameParts l k).and (sameParts r q))).imp (by rintro ⟨rfl, rfl, rfl⟩; rfl)
  | .not a, .not b => (sameTest a b).imp (congrArg _)
  | _, _ => never

def sameClause : (a b : Clause) → Sure (a = b)
  | .branch ps a e, .branch qs b f =>
    ((ask (e = f)).and ((sameWords ps qs).and (sameScript a b))).imp
      (by rintro ⟨rfl, rfl, rfl⟩; rfl)
  | _, _ => never

def sameClauses : (a b : List Clause) → Sure (a = b)
  | [], [] => (ask True).imp fun _ => rfl
  | p :: ps, q :: qs => ((sameClause p q).and (sameClauses ps qs)).imp (by rintro ⟨rfl, rfl⟩; rfl)
  | _, _ => never

def sameCommand : (a b : Command) → Sure (a = b)
  | .simple a w r, .simple b v q =>
    ((sameAssigns a b).and ((sameWords w v).and (sameRedirects r q))).imp
      (by rintro ⟨rfl, rfl, rfl⟩; rfl)
  | .pipe a b, .pipe c d =>
    ((sameCommand a c).and (sameCommand b d)).imp (by rintro ⟨rfl, rfl⟩; rfl)
  | .not a, .not b => (sameCommand a b).imp (congrArg _)
  | .and a b, .and c d => ((sameCommand a c).and (sameCommand b d)).imp (by rintro ⟨rfl, rfl⟩; rfl)
  | .group a, .group b => (sameScript a b).imp (congrArg _)
  | .subshell a, .subshell b => (sameScript a b).imp (congrArg _)
  | .ifThen a b c, .ifThen d e f =>
    ((sameScript a d).and ((sameScript b e).and (sameScript c f))).imp
      (by rintro ⟨rfl, rfl, rfl⟩; rfl)
  | .whileLoop x a b, .whileLoop y c d =>
    ((ask (x = y)).and ((sameScript a c).and (sameScript b d))).imp
      (by rintro ⟨rfl, rfl, rfl⟩; rfl)
  | .forIn x (some ws) a, .forIn y (some vs) b =>
    ((ask (x = y)).and ((sameWords ws vs).and (sameScript a b))).imp (by rintro ⟨rfl, rfl, rfl⟩; rfl)
  | .forArith a b c d, .forArith e f g h =>
    (((sameParts a e).and (sameParts b f)).and ((sameParts c g).and (sameScript d h))).imp
      (by rintro ⟨⟨rfl, rfl⟩, rfl, rfl⟩; rfl)
  | .caseOf w cs, .caseOf v ds =>
    ((sameParts w v).and (sameClauses cs ds)).imp (by rintro ⟨rfl, rfl⟩; rfl)
  | .test a, .test b => (sameTest a b).imp (congrArg _)
  | .arith a, .arith b => (sameParts a b).imp (congrArg _)
  | .function x a, .function y b =>
    ((ask (x = y)).and (sameCommand a b)).imp (by rintro ⟨rfl, rfl⟩; rfl)
  | .located m a, .located n b =>
    ((ask (m = n)).and (sameCommand a b)).imp (by rintro ⟨rfl, rfl⟩; rfl)
  | _, _ => never

def sameScript : (a b : List Command) → Sure (a = b)
  | [], [] => (ask True).imp fun _ => rfl
  | p :: ps, q :: qs => ((sameCommand p q).and (sameScript ps qs)).imp (by rintro ⟨rfl, rfl⟩; rfl)
  | _, _ => never

end

end Same

section Moved

mutual

-- A command as it is read where more lines stand in front of its text. Commands that are
-- substituted have lines of their own.
def moved (n : Nat) : Command → Command
  | .pipe a b => .pipe (moved n a) (moved n b)
  | .not c => .not (moved n c)
  | .timed brief c => .timed brief (moved n c)
  | .and a b => .and (moved n a) (moved n b)
  | .or broken a b => .or broken (moved n a) (moved n b)
  | .group body => .group (movedScript n body)
  | .subshell body => .subshell (movedScript n body)
  | .ifThen cond body orelse =>
    .ifThen (movedScript n cond) (movedScript n body) (movedScript n orelse)
  | .whileLoop untilTrue cond body => .whileLoop untilTrue (movedScript n cond) (movedScript n body)
  | .forIn x words body => .forIn x words (movedScript n body)
  | .choose x words body => .choose x words (movedScript n body)
  | .forArith start cond next body => .forArith start cond next (movedScript n body)
  | .caseOf word clauses => .caseOf word (movedClauses n clauses)
  | .function name body => .function name (moved n body)
  | .redirected c redirects => .redirected (moved n c) redirects
  | .background c => .background (moved n c)
  | .located line c => .located (n + line) (moved n c)
  | c => c

def movedScript (n : Nat) : List Command → List Command
  | [] => []
  | c :: rest => moved n c :: movedScript n rest

def movedClauses (n : Nat) : List Clause → List Clause
  | [] => []
  | .branch patterns body next :: rest =>
    .branch patterns (movedScript n body) next :: movedClauses n rest
  | .spliced s :: rest => .spliced s :: movedClauses n rest

end

end Moved

-- Functions that programs take over from fixed texts: what is read from such a text, and
-- that its functions are in force.

section Characters

variable {s t : String} {cs ds : List Char} {ls : List String} {css : List (List Char)}

theorem append_chars (first : s.toList = cs) (second : t.toList = ds) : (s ++ t).toList = cs ++ ds := by
  rw [String.toList_append, first, second]

theorem number_chars (n : Nat) : (toString n).toList = Nat.toDigits 10 n := String.toList_ofList

theorem unlines_chars (each : List.Forall₂ (fun l cs => l.toList = cs) ls css) :
    (Text.unlines ls).toList = ['\n'].intercalate css := by
  rw [Text.unlines, String.toList_intercalate]
  congr 1
  induction each with
  | nil => rfl
  | cons one _ rest => rw [List.map_cons, one, rest]

end Characters

section Reading

variable {s : String} {cs : List Char} {tree : Script}

-- The script that is read from characters, whose last line is closed.
def scriptOf (cs : List Char) : Script :=
  let closed := cs ++ ['\n']
  (Program.readFrom (cs.length + 2)
    { source := Source.numbered 1 closed, ending := lineBehind closed }).script

def isOpen (cs : List Char) : Bool := cs.getLast?.any fun c => c != '\n' && c != '\\'

theorem closedText_open (chars : s.toList = cs) (open_ : isOpen cs = true) :
    (closedText s).toList = cs ++ ['\n'] := by
  unfold closedText
  unfold isOpen at open_
  rw [chars]
  split
  · rename_i none_
    rw [none_] at open_
    cases open_
  · rename_i feed
    rw [feed] at open_
    cases open_
  · rename_i slash
    rw [slash] at open_
    cases open_
  · rw [String.toList_append, chars]
    rfl

theorem script_read (chars : s.toList = cs) (open_ : isOpen cs = true)
    (same : (sameScript (scriptOf cs) tree).1 = true) : (Program.read false s).script = tree := by
  rw [← (sameScript _ _).2 same]
  have closed := closedText_open chars open_
  unfold Program.read Reading.ofText Source.ofText scriptOf
  rw [← String.length_toList, chars, closed]

end Reading

-- The functions that a text defines are in force, wherever in a program the text stands.
def Provides (s : Session) (text : List String) : Prop :=
  ∃ n, ∀ line name body,
    .located line (.function name body) ∈ (Program.read false (Text.unlines text)).script →
      ∃ f, s.functions.lookup name = some f ∧ f.body = moved n body

theorem provides_listed {s : Session} {text : List String} (fs : List (Nat × String × Command))
    (read : (Program.read false (Text.unlines text)).script = fs.map fun f => .located f.1 (.function f.2.1 f.2.2))
    (found : ∀ f ∈ fs, ∃ g, s.functions.lookup f.2.1 = some g ∧ g.body = moved 0 f.2.2) : Provides s text := by
  refine ⟨0, fun line name body member => ?_⟩
  rw [read] at member
  obtain ⟨f, listed, same⟩ := List.mem_map.mp member
  obtain ⟨-, same⟩ := Command.located.inj same
  obtain ⟨rfl, rfl⟩ := Command.function.inj same
  exact found f listed

end Toolwrap.Running
