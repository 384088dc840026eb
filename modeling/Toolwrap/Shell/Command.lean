/-!
Programs of the shell language, as trees. A word is a list of parts, and a part keeps the way it was
quoted, so that a tree can be written out (`Toolwrap.Shell.Printer`), read back
(`Toolwrap.Shell.Reader`) and run (`Toolwrap.Shell.Run`). The trees cover the language of the
generated wrappers and of plain scripts around them.
-/
namespace Toolwrap.Shell

def isNameStart (c : Char) : Bool := c.isAlpha || c == '_'

def isNameChar (c : Char) : Bool := c.isAlphanum || c == '_'

/-- What can begin a name is no digit. -/
theorem isDigit_of_isNameStart {c : Char} (begins : isNameStart c = true) : c.isDigit = false := by
  rw [isNameStart, Bool.or_eq_true, beq_iff_eq] at begins
  rcases begins with letter | rfl
  · have beyond : 57 < c.toNat := by
      change (decide (65 ≤ c.val ∧ c.val ≤ 90) || (decide (97 ≤ c.val) && decide (c.val ≤ 122))) = true
        at letter
      simp only [Bool.or_eq_true, Bool.and_eq_true, decide_eq_true_eq, UInt32.le_iff_toNat_le] at letter
      change 57 < c.val.toNat
      change (65 ≤ c.val.toNat ∧ _) ∨ (97 ≤ c.val.toNat ∧ _) at letter
      omega
    rw [← Bool.not_eq_true, Char.isDigit_iff_toNat]
    exact fun range => Nat.not_lt_of_le range.2 beyond
  · decide

def isName (x : String) : Bool :=
  match x.toList with
  | c :: cs => isNameStart c && cs.all isNameChar
  | [] => false

/-- What becomes of a letter: a capital, none, or what it is not. -/
inductive LetterCase where
  | upper | lower | other
deriving DecidableEq, Repr

/-- What a default in a parameter expansion does. -/
inductive DefaultKind where
  /-- stands in for a missing value -/
  | use
  /-- is also assigned -/
  | assign
  /-- stands in for a value that is there -/
  | alternative
  /-- is the message of a failure -/
  | require
deriving DecidableEq, Repr

inductive RedirectKind where
  /-- `>`, which empties the file -/
  | write
  /-- `>>`, which adds to it -/
  | append
  /-- `<` -/
  | read
  /-- `>&` and `<&`, to another descriptor -/
  | duplicate
  /-- `<>` -/
  | readWrite
  /-- `>|`, which empties a file that is protected, too -/
  | force
  /-- `&>`, both outputs -/
  | writeBoth
  /-- `&>>` -/
  | appendBoth
  /-- `<<<`, a text and a line feed -/
  | hereText
  /-- `<<` with an unquoted mark, so that the document is expanded -/
  | hereExpanded
  /-- `<<` with a quoted mark, so that the document stands for itself -/
  | hereVerbatim
deriving DecidableEq, Repr

/-- Where a pattern that is replaced has to stand. -/
inductive Site where
  | first | everywhere | start | finish
deriving DecidableEq, Repr

/-- Where the branch of a case goes on when it is done. -/
inductive ClauseEnd where
  | leave | fallThrough | testNext
deriving DecidableEq, Repr

mutual

/-- A piece of a word. -/
inductive Part where
  /-- characters without quotes -/
  | text (s : String)
  /-- one character after a backslash -/
  | escaped (c : Char)
  /-- characters between single quotes -/
  | single (s : String)
  | double (parts : List Part)
  /-- a parameter, perhaps with a subscript -/
  | param (name : String) (index : List Part) (op : Op)
  /-- the output of commands -/
  | output (body : List Command)
  /-- the output of commands whose text cannot be read -/
  | unread (text : String)
  /-- the name of a file that holds the output of commands, or that is their input -/
  | process (output : Bool) (body : List Command)
  /-- the value of an arithmetic expression -/
  | arith (expr : List Part)
  /-- an expansion that has no meaning -/
  | invalid (text : String)
  /-- an assignment among the words of a command -/
  | assign (a : Assign)
  /-- text that is spliced in as it stands -/
  | spliced (s : String)

/-- What is done to the value of a parameter. -/
inductive Op where
  /-- `$x` -/
  | plain
  /-- `${x}` -/
  | braced
  /-- `${#x}` -/
  | length
  /-- `${!x}`: the parameter that the value names -/
  | indirect (op : Op)
  /-- `${x-w}` and its kin; with a colon an empty value counts as missing -/
  | default (kind : DefaultKind) (colon : Bool) (word : List Part)
  /-- `${x#p}`, `${x##p}`, `${x%p}`, `${x%%p}` -/
  | trim (fromEnd longest : Bool) (pattern : List Part)
  /-- `${x/p/w}`, `${x//p/w}`, `${x/#p/w}`, `${x/%p/w}` -/
  | replace (site : Site) (pattern word : List Part)
  /-- `${x:o}` -/
  | dropChars (offset : List Part)
  /-- `${x:o:n}` -/
  | slice (offset length : List Part)
  /-- `${x^p}`, `${x^^p}`, `${x,p}`, `${x,,p}`, `${x~p}`, `${x~~p}` -/
  | casing (kind : LetterCase) (everywhere : Bool) (pattern : List Part)
  /-- `${x@Q}` and its kin -/
  | transform (kind : Char)
  /-- `${!x*}` and `${!x@}`: the names that begin like this -/
  | names (joined : Bool)

/-- An assignment before or without a command. -/
inductive Assign where
  | value (name : String) (index : List Part) (append : Bool) (word : List Part)
  | array (name : String) (append : Bool) (items : List Item)

/-- An item of an array, perhaps with its index. -/
inductive Item where
  | plain (word : List Part)
  | keyed (index : List Part) (append : Bool) (word : List Part)

/-- A redirection of a descriptor. The target of a here-document is the document, with the line feed at
its end. -/
inductive Redirect where
  | mk (fd : Nat) (kind : RedirectKind) (target : List Part)
  /-- of a descriptor whose number is given to a variable -/
  | named (x : String) (kind : RedirectKind) (target : List Part)

/-- A condition between double brackets. -/
inductive Test where
  | unary (op : String) (word : List Part)
  | binary (left : List Part) (op : String) (right : List Part)
  | not (t : Test)
  | and (a b : Test)
  | or (a b : Test)

/-- A branch of a case. -/
inductive Clause where
  | branch (patterns : List (List Part)) (body : List Command) (next : ClauseEnd)
  /-- branches that are spliced in as they stand -/
  | spliced (s : String)

inductive Command where
  | simple (assigns : List Assign) (words : List (List Part)) (redirects : List Redirect)
  | pipe (first second : Command)
  | not (c : Command)
  /-- a command whose time is shown, in few words or more -/
  | timed (brief : Bool) (c : Command)
  | and (a b : Command)
  /-- with `broken`, the second command is written on a line of its own -/
  | or (broken : Bool) (a b : Command)
  | group (body : List Command)
  | subshell (body : List Command)
  | ifThen (cond body orelse : List Command)
  | whileLoop (untilTrue : Bool) (cond body : List Command)
  /-- over the words, or over the arguments if there are none to list -/
  | forIn (name : String) (words : Option (List (List Part))) (body : List Command)
  /-- a menu of the words, of which one is chosen again and again -/
  | choose (name : String) (words : Option (List (List Part))) (body : List Command)
  | forArith (start cond next : List Part) (body : List Command)
  | caseOf (word : List Part) (clauses : List Clause)
  | test (t : Test)
  | arith (expr : List Part)
  | function (name : String) (body : Command)
  | redirected (c : Command) (redirects : List Redirect)
  /-- a command that is not waited for -/
  | background (c : Command)
  /-- a command and the line of the program on which it begins -/
  | located (line : Nat) (c : Command)
  | comment (s : String)
  /-- a remark about how the program is written -/
  | remark (message : String)
  /-- a line that is spliced in as it stands -/
  | spliced (s : String)

end

abbrev Word := List Part

abbrev Script := List Command

instance : Inhabited Part := ⟨.text ""⟩

instance : Inhabited Command := ⟨.comment ""⟩

end Toolwrap.Shell
