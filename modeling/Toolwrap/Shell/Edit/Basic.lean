import Toolwrap.Shell.Regex.Reader
/-!
Scripts that edit a text line by line. A script is a sequence of steps, each of which says to which lines
it applies. Blocks and branches lead to the indices of other steps.
-/
namespace Toolwrap.Shell.Edit

/-- What is looked for in a line; without an expression, what was looked for last. -/
structure Sought where
  expression : Option Expression
  folds : Bool := false
deriving Inhabited

/-- Which lines a step applies to. -/
inductive Address where
  | line (n : Nat)
  | every (first step : Nat)
  | last
  | holding (what : Sought)

/-- Where a range of lines ends. -/
inductive Bound where
  | address (a : Address)
  | more (n : Nat)
  | multiple (n : Nat)

structure Selection where
  first : Option Address := none
  bound : Option Bound := none
  turned : Bool := false

/-- How letters change in what is put in. -/
inductive Recasing where
  | upper | lower | upperOne | lowerOne | stop
deriving DecidableEq, Repr

/-- A part of what is put in for a match. -/
inductive Part where
  | char (c : Char)
  | group (n : Nat)
  | recase (r : Recasing)
deriving DecidableEq, Repr

structure Substitution where
  sought : Sought
  parts : List Part
  /-- the first match that is replaced -/
  nth : Nat := 1
  /-- all later ones are, too -/
  all : Bool := false
  prints : Bool := false
  file : Option String := none

/-- When a branch is taken. -/
inductive Occasion where
  | always
  | replaced
  | kept
deriving DecidableEq, Repr

inductive Action where
  /-- goes on behind its end, unless selected -/
  | opening (beyond : Nat)
  | closing
  | label (name : String)
  | branch (when_ : Occasion) (label : String)
  | append (text : List Char)
  | insert (text : List Char)
  | change (text : List Char)
  | delete
  | deleteFirst
  | number
  | fileName
  | fetch (adding : Bool)
  | keep (adding : Bool)
  | swap
  | list (width : Option Nat)
  | next (adding : Bool)
  | print
  | printFirst
  | quit (code : Nat) (quietly : Bool)
  | readFile (name : String)
  | writeFile (name : String) (firstOnly : Bool)
  | substitute (s : Substitution)
  | translate (pairs : List (Char × Char))
  | clear
  | nothing

structure Step where
  selection : Selection
  action : Action

/-- What is wrong with a script. -/
inductive Fault where
  | unknownCommand (c : Char)
  | noCommand
  | noAddressEnd
  | openSubstitution
  | openTranslation
  | unknownFlag
  | repeatedFlag (c : Char)
  | repeatedNumber
  | zeroNumber
  | badGroup (n : Nat)
  | unequal
  | trailing
  | strayComma
  | lineZero
  | relativeFirst
  | turnedTwice
  | addressed (what : String)
  | oneAddress
  | noText
  | noFile
  | noLabel
  | unknownLabel (name : String)
  | strayClosing
  | unclosed
  | noExpression
  | expression (fault : Regex.Fault)
  /-- something that is not covered -/
  | uncovered
deriving DecidableEq, Repr

def Fault.message : Fault → String
  | unknownCommand c => "unknown command: \x60" ++ String.singleton c ++ "'"
  | noCommand => "missing command"
  | noAddressEnd => "unterminated address regex"
  | openSubstitution => "unterminated \x60s' command"
  | openTranslation => "unterminated \x60y' command"
  | unknownFlag => "unknown option to \x60s'"
  | repeatedFlag c => "multiple \x60" ++ String.singleton c ++ "' options to \x60s' command"
  | repeatedNumber => "multiple number options to \x60s' command"
  | zeroNumber => "number option to \x60s' command may not be zero"
  | badGroup n => "invalid reference \\" ++ toString n ++ " on \x60s' command's RHS"
  | unequal => "strings for \x60y' command are different lengths"
  | trailing => "extra characters after command"
  | strayComma => "unexpected \x60,'"
  | lineZero => "invalid usage of line address 0"
  | relativeFirst => "invalid usage of +N or ~N as first address"
  | turnedTwice => "multiple \x60!'s"
  | addressed what => what
  | oneAddress => "command only uses one address"
  | noText => "expected \\ after \x60a', \x60c' or \x60i'"
  | noFile => "missing filename in r/R/w/W commands"
  | noLabel => "\x22:\x22 lacks a label"
  | unknownLabel name => "can't find label for jump to \x60" ++ name ++ "'"
  | strayClosing => "unexpected \x60\x7d'"
  | unclosed => "unmatched \x60\x7b'"
  | noExpression => "no previous regular expression"
  | expression fault => fault.message
  | uncovered => ""

end Toolwrap.Shell.Edit
