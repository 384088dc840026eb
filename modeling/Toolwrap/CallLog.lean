import Toolwrap.Workspace
/-!
Logged calls: a line when a step begins, one when it ends or fails, and a record of what it was given
and what came of it.
-/
namespace Toolwrap

/-- A step that is logged. -/
structure LoggedStep where
  name : String
  /-- what the step belongs to -/
  label : Option String := none
deriving DecidableEq, Repr

namespace LoggedStep

def line (s : LoggedStep) (clock : Clock) (event : String) : String :=
  "[" ++ clock.now ++ "]" ++ (s.label.elim "" (" ▶ " ++ ·)) ++ " ▶ " ++ s.name ++ " " ++ event

def began (s : LoggedStep) (clock : Clock) : String := s.line clock "START"

def ended (s : LoggedStep) (clock : Clock) : String :=
  s.line clock ("END (Process Time : " ++ clock.elapsed ++ "s)")

def failed (s : LoggedStep) (clock : Clock) (message : String) : String :=
  s.line clock ("ERROR (Process Time : " ++ clock.elapsed ++ "s Log : " ++ message ++ ")")

end LoggedStep

/-- Runs a step between its two lines. A failure is passed on. -/
def Work.logged {α : Type} (step : LoggedStep) (work : Work α) : Work α := do
  let clock := (← get).clock
  Work.say (step.began clock)
  try
    let x ← work
    Work.say (step.ended clock)
    return x
  catch fault =>
    Work.say (step.failed clock fault.message)
    throw fault

/-- A message about what is being done. -/
def Work.announce (message : String) : Work Unit := Work.say ("[BASHWRAP] " ++ message)

/-- What is kept of a call: the texts of its arguments and of its result, or its error. -/
structure CallRecord where
  step : LoggedStep
  args : List String
  named : List (String × String)
  result : Option String := none
  error : Option String := none
deriving Repr

namespace CallRecord

/-- The record of a call and the value that it gave, or the message with which it failed. -/
def ofCall (step : LoggedStep) (args : List Value) (named : Fields) (outcome : Except String Value) :
    CallRecord where
  step := step
  args := args.map Value.quoted
  named := named.map fun (k, v) => (k.display, v.quoted)
  result :=
    match outcome with
    | .ok .null => none
    | .ok v => some v.quoted
    | .error _ => none
  error :=
    match outcome with
    | .ok _ => none
    | .error message => some message

end CallRecord

end Toolwrap
