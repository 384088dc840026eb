import Toolwrap.Shell.Expansion
import Toolwrap.Shell.Reader
/-!
Showing commands before they are run. The text in front of each one is a variable, which is expanded;
its first character is repeated for every text that is run inside of another one.
-/
namespace Toolwrap.Shell

/-- The pieces of a text between quotes. -/
def quotedPieces (text : String) : List Part :=
  match (Reader.parts (30 * text.length + 100) .document (fun _ => false)).run (.ofText false text) with
  | .ok (parts, _) => parts
  | .error _ => [.text text]

/-- What stands in front of a command that is shown. -/
def traceLead (E : Engine) : Run String := do
  let s ← get
  let text := (s.value? "PS4").getD (if s.isPlain then "+ " else "")
  set (s.turn .xtrace false)
  let lead := fragmentText (← expandParts E true (quotedPieces text))
  modify fun t => { t.turn .xtrace true with status := s.status, substituted := s.substituted }
  match s.isPlain, lead.toList with
  | false, c :: rest => return String.ofList (List.replicate (s.nesting + 1) c ++ rest)
  | _, _ => return lead

/-- Shows a command if commands are to be shown. -/
def trace (E : Engine) (text : Unit → String) : Run Unit := do
  if (← get).has .xtrace then
    let lead ← traceLead E
    Run.print 2 (lead ++ text () ++ "\n")

/-- Shows what only the full language shows. -/
def traceFull (E : Engine) (text : Unit → String) : Run Unit := do
  if !(← get).isPlain then trace E text

/-!
Assignments: a variable, or an item of one, is given a value, as the marks of the variable want it.
-/

namespace Assign

/-- The value that a variable gets: the sum or the value of an expression, or a text in the wanted case,
perhaps behind the old one. -/
def settled (v : Variable) (append : Bool) (old value : String) : Run String := do
  if v.integer then
    let n ← Arithmetic.calculate "" value
    let m ← if append then Arithmetic.calculate "" old else pure 0
    return toString (Arithmetic.wrap (m + n))
  let text := if append then old ++ value else value
  match v.casing with
  | some upper => return recased (if upper then .upper else .lower) true (fun _ => true) text
  | none => return text

/-- Gives a value to a spot. -/
def store (spot : Arithmetic.Spot) (append : Bool) (value : String) : Run Unit := do
  Arithmetic.needFree spot.name
  let s ← get
  let v := s.variableD (s.resolved spot.name)
  let value ← settled v append ((spot.value? s).getD "") value
  modify fun s => spot.store s value
  -- the search for options begins anew
  if spot.name == "OPTIND" then modify fun s => { s with optionPlace := (1, 1) }

/-- Gives a value to a variable. -/
def setText (x value : String) : Run Unit := store (.whole x) false value

/-- The same in a command of the shell, which goes on if the variable is to keep its value; whether it got
the value. -/
def trySetText (x value : String) : Run Bool := do
  try
    setText x value
    return true
  catch
    | .discarded => return false
    | stop => throw stop

/-- A key in the brackets of an assignment. -/
def spotOf (E : Engine) (x : String) (index : Word) : Run Arithmetic.Spot := do
  let key := fragmentText (← expandParts E true index)
  let s ← get
  let label := x ++ "[" ++ inlineParts index ++ "]"
  match s.contentOf x with
  | .table _ =>
    if key.isEmpty then Run.discard (label ++ ": bad array subscript")
    return .entry x key
  | content =>
    if key.isEmpty then Run.discard (label ++ ": bad array subscript")
    let n ← Arithmetic.calculate "" key
    match Session.indexIn? content.list n with
    | some n => return .item x n
    | none => Run.discard (label ++ ": bad array subscript")

/-- Values to be put into an array, each with its index or key, if it has one. -/
def itemValues (E : Engine) : List Item → Run (List (Option Word × Bool × String))
  | [] => return []
  | .plain word :: rest => do
    let values ← Word.fields E word
    return values.map (none, false, ·) ++ (← itemValues E rest)
  | .keyed index append word :: rest => do
    let value ← Word.valueText E word
    return (some index, append, value) :: (← itemValues E rest)

/-- Puts values into an array one after the other, from an index on. -/
def fill (E : Engine) (x : String) : Nat → List (Option Word × Bool × String) → Run Unit
  | _, [] => pure ()
  | next, (index, append, given) :: rest => do
    match index with
    | none =>
      store (.item x next) append given
      fill E x (next + 1) rest
    | some index =>
      match ← spotOf E x index with
      | .item x n =>
        store (.item x n) append given
        fill E x (n + 1) rest
      | _ => fill E x next rest

/-- Puts values into a table; keys without a value of their own take the next one. -/
def tabulate (E : Engine) (x : String) : List (Option Word × Bool × String) → Run Unit
  | [] => pure ()
  | (some index, append, given) :: rest => do
    store (← spotOf E x index) append given
    tabulate E x rest
  | (none, _, key) :: (none, _, given) :: rest => do
    store (.entry x key) false given
    tabulate E x rest
  | (none, _, key) :: rest => do
    store (.entry x key) false ""
    tabulate E x rest

/-- An assignment as it is shown: with what its word comes to. -/
def shown (x : String) (index : Word) (append : Bool) (value : String) : String :=
  x ++ inlineIndex index ++ (if append then "+=" else "=") ++ Requoted.plain value

/-- Puts values into an array or a table; without `append`, what it holds is gone. -/
def storeItems (E : Engine) (x : String) (append : Bool) (values : List (Option Word × Bool × String)) :
    Run Unit := do
  Arithmetic.needFree x
  let x := (← get).resolved x
  match (← get).contentOf x with
  | .table xs => do
    modify fun s => s.setContent x (.table (if append then xs else []))
    tabulate E x values
  | content => do
    let old := if append then content.list else []
    modify fun s => s.setContent x (.items old)
    fill E x (Content.nextIndex old) values

def apply (E : Engine) : Assign → Run Unit
  | .value x [] append word => do
    let value ← Word.valueText E word
    trace E fun _ => shown x [] append value
    store (.whole x) append value
  | .value x index append word => do
    let value ← Word.valueText E word
    trace E fun _ => shown x index append value
    let spot ← spotOf E x index
    store spot append value
  | .array x append items => do
    let values ← itemValues E items
    trace E fun _ => (Assign.array x append items).inline
    storeItems E x append values

/-- The variable that an assignment before a command gives it. -/
def temporary? (E : Engine) : Assign → Run (Option (String × Variable))
  | .value x [] append word => do
    let value ← Word.valueText E word
    traceFull E fun _ => shown x [] append value
    let s ← get
    match s.find? (s.resolved x) with
    | some { fixed := true, .. } =>
      if s.isPlain then Run.abort (x ++ ": is read only")
      Run.complain (x ++ ": readonly variable")
      return none
    | found =>
      let old := if append then s.valueD x else ""
      let integer := (found.map (·.integer)).getD false
      let value ← if integer then settled { content := .declared, integer } append old value else pure (old ++ value)
      return some (x, { content := .text value, exported := true })
  | _ => return none

end Assign

end Toolwrap.Shell
