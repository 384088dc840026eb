import Toolwrap.Shell.Calendar
import Toolwrap.Shell.Utility.Basic
/-!
A program that shows a moment: the one of the run, or one that is given.
-/
namespace Toolwrap.Shell.Utility

/-- The numbers of a text that are separated by marks, and the marks. -/
def numbersOf (s : List Char) : List Nat × List Char :=
  (((splitNumbers (s.length + 1) s).map fun p => numberIn 10 p.1), (splitNumbers (s.length + 1) s).filterMap (·.2))
where
  splitNumbers : Nat → List Char → List (List Char × Option Char)
    | 0, _ => []
    | fuel + 1, s =>
      let digits := s.takeWhile Char.isDigit
      match s.drop digits.length with
      | [] => [(digits, none)]
      | c :: rest => (digits, some c) :: splitNumbers fuel rest

/-- What a text says about a moment. -/
inductive GivenMoment where
  | seconds (n : Nat)
  | senseless
  /-- a way of saying it that is not covered -/
  | uncovered

/-- The moment that a text gives: in seconds, or as a date with or without a time. -/
def givenMoment (text : String) : GivenMoment :=
  let cs := (Text.strip text).toList
  match cs with
  | '@' :: digits => if !digits.isEmpty && digits.all Char.isDigit then .seconds (numberIn 10 digits) else .senseless
  | [] => .uncovered
  | cs =>
    if cs == "now".toList then .seconds Calendar.now
    else
      let body := [" UTC", "UTC", "Z", "+0000", "+00:00"].foldl (fun (s : List Char) (ending : String) =>
        if ending.toList.isSuffixOf s then s.take (s.length - ending.length) else s) cs
      let of := fun (d : Option Nat) => match d with | some n => GivenMoment.seconds n | none => .senseless
      match numbersOf body with
      | ([y, m, d], ['-', '-']) => of (Calendar.ofDate? y m d 0 0 0)
      | ([y, m, d], ['/', '/']) => of (Calendar.ofDate? y m d 0 0 0)
      | ([y, m, d, h, n], ['-', '-', sep, ':']) =>
        if sep == ' ' || sep == 'T' then of (Calendar.ofDate? y m d h n 0) else .senseless
      | ([y, m, d, h, n, s], ['-', '-', sep, ':', ':']) =>
        if sep == ' ' || sep == 'T' then of (Calendar.ofDate? y m d h n s) else .senseless
      | _ => .uncovered

def dateFormat (call : Call) : Except String String := do
  if call.has "R" then return "%a, %d %b %Y %H:%M:%S +0000"
  if call.has "I" then
    match (call.value? "I").getD "date" with
    | "date" => return "%Y-%m-%d"
    | "hours" => return "%Y-%m-%dT%H+00:00"
    | "minutes" => return "%Y-%m-%dT%H:%M+00:00"
    | "seconds" => return "%Y-%m-%dT%H:%M:%S+00:00"
    | other => throw other
  match call.operands with
  | format :: _ => return String.ofList (format.toList.drop 1)
  | [] => return "%a %b %e %H:%M:%S %Z %Y"

def date : Utility := fun _ args =>
  let o : Options := {
    short := "d:f:I::r:Rs:u"
    long := [("date", "d"), ("file", "f"), ("iso-8601", "I"), ("reference", "r"), ("rfc-email", "R"), ("rfc-2822", "R"),
      ("set", "s"), ("utc", "u"), ("universal", "u"), ("rfc-3339", "rfc-3339"), ("debug", "debug")]
    valued := ["rfc-3339"] }
  withCall o args fun call => do
    if ["f", "r", "s", "rfc-3339", "debug"].any call.has then throw (.unsupported "date")
    match call.operands with
    | _ :: extra :: _ => return ← misused 1 ("extra operand " ++ curved extra)
    | [format] =>
      if !format.startsWith "+" then
        if call.has "d" then
          complain ("the argument " ++ curved format ++ " lacks a leading '+';")
          Run.print 2 "when using an option to specify date(s), any non-option\nargument must be a format string beginning with '+'\n"
          hint
          return 1
        return ← fail 1 ("invalid date " ++ curved format)
    | [] => pure ()
    match (call.value? "d").map givenMoment, dateFormat call with
    | some .senseless, _ => fail 1 ("invalid date " ++ curved ((call.value? "d").getD ""))
    | some .uncovered, _ => throw (.unsupported "date -d")
    | _, .error _ => throw (.unsupported "date -I")
    | given, .ok format =>
      let seconds := match given with
        | some (.seconds n) => n
        | _ => Calendar.now
      outLines [(Calendar.Moment.ofSeconds seconds).text true format.toList]
      return 0

end Toolwrap.Shell.Utility
