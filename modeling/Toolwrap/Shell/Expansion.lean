import Toolwrap.Shell.Braces
import Toolwrap.Shell.Calculation
import Toolwrap.Shell.Fields
import Toolwrap.Shell.Parameter
import Toolwrap.Shell.Printer
import Toolwrap.Shell.Subshell
/-!
Expansion of words. Each part of a word becomes fragments, which remember what was quoted; from them
come the fields of a command (`Word.fields`), a single text (`Word.text`) or a pattern
(`Word.marked`). Every quoted part leaves a fragment, perhaps an empty one, except for a list without
items: so an empty pair of quotes makes a field, and `"$@"` without arguments makes none.
-/
namespace Toolwrap.Shell

/-- What a parameter stands for. -/
inductive Subject where
  | one (value : Option String)
  /-- several values, and whether quotes join them -/
  | many (values : List String) (joined : Bool)
deriving Repr

/-- Commands whose output stands for text. A redirection of the input alone stands for the file. -/
def outputBody (body : Script) : Script :=
  match body with
  | [.located line (.simple [] [] [.mk 0 .read target])] =>
    [.located line (.simple [] [[.text "cat"]] [.mk 0 .read target])]
  | _ => body

/-- What of a variable is meant. -/
inductive Pick where
  | whole
  | spot (spot : Arithmetic.Spot)
  | every (joined : Bool)
  /-- an item that cannot be there -/
  | nothing
deriving Repr

/-- A parameter that is expanded, and how it is written. -/
structure Referent where
  name : String
  pick : Pick
  label : String

/-- The result of an expansion: kept together between quotes, else cut. -/
def Fragment.ofValue (quoted : Bool) (s : String) : Fragment :=
  if quoted then .kept s.toList else .loose s.toList

/-- Text of the program itself. -/
def Fragment.ofText (quoted : Bool) (s : String) : Fragment :=
  if quoted then .kept s.toList else .plain s.toList

/-- Text of the program that stands for a value is cut like one. -/
def Fragment.loosened : Fragment → Fragment
  | .plain s => .loose s
  | f => f

def fragmentText (fragments : List Fragment) : String := String.ofList (joinedText fragments)

namespace Session

/-- The separators of the session. -/
def separators (s : Session) : Separators :=
  match s.value? "IFS" with
  | some chars => ⟨chars.toList⟩
  | none => .default

/-- What stands between joined values: the first separator. -/
def joint (s : Session) : String :=
  match s.value? "IFS" with
  | some chars => String.ofList (chars.toList.take 1)
  | none => " "

def subject (s : Session) (r : Referent) : Subject :=
  match r.name with
  | "@" => .many s.args false
  | "*" => .many s.args true
  | name =>
    match r.pick with
    | .whole => .one (s.special? name)
    | .spot spot => .one (spot.value? s)
    | .every joined => .many ((s.contentOf name).entries.map (·.2)) joined
    | .nothing => .one none

end Session

namespace Subject

/-- Whether a default counts; with a colon, an empty value is as good as none. -/
def isMissing (colon : Bool) : Subject → Bool
  | one none => true
  | one (some v) => colon && v.isEmpty
  | many vs _ => vs.isEmpty || (colon && vs.all String.isEmpty)

def map (f : String → String) : Subject → Subject
  | one v => one (v.map f)
  | many vs joined => many (vs.map f) joined

/-- The fragments of the values; each value but the last ends a field. -/
def fragments (quoted : Bool) (joint : String) : Subject → List Fragment
  | one v => [.ofValue quoted (v.getD "")]
  | many vs joined =>
    if quoted && joined then [.kept (joint.intercalate vs).toList]
    else
      let joint := if joined then joint.toList else [' ']
      (vs.map (.ofValue quoted)).intersperse (.cut joint)

/-- The number of characters of a value, or of the values. -/
def size : Subject → Nat
  | one v => (v.getD "").length
  | many vs _ => vs.length

/-- The values where one text is needed. -/
def text : Subject → String
  | one v => v.getD ""
  | many vs _ => " ".intercalate vs

end Subject

/-- A part of a list from an offset that may count from the end. A negative length counts from the end,
too; none if that is before the offset. -/
def sliced? {α : Type} (xs : List α) (offset : Int) (length : Option Int) : Option (List α) :=
  let start := if offset < 0 then (xs.length + offset) else offset
  if start < 0 || xs.length < start then some []
  else
    let rest := xs.drop start.toNat
    match length with
    | none => some rest
    | some n =>
      if n < 0 then
        if rest.length + n < 0 then none else some (rest.take (rest.length + n).toNat)
      else some (rest.take n.toNat)

/-- The members of an array from an index on that may count from behind the last one. -/
def itemsFrom (xs : List (Nat × String)) (offset : Int) : List String :=
  let start := if offset < 0 then Content.nextIndex xs + offset else offset
  if start < 0 then [] else (xs.filter fun i => start ≤ i.1).map (·.2)

/-- A value with its first letter, or all of them, in the other case, if they fit a pattern. -/
def recased (kind : LetterCase) (everywhere : Bool) (fits : Char → Bool) (v : String) : String :=
  let change := fun (c : Char) =>
    if !fits c then c
    else
      match kind with
      | .upper => Text.upperChar c
      | .lower => Text.lowerOne c
      | .other => if Text.lowerOne c != c then Text.lowerOne c else Text.upperChar c
  if everywhere then String.ofList (v.toList.map change)
  else
    match v.toList with
    | c :: rest => String.ofList (change c :: rest)
    | [] => v

/-- The name of a parameter in a message. -/
def shownName (name : String) : String := if isName name then name else "$" ++ name

/-- A parameter that is given as text, perhaps with a subscript. -/
def referentOf? (text : String) : Run (Option Referent) := do
  let name := text.toList.takeWhile (· != '[')
  match text.toList.drop name.length with
  | [] =>
    let known := isName text || text == "@" || text == "*" || text == "#" || text == "?" ||
      (!text.isEmpty && text.toList.all Char.isDigit)
    return if known then some ⟨text, .whole, text⟩ else none
  | '[' :: rest =>
    let name := String.ofList name
    let index := String.ofList rest.dropLast
    if rest.getLast? != some ']' || !isName name || index.isEmpty then return none
    if index == "@" then return some ⟨name, .every false, text⟩
    if index == "*" then return some ⟨name, .every true, text⟩
    let spot ← Arithmetic.Target.spot (Arithmetic.calculate "") ⟨name, some index⟩
    return some ⟨name, .spot spot, text⟩
  | _ => return none

/-- A missing value where that is refused ends the program. -/
def needSet (label : String) (subject : Subject) : Run Unit := do
  match subject with
  | .one none =>
    if (← get).has .nounset then
      if (← get).isPlain then Run.abort (label ++ ": parameter not set")
      Run.abort (shownLabel label ++ ": unbound variable")
  | _ => pure ()
where
  shownLabel (label : String) : String :=
    if (label.toList.head?).any isNameStart then label else "$" ++ label

def defaultMessage (colon : Bool) : String :=
  if colon then "parameter null or not set" else "parameter not set"

/-- What a value becomes when it is transformed. -/
def transformed (s : Session) (r : Referent) (kind : Char) (v : String) : String :=
  match kind with
  | 'Q' => Requoted.quoted v
  | 'E' => String.ofList (Escape.ansi v.toList)
  | 'U' => recased .upper true (fun _ => true) v
  | 'u' => recased .upper false (fun _ => true) v
  | 'L' => recased .lower true (fun _ => true) v
  | 'K' => Requoted.quoted v
  | 'a' => ((s.shownVariable? (s.resolved r.name)).map Variable.letters).getD ""
  | 'A' =>
    let shown := (s.shownVariable? (s.resolved r.name)).getD { content := .declared }
    Variable.assignment r.name { shown with content := .text v } |> fun text =>
      match shown.content with
      | .items _ => "declare -" ++ shown.letters ++ " " ++ r.name ++ "=" ++ Requoted.quoted v
      | .table _ => "declare -" ++ shown.letters ++ " " ++ r.name ++ "=" ++ Requoted.quoted v
      | _ => text
  | _ => v

/-- What a whole array becomes when it is transformed. -/
def transformedAll (s : Session) (r : Referent) (kind : Char) (subject : Subject) : Subject :=
  let content := s.contentOf r.name
  match kind, subject with
  | 'A', .many vs joined =>
    if r.name == "@" || r.name == "*" then
      .many [" ".intercalate ("set" :: "--" :: vs.map Requoted.quoted)] joined
    else
      match s.shownVariable? (s.resolved r.name) with
      | some v => .many [Variable.declaration r.name v] joined
      | none => .many [] joined
  | 'K', .many _ joined =>
    .many [" ".intercalate (content.entries.map fun (k, v) =>
      Requoted.key k ++ " " ++ Requoted.declared v) ++ (match content with | .table _ => " " | _ => "")] joined
  | 'k', .many _ joined => .many (content.entries.flatMap fun (k, v) => [k, v]) joined
  | _, subject => subject.map (transformed s r kind)

/-- The text behind a match that stands for an ampersand, and for a backslash in front of one. -/
def withMatch (pieces : List Marked) (found : List Char) : List Char :=
  match pieces with
  | [] => []
  | ('&', false) :: rest => found ++ withMatch rest found
  | ('\\', false) :: (c, _) :: rest =>
    if c == '&' || c == '\\' then c :: withMatch rest found else '\\' :: withMatch ((c, true) :: rest) found
  | (c, _) :: rest => c :: withMatch rest found
termination_by pieces.length

/-- What a word that replaces matches makes of a match. -/
def replacement (s : Session) (pieces : List Marked) : List Char → List Char :=
  if s.has .patsubReplacement && pieces.any fun c => !c.2 && (c.1 == '&' || c.1 == '\\') then withMatch pieces
  else fun _ => pieces.map (·.1)

/-- The next free number for the file of a process, from above. -/
def freeDescriptor (s : Session) : Nat :=
  ((List.range 54).map (63 - ·)).find? (fun n => (s.descriptors.lookup n).isNone) |>.getD 9

/-- The start of the name of a file that is a descriptor. -/
def descriptorPath : String := "/dev/fd/"

mutual

def Part.expand (E : Engine) (quoted : Bool) : Part → Run (List Fragment)
  | .text s => return [.ofText quoted s]
  | .escaped c => return [.kept [c]]
  | .single s => return [.kept s.toList]
  | .double parts => do
    if parts.isEmpty then return [.kept []]
    expandParts E true parts
  | .param name index op => do
    let pick ← match index with
      | [] => pure Pick.whole
      | [.text "@"] => pure (.every false)
      | [.text "*"] => pure (.every true)
      | parts => do
        let key := fragmentText (← expandParts E true parts)
        let s ← get
        match s.contentOf name with
        | .table _ => pure (.spot (.entry name key))
        | content =>
          let n ← Arithmetic.calculate "" key
          match Session.indexIn? content.list n with
          | some n => pure (.spot (.item name n))
          | none => do
            Run.complain (name ++ ": bad array subscript")
            pure .nothing
    op.expand E quoted ⟨name, pick, name ++ inlineIndex index⟩
  | .output body => do
    return [.ofValue quoted (← Run.captured E (E.script (outputBody body)))]
  | .unread text => return [.ofValue quoted (← Run.captured E (E.source "command substitution: " text))]
  | .process output body => do
    let (s, n) := (← get).addText ""
    let fd := freeDescriptor s
    set { s.redirect fd (.text n) with processes := fd :: s.processes }
    if output then Run.subshell E (fun s => (s.redirect 1 (.text n)).turn .errexit false) (E.script body)
    else modify fun s => { s with pending := s.pending ++ [(n, body)] }
    return [.ofValue true (descriptorPath ++ toString fd)]
  | .arith expr => do
    let n ← Arithmetic.calculate "" (fragmentText (← expandParts E true expr))
    return [.ofValue quoted (toString n)]
  | .invalid text => do Run.discard (if (← get).isPlain then "Bad substitution" else text ++ ": bad substitution")
  | .assign _ => return []
  | .spliced s => throw (.unsupported s)

def expandParts (E : Engine) (quoted : Bool) : List Part → Run (List Fragment)
  | [] => return []
  | p :: rest => do
    let first ← p.expand E quoted
    return first ++ (← expandParts E quoted rest)

/-- The same where a tilde may stand for a directory; `first` says whether the parts begin a word. -/
def expandWord (E : Engine) (quoted : Bool) (mode : Tilde.Mode) (first : Bool) :
    List Part → Run (List Fragment)
  | [] => return []
  | p :: rest => do
    let these ←
      match p, quoted with
      | .text t, false => do
        let s ← get
        pure ((Tilde.pieces s mode first rest.isEmpty t.toList).map fun (found, cs) =>
          if found then Fragment.kept cs else .plain cs)
      | _, _ => p.expand E quoted
    return these ++ (← expandWord E quoted mode false rest)

def Op.expand (E : Engine) (quoted : Bool) (r : Referent) : Op → Run (List Fragment)
  | .plain => do
    let subject := (← get).subject r
    needSet r.label subject
    return subject.fragments quoted (← get).joint
  | .braced => do
    let subject := (← get).subject r
    needSet r.label subject
    return subject.fragments quoted (← get).joint
  | .length => do
    let subject := (← get).subject r
    needSet r.label subject
    return [.ofValue quoted (toString subject.size)]
  | .indirect op => do
    let s ← get
    match r.pick, op with
    | .every joined, .braced =>
      return (Subject.many ((s.contentOf r.name).entries.map (·.1)) joined).fragments quoted s.joint
    | pick, op =>
      match pick, s.find? r.name with
      | .whole, some { reference := true, content := .text target, .. } =>
        return [.ofValue quoted target]
      | _, _ =>
        let subject := s.subject r
        match subject with
        | .one none =>
          match op with
          | .default _ _ _ => op.expand E quoted ⟨r.name, .nothing, r.label⟩
          | _ => Run.discard (r.label ++ ": invalid indirect expansion")
        | _ =>
          match ← referentOf? subject.text with
          | some target => op.expand E quoted target
          | none => Run.discard (subject.text ++ ": invalid variable name")
  | .default kind colon word => do
    let subject := (← get).subject r
    let missing := subject.isMissing colon
    -- between quotes a value is there, even if it is empty
    let start := if quoted then [Fragment.kept []] else []
    match kind, missing with
    | .alternative, true => return start
    | .alternative, false => return start ++ (← expandWord E quoted .word true word).map Fragment.loosened
    | .use, true => return start ++ (← expandWord E quoted .word true word).map Fragment.loosened
    | .assign, true =>
      let value := fragmentText (← expandWord E quoted .word true word)
      if !isName r.name then Run.discard (shownName r.name ++ ": cannot assign in this way")
      Arithmetic.needFree r.name
      modify fun s =>
        match r.pick with
        | .spot spot => spot.store s value
        | _ => (Arithmetic.Spot.whole r.name).store s value
      return [.ofValue quoted value]
    | .require, true =>
      let message := fragmentText (← expandWord E quoted .word true word)
      Run.abort (r.label ++ ": " ++ if message.isEmpty then defaultMessage colon else message)
    | _, false => return subject.fragments quoted (← get).joint
  | .trim fromEnd longest pattern => do
    let subject := (← get).subject r
    needSet r.label subject
    let p := Pattern.ofMarked true (markedText (← expandWord E false .word true pattern))
    let trimmed := subject.map fun v => String.ofList (p.trim fromEnd longest v.toList)
    return trimmed.fragments quoted (← get).joint
  | .replace site pattern word => do
    let subject := (← get).subject r
    needSet r.label subject
    let marked := markedText (← expandWord E false .word true pattern)
    let p := Pattern.ofMarked true marked
    let pieces := markedText (← expandWord E false .word true word)
    let s ← get
    let by_ := replacement s pieces
    let folds := s.has .nocasematch
    let replaced := subject.map fun v =>
      String.ofList (match site with
        | .first => if marked.isEmpty then v.toList else p.replace folds false by_ v.toList
        | .everywhere => if marked.isEmpty then v.toList else p.replace folds true by_ v.toList
        | .start => p.replaceStart folds by_ v.toList
        | .finish => p.replaceEnd folds by_ v.toList)
    return replaced.fragments quoted s.joint
  | .dropChars offset => do
    let subject := (← get).subject r
    needSet r.label subject
    let n ← Arithmetic.calculate (r.label ++ ": ") (fragmentText (← expandParts E true offset))
    cut quoted r subject n none
  | .slice offset length => do
    let subject := (← get).subject r
    needSet r.label subject
    let n ← Arithmetic.calculate (r.label ++ ": ") (fragmentText (← expandParts E true offset))
    let m ← Arithmetic.calculate (r.label ++ ": ") (fragmentText (← expandParts E true length))
    cut quoted r subject n (some m)
  | .casing kind everywhere pattern => do
    let subject := (← get).subject r
    needSet r.label subject
    let p := Pattern.ofMarked true (markedText (← expandParts E false pattern))
    let fits := fun (c : Char) => pattern.isEmpty || p.fits false [c]
    return (subject.map (recased kind everywhere fits)).fragments quoted (← get).joint
  | .transform kind => do
    let s ← get
    let subject := s.subject r
    needSet r.label subject
    return (transformedAll s r kind subject).fragments quoted s.joint
  | .names joined => do
    let s ← get
    let named := if s.isPlain then s.names else (Text.sorted (s.names ++ Session.facts)).eraseDups
    return (Subject.many (named.filter (·.startsWith r.name)) joined).fragments quoted s.joint
where
  /-- The slice of a value, or of the values; of the arguments, the name of the program comes first. -/
  cut (quoted : Bool) (r : Referent) (subject : Subject) (n : Int) (m : Option Int) :
      Run (List Fragment) := do
    let s ← get
    let refused := fun (m : Int) => Run.discard (toString m ++ ": substring expression < 0")
    match subject with
    | .one v =>
      match v.map fun v => sliced? v.toList n m with
      | some (some cs) => return [.ofValue quoted (String.ofList cs)]
      | some none => refused (m.getD 0)
      | none => return [.ofValue quoted ""]
    | .many vs joined =>
      let isArgs := r.name == "@" || r.name == "*"
      if m.any (· < 0) then refused (m.getD 0)
      else
        let picked :=
          if isArgs then (sliced? (s.arg0 :: vs) n m).getD []
          else
            let from_ := match s.contentOf r.name with
              | .items xs => itemsFrom xs n
              | _ => (sliced? vs n none).getD []
            match m with
            | some m => from_.take m.toNat
            | none => from_
        return (Subject.many picked joined).fragments quoted s.joint

end

namespace Word

/-- The fields of a word without braces. -/
def cutAndGlobbed (E : Engine) (w : Word) : Run (List String) := do
  let fragments ← expandWord E false .word true w
  let s ← get
  List.flatten <$> (cutFields s.separators fragments).mapM fun field =>
    match s.matches? field with
    | none => return [plainText field]
    | some [] =>
      if s.has .failglob then Run.discard ("no match: " ++ plainText field)
      else if s.has .nullglob then return []
      else return [plainText field]
    | some paths => return paths

/-- The fields that a word of a command comes to. -/
def fields (E : Engine) (w : Word) : Run (List String) := do
  if (← get).has .braceexpand then List.flatten <$> w.unfolded.mapM (cutAndGlobbed E)
  else cutAndGlobbed E w

/-- The text of a word that is not cut. -/
def text (E : Engine) (w : Word) : Run String := do
  return fragmentText (← expandWord E false .word true w)

/-- The value of an assignment. -/
def valueText (E : Engine) (w : Word) : Run String := do
  return fragmentText (← expandWord E false .value true w)

/-- The characters of a word that is a pattern. -/
def marked (E : Engine) (w : Word) : Run (List Marked) := do
  return markedText (← expandWord E false .word true w)

end Word

end Toolwrap.Shell
