import Toolwrap.Shell.Format
import Toolwrap.Shell.Utility.Lines
import Toolwrap.Shell.Utility.Listing
/-!
Programs about the order of lines: they sort them, take repeated ones together, and compare sorted
texts.
-/
namespace Toolwrap.Shell.Utility

/-! Sorting. -/

/-- How keys are compared. -/
structure KeyOrder where
  numeric : Bool := false
  general : Bool := false
  human : Bool := false
  months : Bool := false
  versions : Bool := false
  folds : Bool := false
  /-- only blanks, letters and digits count -/
  dictionary : Bool := false
  /-- only characters that can be seen count -/
  visible : Bool := false
  reversed : Bool := false
  /-- blanks in front do not count, at the beginning and at the end of a key -/
  blanksAtStart : Bool := false
  blanksAtEnd : Bool := false
deriving DecidableEq

/-- A key: from a field and a character in it to another one; a last character of zero is the end of the
field. -/
structure SortKey where
  field : Nat := 1
  char : Nat := 1
  lastField : Option Nat := none
  lastChar : Nat := 0
  order : KeyOrder := {}

namespace KeyOrder

def letters : List Char := ['b', 'd', 'f', 'g', 'h', 'i', 'M', 'n', 'r', 'V']

def with_ (o : KeyOrder) (atEnd : Bool) : Char → KeyOrder
  | 'b' => if atEnd then { o with blanksAtEnd := true } else { o with blanksAtStart := true }
  | 'd' => { o with dictionary := true }
  | 'f' => { o with folds := true }
  | 'g' => { o with general := true }
  | 'h' => { o with human := true }
  | 'i' => { o with visible := true }
  | 'M' => { o with months := true }
  | 'n' => { o with numeric := true }
  | 'r' => { o with reversed := true }
  | 'V' => { o with versions := true }
  | _ => o

end KeyOrder

/-- A decimal number: its digits as one number, and how many of them stand behind the point. -/
structure PlainNumber where
  digits : Int
  places : Nat

/-- The number at the front of a text, zero if there is none, and what follows. -/
def plainNumber (s : List Char) : PlainNumber × List Char :=
  let s := s.dropWhile fun c => c == ' ' || c == '\t' || c == '\n'
  let (negative, s) := match s with | '-' :: rest => (true, rest) | _ => (false, s)
  let whole := s.takeWhile Char.isDigit
  let after := s.drop whole.length
  let (places, rest) := match after with
    | '.' :: rest => (rest.takeWhile Char.isDigit, rest.dropWhile Char.isDigit)
    | _ => ([], after)
  let n : Int := numberIn 10 (whole ++ places)
  (⟨if negative then -n else n, places.length⟩, rest)

def PlainNumber.scaledTo (n : PlainNumber) (places : Nat) : Int := n.digits * (Nat.pow 10 (places - n.places) : Nat)

def compareNumbers (a b : PlainNumber) : Ordering :=
  let places := max a.places b.places
  compare (a.scaledTo places) (b.scaledTo places)

def monthNames : List String :=
  ["JAN", "FEB", "MAR", "APR", "MAY", "JUN", "JUL", "AUG", "SEP", "OCT", "NOV", "DEC"]

/-- The number of the month whose name a text begins with, zero if there is none. -/
def monthOf (s : List Char) : Nat :=
  let name := String.ofList (((s.dropWhile fun c => c == ' ' || c == '\t').take 3).map Char.toUpper)
  match monthNames.idxOf? name with
  | some n => n + 1
  | none => 0

def unitWeight (rest : List Char) : Nat :=
  match rest with
  | c :: _ => (["kK", "M", "G", "T", "P", "E", "Z", "Y"].zipIdx.find? fun u => u.1.toList.contains c).map (·.2 + 1) |>.getD 0
  | [] => 0

/-- A key for the order of general numbers: no number comes before all numbers. -/
def generalRank (s : List Char) : Nat × Int × Nat × Nat :=
  match Format.realAt (s.dropWhile fun c => c == ' ' || c == '\t') with
  | (.finite negative x, rest) =>
    if rest.length == (s.dropWhile fun c => c == ' ' || c == '\t').length then (0, 0, 0, 1)
    else (3, if negative then -1 else 1, x.num, x.den)
  | (.infinite negative, _) => (if negative then 2 else 4, 0, 0, 1)
  | (.nan, _) => (1, 0, 0, 1)

def compareGeneral (a b : List Char) : Ordering :=
  let (p, m, x, y) := generalRank a
  let (q, n, z, w) := generalRank b
  match compare p q with
  | .eq => compare (m * x * w) (n * z * y)
  | other => other

def compareText (a b : List Char) : Ordering := compare (String.ofList a) (String.ofList b)

namespace KeyOrder

/-- The characters that count. -/
def counting (o : KeyOrder) (s : List Char) : List Char :=
  let s := if o.dictionary then s.filter fun c => c == ' ' || c == '\t' || c.isAlphanum || 128 ≤ c.toNat else s
  let s := if o.visible then s.filter fun c => Requoted.isShown c else s
  if o.folds then s.map Char.toUpper else s

def compare (o : KeyOrder) (a b : List Char) : Ordering :=
  let found :=
    if o.numeric then compareNumbers (plainNumber a).1 (plainNumber b).1
    else if o.general then compareGeneral a b
    else if o.human then
      let (m, restA) := plainNumber a
      let (n, restB) := plainNumber b
      let sign := fun (n : PlainNumber) => if n.digits < 0 then (-1 : Int) else if n.digits == 0 then 0 else 1
      let rank := fun (n : PlainNumber) (rest : List Char) => sign n * (unitWeight rest + 1)
      match Ord.compare (rank m restA) (rank n restB) with
      | .eq => compareNumbers m n
      | other => other
    else if o.months then Ord.compare (monthOf a) (monthOf b)
    else if o.versions then
      let x := String.ofList a
      let y := String.ofList b
      if x == y then .eq else if versionBefore x y then .lt else .gt
    else compareText (o.counting a) (o.counting b)
  if o.reversed then found.swap else found

end KeyOrder

/-- The beginnings of the fields of a line, each with what is left from there on. Without a separator, a
field begins with the blanks in front of it. -/
def fieldsFrom (separator : Option Char) : Nat → List Char → List (List Char)
  | 0, _ => []
  | fuel + 1, s =>
    match separator with
    | some c =>
      let field := s.takeWhile (· != c)
      match s.drop field.length with
      | _ :: rest => s :: fieldsFrom separator fuel rest
      | [] => [s]
    | none =>
      let isBlank := fun (c : Char) => c == ' ' || c == '\t' || c == '\n'
      let after := (s.dropWhile isBlank).dropWhile fun c => !isBlank c
      if after.isEmpty then [s] else s :: fieldsFrom separator fuel after

def dropBlankStart (on : Bool) (s : List Char) : List Char :=
  if on then s.dropWhile fun c => c == ' ' || c == '\t' else s

/-- The characters of a key in a line. -/
def SortKey.of (k : SortKey) (separator : Option Char) (line : List Char) : List Char :=
  let fields := fieldsFrom separator (line.length + 1) line
  let from_ := (dropBlankStart k.order.blanksAtStart ((fields[k.field - 1]?).getD [])).drop (k.char - 1)
  match k.lastField with
  | none => from_
  | some n =>
    let behind :=
      if k.lastChar == 0 then
        match fields[n]? with
        | some next => next.length + (if separator.isSome then 1 else 0)
        | none => 0
      else
        match fields[n - 1]? with
        | some last => (dropBlankStart k.order.blanksAtEnd last).length - k.lastChar
        | none => 0
    from_.take (from_.length - behind)

/-- A place in a line: a field, perhaps a character, and letters. -/
def placeOf (s : List Char) : Option (Nat × Option Nat × List Char) :=
  let field := s.takeWhile Char.isDigit
  if field.isEmpty then none
  else
    match s.drop field.length with
    | '.' :: rest =>
      let char := rest.takeWhile Char.isDigit
      if char.isEmpty then none
      else some (numberIn 10 field, some (numberIn 10 char), rest.drop char.length)
    | rest => some (numberIn 10 field, none, rest)

/-- What is wrong with a key. -/
def keyFault (s : String) : String :=
  if s.toList.head?.any Char.isDigit then
    if s.startsWith "0" then "field number is zero: invalid field specification " ++ curved s
    else "stray character in field spec: invalid field specification " ++ curved s
  else "invalid number at field start: invalid count at start of " ++ curved s

/-- A key that is given as text. -/
def SortKey.read? (s : String) : Option SortKey := do
  let (start, rest) := (s.toList.takeWhile (· != ','), s.toList.dropWhile (· != ','))
  let (field, char, flags) ← placeOf start
  if field == 0 || char == some 0 || flags.any (fun c => !KeyOrder.letters.contains c) then none
  let order := flags.foldl (fun o c => o.with_ false c) ({} : KeyOrder)
  match rest with
  | ',' :: finish =>
    let (last, lastChar, lastFlags) ← placeOf finish
    if last == 0 || lastFlags.any (fun c => !KeyOrder.letters.contains c) then none
    return ⟨field, char.getD 1, some last, lastChar.getD 0, lastFlags.foldl (fun o c => o.with_ true c) order⟩
  | _ => return ⟨field, char.getD 1, none, 0, order⟩

/-- How lines are sorted. -/
structure Sorting where
  keys : List SortKey
  order : KeyOrder
  separator : Option Char
  unique : Bool
  stable : Bool

namespace Sorting

/-- The order of two lines by their keys. -/
def compareKeys (t : Sorting) (a b : List Char) : Ordering :=
  if t.keys.isEmpty then t.order.compare (dropBlankStart t.order.blanksAtStart a) (dropBlankStart t.order.blanksAtStart b)
  else
    t.keys.foldl (fun found k =>
      match found with
      | .eq =>
        -- a key without letters of its own takes over those of the whole
        let k := if k.order == {} then { k with order := t.order } else k
        k.order.compare (k.of t.separator a) (k.of t.separator b)
      | other => other) .eq

/-- The order of two lines; equal ones are compared as a whole at last. -/
def compare (t : Sorting) (a b : List Char) : Ordering :=
  match t.compareKeys a b with
  | .eq =>
    if t.unique || t.stable then .eq
    else
      let last := compareText a b
      if t.order.reversed then last.swap else last
  | other => other

def sorted (t : Sorting) (lines : List (List Char)) : List (List Char) :=
  let ordered := lines.mergeSort fun a b => t.compare a b != .gt
  if t.unique then firsts t ordered else ordered
where
  /-- The first lines of those that are equal. -/
  firsts (t : Sorting) : List (List Char) → List (List Char)
    | [] => []
    | a :: rest => a :: firstsBehind t a rest
  firstsBehind (t : Sorting) (last : List Char) : List (List Char) → List (List Char)
    | [] => []
    | b :: rest =>
      if t.compareKeys last b == .eq then firstsBehind t last rest else b :: firstsBehind t b rest

/-- The number of the first line that is out of order, from one on. -/
def disorder? (t : Sorting) : Nat → List (List Char) → Option (Nat × List Char)
  | n, a :: b :: rest =>
    let bad := if t.unique then t.compareKeys a b != .lt else t.compare a b == .gt
    if bad then some (n + 1, b) else disorder? t (n + 1) (b :: rest)
  | _, _ => none

end Sorting

def sort : Utility := fun _ args =>
  let o : Options := {
    short := "bcCdfghik:mMno:rRsS:t:T:uVy:z"
    long := [("ignore-leading-blanks", "b"), ("check", "check"), ("dictionary-order", "d"), ("ignore-case", "f"),
      ("general-numeric-sort", "g"), ("human-numeric-sort", "h"), ("ignore-nonprinting", "i"), ("key", "k"),
      ("merge", "m"), ("month-sort", "M"), ("numeric-sort", "n"), ("output", "o"), ("reverse", "r"),
      ("random-sort", "R"), ("stable", "s"), ("buffer-size", "S"), ("field-separator", "t"),
      ("temporary-directory", "T"), ("unique", "u"), ("version-sort", "V"), ("zero-terminated", "z"),
      ("parallel", "parallel"), ("debug", "debug"), ("sort", "sort")]
    valued := ["parallel", "sort"], optionally := ["check"], code := 2 }
  withCall o args fun call => do
    if call.has "R" || call.has "debug" || call.has "sort" then throw (.unsupported "sort")
    let given := call.options.filterMap fun o => if o.1 == "k" then o.2 else none
    let keys := given.map fun k => (k, SortKey.read? k)
    match keys.find? fun k => k.2.isNone, call.value? "t" with
    | some (k, _), _ => fail 2 (keyFault k)
    | none, some "" => fail 2 "empty tab"
    | none, separator =>
      let separator := separator.map fun t => if t == "\\0" then "\x00" else t
      match separator.filter (1 < ·.length) with
      | some t => fail 2 ("multi-character tab " ++ curved t)
      | none =>
        let flags := KeyOrder.letters.filter fun c => call.has (String.singleton c)
        let t : Sorting := {
          keys := keys.filterMap fun k => k.2
          order := flags.foldl (fun o c => (o.with_ false c).with_ true c) {}
          separator := separator.bind fun t => t.toList.head?
          unique := call.has "u"
          stable := call.has "s" }
        let stop := if call.has "z" then '\x00' else '\n'
        let paths := if call.operands.isEmpty then ["-"] else call.operands
        let mut lines := []
        for path in paths do
          match ← textOf path with
          | .ok text => lines := lines ++ (closedLines stop text.toList).map fun l => l.1
          | .error .isDirectory => return ← fail 2 ("read failed: " ++ shownFile path ++ ": Is a directory")
          | .error fault => return ← fail 2 ("cannot read: " ++ shownFile path ++ ": " ++ fault.message)
        if call.has "c" || call.has "C" || call.has "check" then
          match t.disorder? 1 lines with
          | some (n, line) =>
            if call.has "c" || (call.has "check" && (call.value? "check").all fun (v : String) => !v.startsWith "q" && !v.startsWith "s") then
              complain (paths.headD "-" ++ ":" ++ toString n ++ ": disorder: " ++ String.ofList line)
            return 1
          | none => return 0
        let text := String.ofList ((t.sorted lines).flatMap (· ++ [stop]))
        match call.value? "o" with
        | some path =>
          match ← save path text with
          | none => return 0
          | some fault => fail 2 ("open failed: " ++ shownFile path ++ ": " ++ fault.message)
        | none =>
          out text
          return 0

/-! Repeated lines. -/

/-- Lines that are equal, with how many there are. -/
def runsOf (key : List Char → List Char) : List (List Char) → List (Nat × List (List Char))
  | [] => []
  | a :: rest =>
    match runsOf key rest with
    | (n, b :: more) :: others =>
      if key a == key b then (n + 1, a :: b :: more) :: others else (1, [a]) :: (n, b :: more) :: others
    | others => (1, [a]) :: others

/-- A line without some fields in front: blanks and what follows them. -/
def withoutFields : Nat → List Char → List Char
  | 0, s => s
  | n + 1, s =>
    let isBlank := fun (c : Char) => c == ' ' || c == '\t'
    withoutFields n ((s.dropWhile isBlank).dropWhile fun c => !isBlank c)

def unique : Utility := fun _ args =>
  let o : Options := {
    short := "cdDf:is:uw:z"
    long := [("count", "c"), ("repeated", "d"), ("all-repeated", "all-repeated"), ("skip-fields", "f"),
      ("ignore-case", "i"), ("skip-chars", "s"), ("unique", "u"), ("check-chars", "w"), ("zero-terminated", "z"),
      ("group", "group")]
    optionally := ["all-repeated", "group"] }
  let modern := args.flatMap fun a =>
    match a.toList with
    | '-' :: c :: cs => if (c :: cs).all Char.isDigit then ["-f", String.ofList (c :: cs)] else [a]
    | _ => [a]
  withCall o modern fun call => do
    if call.has "group" then throw (.unsupported "uniq --group")
    let natural := fun (key : String) => (call.value? key).bind String.toNat?
    let wrong := [("f", "fields to skip"), ("s", "bytes to skip"), ("w", "bytes to compare")].find? fun (key, _) =>
      (call.value? key).any fun v => v.toNat?.isNone
    match wrong with
    | some (key, what) => fail 1 (((call.value? key).getD "") ++ ": invalid number of " ++ what)
    | none =>
      let stop := if call.has "z" then '\x00' else '\n'
      match call.operands with
      | _ :: _ :: x :: _ => extraOperand x
      | operands =>
        let path := operands.headD "-"
        match ← textOf path with
        | .error .isDirectory => fail 1 ("error reading " ++ quotedName path ++ ": Is a directory")
        | .error fault =>
          plainRefusal path fault
          return 1
        | .ok text =>
          let key := fun (line : List Char) =>
            let s := (withoutFields ((natural "f").getD 0) line).drop ((natural "s").getD 0)
            let s := match natural "w" with | some n => s.take n | none => s
            if call.has "i" then s.map Char.toUpper else s
          let runs := runsOf key ((closedLines stop text.toList).map (·.1))
          let wanted := runs.filter fun (n, _) =>
            if call.has "d" && call.has "u" then false
            else if call.has "d" || call.has "D" || call.has "all-repeated" then 1 < n
            else if call.has "u" then n == 1
            else true
          let shown := wanted.flatMap fun (n, lines) =>
            let kept := if call.has "D" || call.has "all-repeated" then lines else lines.take 1
            kept.map fun line =>
              (if call.has "c" then padLeft 7 (toString n) ++ " " else "") ++ String.ofList line ++ String.singleton stop
          match operands[1]? with
          | some target =>
            match ← save target (String.join shown) with
            | none => return 0
            | some fault =>
              plainRefusal target fault
              return 1
          | none =>
            out (String.join shown)
            return 0

/-! Two sorted texts. -/

/-- Lines of the first text alone, of the second alone, and of both. -/
inductive Sided where
  | first (line : String)
  | second (line : String)
  | both (line : String)

/-- The lines of two texts side by side. The fuel bounds their number. -/
def sideBySide : Nat → List String → List String → List Sided
  | 0, _, _ => []
  | _, [], bs => bs.map .second
  | _, as, [] => as.map .first
  | fuel + 1, a :: as, b :: bs =>
    if a == b then .both a :: sideBySide fuel as bs
    else if a < b then .first a :: sideBySide fuel as (b :: bs)
    else .second b :: sideBySide fuel (a :: as) bs

def isSorted : List String → Bool
  | a :: b :: rest => a ≤ b && isSorted (b :: rest)
  | _ => true

def common : Utility := fun _ args =>
  let o : Options := {
    short := "123z"
    long := [("check-order", "check-order"), ("nocheck-order", "nocheck-order"), ("output-delimiter", "output-delimiter"),
      ("total", "total"), ("zero-terminated", "z")]
    valued := ["output-delimiter"] }
  withCall o args fun call => do
    if call.has "total" || call.has "z" then throw (.unsupported "comm")
    match call.operands with
    | [] => missingOperand
    | [x] => misused 1 ("missing operand after " ++ curved x)
    | [p, q] =>
      match ← textOf p, ← textOf q with
      | .error fault, _ =>
        plainRefusal p fault
        return 1
      | _, .error fault =>
        plainRefusal q fault
        return 1
      | .ok a, .ok b =>
        let as := linesOf a
        let bs := linesOf b
        let tab := (call.value? "output-delimiter").getD "\t"
        let second := if call.has "1" then "" else tab
        let third := second ++ if call.has "2" then "" else tab
        for line in sideBySide (as.length + bs.length + 1) as bs do
          match line with
          | .first x => if !call.has "1" then out (x ++ "\n")
          | .second x => if !call.has "2" then out (second ++ x ++ "\n")
          | .both x => if !call.has "3" then out (third ++ x ++ "\n")
        if call.has "nocheck-order" || (isSorted as && isSorted bs) then return 0
        if !isSorted as then complain "file 1 is not in sorted order"
        if !isSorted bs then complain "file 2 is not in sorted order"
        complain "input is not in sorted order"
        return 1
    | _ :: _ :: x :: _ => extraOperand x

/-- The fields of a line, between separators or between blanks. -/
def plainFields (separator : Option Char) (line : String) : List String :=
  match separator with
  | some c => Text.splitAt c line
  | none => (Text.splitAt ' ' (String.ofList (line.toList.map fun c => if c == '\t' then ' ' else c))).filter (· != "")

/-- Joins lines of two texts that agree in a field. -/
def join : Utility := fun _ args =>
  let o : Options := {
    short := "a:e:i1:2:j:o:t:v:z"
    long := [("ignore-case", "i"), ("check-order", "check-order"), ("nocheck-order", "nocheck-order"), ("header", "header")] }
  withCall o args fun call => do
    if ["e", "i", "o", "z", "header"].any call.has then throw (.unsupported "join")
    match call.operands with
    | [p, q] =>
      match ← textOf p, ← textOf q with
      | .error fault, _ =>
        plainRefusal p fault
        return 1
      | _, .error fault =>
        plainRefusal q fault
        return 1
      | .ok a, .ok b =>
        let separator := (call.value? "t").bind fun t => t.toList.head?
        let number := fun (key : String) => ((call.value? key).orElse fun _ => call.value? "j").bind String.toNat? |>.getD 1
        let rows := fun (text : String) (n : Nat) => (linesOf text).map fun line =>
          let fields := plainFields separator line
          ((fields[n - 1]?).getD "", fields.eraseIdx (n - 1))
        let as := rows a (number "1")
        let bs := rows b (number "2")
        let glue := match separator with | some c => String.singleton c | none => " "
        let show_ := fun (fields : List String) => glue.intercalate fields ++ "\n"
        let asked := fun (n : String) => call.options.any fun o => (o.1 == "a" || o.1 == "v") && o.2 == some n
        let pairs := !call.has "v"
        let lefts := as.flatMap fun (key, rest) =>
          let partners := bs.filter fun r => r.1 == key
          if partners.isEmpty then (if asked "1" then [(key, show_ (key :: rest))] else [])
          else if pairs then partners.map fun r => (key, show_ (key :: rest ++ r.2))
          else []
        let rights := if asked "2" then
            (bs.filter fun r => (as.lookup r.1).isNone).map fun (key, rest) => (key, show_ (key :: rest))
          else []
        let all := (lefts ++ rights).mergeSort fun a b => decide (a.1 ≤ b.1)
        out (String.join (all.map (·.2)))
        return 0
    | [] => missingOperand
    | [x] => misused 1 ("missing operand after " ++ curved x)
    | _ :: _ :: x :: _ => extraOperand x

end Toolwrap.Shell.Utility
