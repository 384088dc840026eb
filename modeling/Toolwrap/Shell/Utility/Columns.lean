import Toolwrap.Shell.Utility.Lines
/-!
Programs that work on columns: they cut them out of lines, paste them together, and break lines that
are too long. Characters that take several bytes count as that many columns.
-/
namespace Toolwrap.Shell.Utility

/-! Parts of lines. -/

/-- Positions from a first to a last one, or to the end of the line. -/
structure Span where
  first : Nat
  last : Option Nat
deriving DecidableEq

def Span.holds (s : Span) (n : Nat) : Bool := s.first ≤ n && s.last.all (n ≤ ·)

/-- What is wrong with a list of positions. -/
inductive SpanFault where
  | value (s : String)
  | zero
  | decreasing
  | noEndpoint

def SpanFault.message (ofFields : Bool) : SpanFault → String
  | value s =>
    if ofFields then "invalid field value " ++ curved s else "invalid byte or character range"
  | zero => if ofFields then "fields are numbered from 1" else "byte/character positions are numbered from 1"
  | decreasing => "invalid decreasing range"
  | noEndpoint => "invalid range with no endpoint: -"

def spanOf (item : String) : Except SpanFault Span :=
  let number := fun (s : List Char) => if s.all Char.isDigit then some (numberIn 10 s) else none
  let cs := item.toList
  let left := cs.takeWhile (· != '-')
  match cs.drop left.length with
  | [] =>
    match number left with
    | some 0 => .error .zero
    | some n => if left.isEmpty then .error .zero else .ok ⟨n, some n⟩
    | none => .error (.value item)
  | _ :: right =>
    match number left, number right with
    | some m, some n =>
      if left.isEmpty && right.isEmpty then .error .noEndpoint
      else if (!left.isEmpty && m == 0) || (!right.isEmpty && n == 0) then .error .zero
      else if right.isEmpty then .ok ⟨m, none⟩
      else if n < max 1 m then .error .decreasing
      else .ok ⟨max 1 m, some n⟩
    | _, _ => .error (.value item)

def spansOf (s : String) : Except SpanFault (List Span) :=
  (Text.splitAt ',' (String.ofList (s.toList.map fun c => if c == ' ' || c == '\t' then ',' else c))).mapM spanOf

/-- Whether a position is wanted. -/
def isWanted (spans : List Span) (complement : Bool) (n : Nat) : Bool :=
  spans.any (·.holds n) != complement

/-- Items with their positions, in runs that belong to one span each. -/
def wantedRuns {α : Type} (spans : List Span) (complement : Bool) (xs : List α) : List (List α) :=
  let marked := xs.zipIdx.map fun (x, i) =>
    (x, isWanted spans complement (i + 1), complement == false && spans.any fun s => s.first == i + 1)
  go marked
where
  go : List (α × Bool × Bool) → List (List α)
    | [] => []
    | (_, false, _) :: rest => go rest
    | (x, true, _) :: (y, true, false) :: rest =>
      match go ((y, true, false) :: rest) with
      | run :: more => (x :: run) :: more
      | [] => [[x]]
    | (x, true, _) :: rest => [x] :: go rest

def cut : Utility := fun _ args =>
  let o : Options := {
    short := "b:c:d:f:nsz"
    long := [("bytes", "b"), ("characters", "c"), ("delimiter", "d"), ("fields", "f"), ("only-delimited", "s"),
      ("output-delimiter", "output-delimiter"), ("complement", "complement"), ("zero-terminated", "z")]
    valued := ["output-delimiter"] }
  withCall o args fun call => do
    let lists := call.options.filter fun o => o.1 ∈ ["b", "c", "f"]
    match lists, call.value? "d" with
    | [], _ => misused 1 "you must specify a list of bytes, characters, or fields"
    | _ :: _ :: _, _ => misused 1 "only one list may be specified"
    | [(kind, list)], delimiter =>
      let ofFields := kind == "f"
      match spansOf (list.getD ""), delimiter.filter fun d => 1 < (Text.bytes d.toList).length with
      | _, some _ => misused 1 "the delimiter must be a single character"
      | .error fault, none => misused 1 (fault.message ofFields)
      | .ok spans, none =>
        if !ofFields && delimiter.isSome then
          return ← misused 1 "an input delimiter may be specified only when operating on fields"
        if !ofFields && call.has "s" then
          return ← misused 1
            "suppressing non-delimited lines makes sense\n\tonly when operating on fields"
        let complement := call.has "complement"
        let stop := if call.has "z" then '\x00' else '\n'
        let separator := ((delimiter.getD "\t").toList.headD '\x00')
        let glue := call.value? "output-delimiter"
        let (found, worked) ← texts call.operands plainRefusal
        for (_, text) in found do
          for (line, _) in closedLines stop text.toList do
            if ofFields then
              if line.contains separator then
                let fields := Text.Chars.splitAt separator line
                let wanted := (fields.zipIdx.filter fun (_, i) => isWanted spans complement (i + 1)).map (·.1)
                out (String.ofList ((glue.getD (String.singleton separator)).toList.intercalate wanted) ++ String.singleton stop)
              else if !call.has "s" then out (String.ofList line ++ String.singleton stop)
            else
              let runs := wantedRuns spans complement (Text.bytes line)
              let text := ((glue.getD "").toList.flatMap Text.bytesOf).intercalate runs
              out (String.ofList (Text.ofBytes text) ++ String.singleton stop)
        return if worked then 0 else 1

/-! Lines side by side. -/

/-- The delimiters that a text with escapes lists. -/
def delimitersOf : List Char → List String
  | '\\' :: c :: rest =>
    (match c with
      | 'n' => "\n"
      | 't' => "\t"
      | '0' => ""
      | c => String.singleton c) :: delimitersOf rest
  | c :: rest => String.singleton c :: delimitersOf rest
  | [] => []

/-- Items with delimiters between them, which are used in turn. -/
def joinedBy (delimiters : List String) (items : List String) : String :=
  String.join (items.zipIdx.map fun (x, i) =>
    (if i == 0 then "" else (delimiters[(i - 1) % max 1 delimiters.length]?).getD "") ++ x)

/-- The lines that several readers of one input get in turn. -/
def dealt (readers : Nat) (lines : List String) (n : Nat) : List String :=
  (lines.zipIdx.filter fun (_, i) => i % readers == n).map (·.1)

def paste : Utility := fun _ args =>
  let o : Options := {
    short := "d:sz", long := [("delimiters", "d"), ("serial", "s"), ("zero-terminated", "z")] }
  withCall o args fun call => do
    let stop := if call.has "z" then '\x00' else '\n'
    let delimiters := delimitersOf ((call.value? "d").getD "\t").toList
    let delimiters := if delimiters.isEmpty then [""] else delimiters
    let paths := if call.operands.isEmpty then ["-"] else call.operands
    let readers := (paths.filter (· == "-")).length
    let input ← if readers == 0 then pure [] else do
      pure (piecesOf stop (← Run.takeInput))
    let mut columns := []
    let mut seen := 0
    let mut code := 0
    for path in paths do
      if path == "-" then
        columns := columns ++ [if call.has "s" then (if seen == 0 then input else []) else dealt readers input seen]
        seen := seen + 1
      else
        match ← textOf path with
        | .ok text => columns := columns ++ [piecesOf stop text]
        | .error fault =>
          plainRefusal path fault
          if !call.has "s" then return 1
          code := 1
    if call.has "s" then
      for column in columns do out (joinedBy delimiters column ++ String.singleton stop)
    else
      let rows := (columns.map (·.length)).foldl max 0
      for n in List.range rows do
        out (joinedBy delimiters (columns.map fun column => (column[n]?).getD "") ++ String.singleton stop)
    return code

/-! Long lines. -/

/-- The column behind a byte. -/
def columnBehind (bytes : Bool) (column b : Nat) : Nat :=
  if bytes then column + 1
  else if b == 8 then column - 1
  else if b == 13 then 0
  else if b == 9 then column + 8 - column % 8
  else column + 1

def columnsOf (bytes : Bool) (line : List Nat) : Nat := line.foldl (columnBehind bytes) 0

/-- Breaks a line before it gets too wide, if that is asked for behind a blank. The bytes of the current
piece are given last one first; the fuel bounds the number of steps. -/
def foldLine (bytes blanks : Bool) (width : Nat) : Nat → Nat → List Nat → List Nat → List (List Nat)
  | 0, _, current, rest => [current.reverse ++ rest]
  | _, _, current, [] => [current.reverse]
  | fuel + 1, column, current, b :: rest =>
    let next := columnBehind bytes column b
    if next ≤ width || current.isEmpty then foldLine bytes blanks width fuel next (b :: current) rest
    else
      let isBlank := fun (b : Nat) => b == 32 || b == 9
      let tail := if blanks && current.any isBlank then current.takeWhile fun b => !isBlank b else []
      let kept := current.drop tail.length
      kept.reverse :: foldLine bytes blanks width fuel (columnsOf bytes tail.reverse) tail (b :: rest)

def fold : Utility := fun _ args =>
  let o : Options := {
    short := "bsw:", long := [("bytes", "b"), ("spaces", "s"), ("width", "w")] }
  let args := match args with
    | first :: rest =>
      match first.toList with
      | '-' :: c :: cs => if (c :: cs).all Char.isDigit then ("-w" ++ String.ofList (c :: cs)) :: rest else args
      | _ => args
    | [] => []
  withCall o args fun call => do
    match (call.value? "w").map fun w => (w, w.toNat?) with
    | some (w, none) => fail 1 ("invalid number of columns: " ++ curved w)
    | some (w, some 0) => fail 1 ("invalid number of columns: " ++ curved w)
    | given =>
      let width := (given.bind (·.2)).getD 80
      let (found, worked) ← texts call.operands plainRefusal
      for (_, text) in found do
        for (line, closed) in closedLines '\n' text.toList do
          let bs := Text.bytes line
          let pieces := foldLine (call.has "b") (call.has "s") width (2 * bs.length + 2) 0 [] bs
          out (String.ofList (Text.ofBytes ([10].intercalate pieces)) ++ if closed then "\n" else "")
      return if worked then 0 else 1

/-- A line with blanks in place of tabs; with `leading`, only those in front. -/
def expandTabs (size : Nat) (leading : Bool) : Nat → List Char → List Char
  | _, [] => []
  | column, c :: rest =>
    if c == '\t' then
      let n := size - column % size
      List.replicate n ' ' ++ expandTabs size leading (column + n) rest
    else if leading && c != ' ' then c :: rest
    else c :: expandTabs size leading (column + (Text.bytesOf c).length) rest

def expand : Utility := fun _ args =>
  let o : Options := { short := "it:", long := [("initial", "i"), ("tabs", "t")] }
  let modern := args.flatMap fun a =>
    match a.toList with
    | '-' :: c :: cs => if (c :: cs).all Char.isDigit then ["-t", String.ofList (c :: cs)] else [a]
    | _ => [a]
  withCall o modern fun call => do
    match (call.value? "t").map fun t => (t, t.toNat?) with
    | some (_, none) => throw (.unsupported "expand -t")
    | some (_, some 0) => fail 1 "tab size cannot be 0"
    | given =>
      let size := (given.bind (·.2)).getD 8
      let (found, worked) ← texts call.operands plainRefusal
      for (_, text) in found do
        for (line, closed) in closedLines '\n' text.toList do
          out (String.ofList (expandTabs size (call.has "i") 0 line) ++ if closed then "\n" else "")
      return if worked then 0 else 1

/-! Characters by sets. -/

/-- What is wrong with a set of bytes. -/
inductive SetFault where
  | reversed (a b : Nat)
  | unknownClass (name : String)

def SetFault.message : SetFault → String
  | reversed a b =>
    "range-endpoints of '" ++ String.ofList (shown a) ++ "-" ++ String.ofList (shown b) ++
      "' are in reverse collating sequence order"
  | unknownClass name => "invalid character class " ++ curved name
where
  shown (b : Nat) : List Char := if 32 ≤ b && b < 127 then [Char.ofNat b] else '\\' :: Requoted.octalText b

/-- Members of a set: bytes, or a byte that fills it up. -/
inductive SetItem where
  | bytes (bs : List Nat)
  | fill (b : Nat)

/-- The byte that an escape stands for, and what follows. -/
def setByte : List Nat → Option (Nat × List Nat)
  | 92 :: c :: rest =>
    let isOctalByte := fun (b : Nat) => 48 ≤ b && b < 56
    if isOctalByte c then
      let digits := ((c :: rest).take 3).takeWhile isOctalByte
      let n := digits.foldl (fun n d => 8 * n + (d - 48)) 0
      if 255 < n then
        some (digits.dropLast.foldl (fun n d => 8 * n + (d - 48)) 0, (c :: rest).drop (digits.length - 1))
      else some (n, (c :: rest).drop digits.length)
    else
      match Escape.letter? (Char.ofNat c) with
      | some d => some (d.toNat, rest)
      | none => some (c, rest)
  | [92] => some (92, [])
  | c :: rest => some (c, rest)
  | [] => none

/-- The bytes of a named class. -/
def classBytes (name : String) : List Nat :=
  (List.range 128).filter fun b => inClass name (Char.ofNat b)

def setClasses : List String :=
  ["alnum", "alpha", "blank", "cntrl", "digit", "graph", "lower", "print", "punct", "space", "upper", "xdigit"]

/-- The members of a set, in order. The fuel bounds their number. -/
def setItems : Nat → List Nat → Except SetFault (List SetItem)
  | 0, _ => .ok []
  | _, [] => .ok []
  | fuel + 1, s => do
    match s with
    | 91 :: 58 :: rest =>
      let name := rest.takeWhile (· != 58)
      match rest.drop name.length with
      | 58 :: 93 :: after =>
        let text := String.ofList (Text.ofBytes name)
        if !setClasses.contains text then throw (.unknownClass text)
        return .bytes (classBytes text) :: (← setItems fuel after)
      | _ => plain fuel s
    | 91 :: 61 :: c :: 61 :: 93 :: after => return .bytes [c] :: (← setItems fuel after)
    | 91 :: rest =>
      match setByte rest with
      | some (c, 42 :: after) =>
        let digits := after.takeWhile fun b => 48 ≤ b && b < 58
        match after.drop digits.length with
        | 93 :: after =>
          let base := if digits.head? == some 48 then 8 else 10
          let n := digits.foldl (fun n d => base * n + (d - 48)) 0
          return (if n == 0 then .fill c else .bytes (List.replicate n c)) :: (← setItems fuel after)
        | _ => plain fuel s
      | _ => plain fuel s
    | s => plain fuel s
where
  plain (fuel : Nat) (s : List Nat) : Except SetFault (List SetItem) := do
    match setByte s with
    | none => return []
    | some (a, 45 :: rest) =>
      match setByte rest with
      | some (b, after) =>
        if b < a then throw (.reversed a b)
        return .bytes ((List.range (b + 1 - a)).map (a + ·)) :: (← setItems fuel after)
      | none => return [.bytes [a], .bytes [45]]
    | some (a, rest) => return .bytes [a] :: (← setItems fuel rest)

/-- The bytes of a set, filled up to a size. -/
def setBytes (size : Nat) (items : List SetItem) : List Nat :=
  let fixed := items.foldl (fun n i => match i with | .bytes bs => n + bs.length | .fill _ => n) 0
  items.flatMap fun i =>
    match i with
    | .bytes bs => bs
    | .fill b => List.replicate (size - fixed) b

/-- Bytes of which runs of members of a set are one. -/
def squeezed (members : List Nat) : List Nat → List Nat
  | a :: b :: rest =>
    if a == b && members.contains a then squeezed members (b :: rest) else a :: squeezed members (b :: rest)
  | bs => bs

def translate : Utility := fun _ args =>
  let o : Options := {
    short := "cCdst"
    long := [("complement", "c"), ("delete", "d"), ("squeeze-repeats", "s"), ("truncate-set1", "t")], inFront := true }
  withCall o args fun call => do
    let deletes := call.has "d"
    let squeezes := call.has "s"
    let misusedWith := fun (message hintText : String) => do
      complain message
      Run.print 2 (hintText ++ "\n")
      hint
      return (1 : Nat)
    match call.operands with
    | [] => missingOperand
    | first :: others =>
      match deletes, squeezes, others with
      | _, _, _ :: x :: _ => extraOperand x
      | true, false, x :: _ =>
        misusedWith ("extra operand " ++ curved x) "Only one string may be given when deleting without squeezing repeats."
      | true, true, [] =>
        misusedWith ("missing operand after " ++ curved first)
          "Two strings must be given when both deleting and squeezing repeats."
      | false, false, [] =>
        misusedWith ("missing operand after " ++ curved first) "Two strings must be given when translating."
      | _, _, others =>
        let read := fun (s : String) => setItems (2 * s.utf8ByteSize + 1) (Text.bytes s.toList)
        match read first, read (others.headD "") with
        | .error fault, _ => fail 1 fault.message
        | _, .error fault => fail 1 fault.message
        | .ok items, .ok targets =>
          let members := setBytes 0 items
          let source := if call.has "c" || call.has "C" then (List.range 256).filter (!members.contains ·) else members
          let target := setBytes source.length targets
          let input := Text.bytes (← Run.takeInput).toList
          if !deletes && !others.isEmpty && target.isEmpty && !call.has "t" then
            return ← fail 1 "when not truncating set1, string2 must be non-empty"
          let kept := if deletes then input.filter (!source.contains ·) else input
          let changed :=
            if deletes || others.isEmpty then kept
            else
              let pairs := source.zipIdx.map fun (b, i) =>
                (b, match target[i]? with
                  | some t => t
                  | none => if call.has "t" then b else target.getLastD b)
              -- of equal members the last one counts
              let table := pairs.reverse
              kept.map fun b => (table.lookup b).getD b
          let shown :=
            if squeezes then squeezed (if others.isEmpty then source else target) changed else changed
          out (String.ofList (Text.ofBytes shown))
          return 0

end Toolwrap.Shell.Utility
