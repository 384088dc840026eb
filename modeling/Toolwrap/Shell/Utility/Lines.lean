import Toolwrap.Shell.Utility.File
/-!
Programs that pass lines on: all of them, the first or the last ones, in reverse, with numbers, or only
how many there are.
-/
namespace Toolwrap.Shell.Utility

/-- A number with blanks in front, up to a width. -/
def padLeft (width : Nat) (s : String) : String :=
  String.ofList (List.replicate (width - s.length) ' ') ++ s

/-! Whole texts. -/

/-- A character that cannot be seen, with a caret or with the letter for the upper half of the bytes. -/
def visibleByte (b : Nat) : List Char :=
  if b < 32 then ['^', Char.ofNat (b + 64)]
  else if b < 127 then [Char.ofNat b]
  else if b == 127 then ['^', '?']
  else
    'M' :: '-' ::
      (if b < 160 then ['^', Char.ofNat (b - 128 + 64)]
      else if b < 255 then [Char.ofNat (b - 128)]
      else ['^', '?'])

/-- What is shown of the characters of a line. -/
structure Visibility where
  marks : Bool
  tabs : Bool
  ends : Bool

def Visibility.line (v : Visibility) (line : List Char) : List Char :=
  line.flatMap fun c =>
    if c == '\t' then (if v.tabs then ['^', 'I'] else ['\t'])
    else if v.marks then (Text.bytesOf c).flatMap visibleByte
    else [c]

/-- Lines with their ends, numbered from one on; of empty lines behind each other only one is kept if they
are to be squeezed. -/
def catLines (v : Visibility) (numbers nonempty squeeze : Bool) :
    Nat → Bool → List (List Char × Bool) → List Char × Nat
  | n, _, [] => ([], n)
  | n, wasEmpty, (line, closed) :: rest =>
    let isEmpty := line.isEmpty && closed
    if squeeze && isEmpty && wasEmpty then catLines v numbers nonempty squeeze n true rest
    else
      let counts := if nonempty then !isEmpty else numbers
      let lead := if counts then (padLeft 6 (toString n) ++ "\t").toList else []
      let (more, last) := catLines v numbers nonempty squeeze (if counts then n + 1 else n) isEmpty rest
      (lead ++ v.line line ++ (if closed then (if v.ends then ['$', '\n'] else ['\n']) else []) ++ more, last)

def cat : Utility := fun _ args =>
  let o : Options := {
    short := "benstuvAET"
    long := [("number-nonblank", "b"), ("number", "n"), ("squeeze-blank", "s"), ("show-nonprinting", "v"),
      ("show-ends", "E"), ("show-tabs", "T"), ("show-all", "A")] }
  withCall o args fun call => do
    let all := call.has "A"
    let v : Visibility := {
      marks := call.has "v" || all || call.has "e" || call.has "t"
      tabs := call.has "T" || all || call.has "t"
      ends := call.has "E" || all || call.has "e" }
    let changes := v.marks || v.tabs || v.ends || call.has "b" || call.has "n" || call.has "s"
    let mut code := 0
    let mut joined : List Char := []
    for path in (if call.operands.isEmpty then ["-"] else call.operands) do
      if path == "-" && (← get).channel 0 == .closed then
        complain "-: Bad file descriptor"
        complain "closing standard input: Bad file descriptor"
        code := 1
      else
        match ← textOf path with
        | .ok text =>
          if changes then joined := joined ++ text.toList else out text
        | .error fault =>
          plainRefusal path fault
          code := 1
    if changes then
      out (String.ofList (catLines v (call.has "n") (call.has "b") (call.has "s") 1 false (closedLines '\n' joined)).1)
    return code

/-! Parts of texts. -/

/-- Which part of a text is meant: a number of lines or bytes, from the beginning or from the end. -/
structure Extent where
  bytes : Bool := false
  count : Nat := 10
  /-- a sign in front that turns the meaning around -/
  turned : Bool := false

/-- An extent that is given as text, behind the sign that turns it. -/
def extent? (bytes : Bool) (turning other : Char) (s : String) : Option Extent :=
  match s.toList with
  | c :: cs =>
    if c == turning then (sizeNumber? (String.ofList cs)).map fun n => ⟨bytes, n, true⟩
    else if c == other then (sizeNumber? (String.ofList cs)).map fun n => ⟨bytes, n, false⟩
    else (sizeNumber? s).map fun n => ⟨bytes, n, false⟩
  | [] => none

/-- Lines with their ends. -/
def wholeLines (stop : Char) (s : String) : List (List Char) :=
  (closedLines stop s.toList).map fun (line, closed) => if closed then line ++ [stop] else line

namespace Extent

/-- The first items, or all but the last ones. -/
def front {α : Type} (e : Extent) (xs : List α) : List α :=
  xs.take (if e.turned then xs.length - e.count else e.count)

/-- The last items, or those from a number on. -/
def back {α : Type} (e : Extent) (xs : List α) : List α :=
  xs.drop (if e.turned then e.count - 1 else xs.length - e.count)

/-- The part of a text. -/
def of (e : Extent) (fromEnd : Bool) (stop : Char) (s : String) : String :=
  if e.bytes then
    let bs := Text.bytes s.toList
    String.ofList (Text.ofBytes (if fromEnd then e.back bs else e.front bs))
  else
    let ls := wholeLines stop s
    String.ofList (if fromEnd then e.back ls else e.front ls).flatten

end Extent

/-- The old way to write a number of lines, as an option of its own. -/
def modernized (args : List String) : List String :=
  match args with
  | first :: rest =>
    match first.toList with
    | '-' :: c :: cs =>
      if c.isDigit then
        let digits := (c :: cs).takeWhile Char.isDigit
        let letters := (c :: cs).drop digits.length
        let n := String.ofList digits
        if letters.isEmpty then "-n" :: n :: rest
        else if letters == ['c'] then "-c" :: n :: rest
        else if letters.all (· ∈ ['q', 'v']) then "-n" :: n :: ("-" ++ String.ofList letters) :: rest
        else args
      else args
    | _ => args
  | [] => []

/-- Shows a part of each text, under a head if there are several. -/
def showParts (fromEnd : Bool) : Utility := fun _ args =>
  let o : Options := {
    short := if fromEnd then "c:n:fF:qs:vz" else "c:n:qvz"
    long := [("bytes", "c"), ("lines", "n"), ("quiet", "q"), ("silent", "q"), ("verbose", "v"), ("zero-terminated", "z")] ++
      if fromEnd then [("follow", "follow"), ("retry", "F"), ("pid", "pid"), ("sleep-interval", "s")] else []
    optionally := ["follow"], valued := ["pid"] }
  withCall o (modernized args) fun call => do
    if call.has "f" || call.has "F" || call.has "follow" then throw (.unsupported "tail -f")
    let kind := call.last? ["c", "n"]
    let bytes := kind == some "c"
    let given := kind.bind call.value?
    let turning := if fromEnd then '+' else '-'
    let other := if fromEnd then '-' else '+'
    match given.map fun g => (g, extent? bytes turning other g) with
    | some (g, none) =>
      fail 1 ("invalid number of " ++ (if bytes then "bytes" else "lines") ++ ": " ++ curved g)
    | found =>
      let e := ((found.bind (·.2)).getD {})
      let paths := if call.operands.isEmpty then ["-"] else call.operands
      let headed := match call.last? ["q", "v"] with
        | some "v" => true
        | some _ => false
        | none => 1 < paths.length
      let mut code := 0
      let mut first := true
      for path in paths do
        let shown := if path == "-" then "standard input" else path
        let before := if headed then (if first then "" else "\n") ++ "==> " ++ shown ++ " <==\n" else ""
        match ← textOf path with
        | .ok text =>
          out before
          first := false
          let s ← get
          let isFile := match s.channel 0 with | .text n => s.fromFiles.contains n | _ => false
          if path == "-" && isFile && !fromEnd && !e.turned then
            -- what is not shown of a file is left for others
            let taken := e.of false (if call.has "z" then '\x00' else '\n') text
            out taken
            modify fun s => s.leave (s.channel 0) (String.ofList (text.toList.drop taken.length))
          else out (e.of fromEnd (if call.has "z" then '\x00' else '\n') text)
        | .error .isDirectory =>
          out before
          first := false
          complain ("error reading " ++ quotedName shown ++ ": Is a directory")
          code := 1
        | .error fault =>
          complain ("cannot open " ++ quotedName path ++ " for reading: " ++ fault.message)
          code := 1
      return code

/-- The lines of each text, the last one first. -/
def reverseLines : Utility := fun _ args =>
  let o : Options := {
    short := "brs:", long := [("before", "b"), ("regex", "r"), ("separator", "s")] }
  withCall o args fun call => do
    if call.has "b" || call.has "r" then throw (.unsupported "tac")
    let stop := ((call.value? "s").bind fun s => if s.length == 1 then s.toList.head? else none)
    if call.has "s" && stop.isNone then throw (.unsupported "tac -s")
    let (found, worked) ← texts call.operands fun path fault =>
      match fault with
      | .isDirectory => complain (shownFile path ++ ": read error: Is a directory")
      | fault => complain ("failed to open " ++ quotedName path ++ " for reading: " ++ fault.message)
    for (_, text) in found do
      out (String.ofList (wholeLines (stop.getD '\n') text).reverse.flatten)
    return if worked then 0 else 1

/-- The characters of each line in reverse. -/
def reverseCharacters : Utility := fun _ args =>
  withCall { short := "0", long := [("zero", "0")] } args fun call => do
    let (found, worked) ← texts call.operands fun path fault =>
      match fault with
      | .isDirectory => complain (path ++ ": Is a directory")
      | fault => complain ("cannot open " ++ path ++ ": " ++ fault.message)
    for (_, text) in found do
      out (String.join ((closedLines '\n' text.toList).map fun (line, closed) =>
        String.ofList line.reverse ++ if closed then "\n" else ""))
    return if worked then 0 else 1

/-! Counts. -/

/-- What there is in a text. -/
structure Counts where
  lines : Nat := 0
  words : Nat := 0
  chars : Nat := 0
  bytes : Nat := 0
  longest : Nat := 0

/-- Blanks between words. -/
def endsWord (c : Char) : Bool :=
  c == ' ' || (9 ≤ c.toNat && c.toNat ≤ 13) || (128 ≤ c.toNat && Text.isBlank c)

def wordCount : Bool → List Char → Nat
  | _, [] => 0
  | inWord, c :: rest =>
    if endsWord c then wordCount false rest
    else if Requoted.isShown c then (if inWord then 0 else 1) + wordCount true rest
    else wordCount inWord rest

/-- The width of a line: tabs go on to the next eighth place. -/
def lineWidth (line : List Char) : Nat :=
  line.foldl (fun n c => if c == '\t' then n + (8 - n % 8) else if Requoted.isShown c then n + 1 else n) 0

def countsOf (text : String) : Counts :=
  let cs := text.toList
  { lines := (cs.filter (· == '\n')).length
    words := wordCount false cs
    chars := (cs.filter fun c => !Text.isLoose c).length
    bytes := (Text.bytes cs).length
    longest := ((closedLines '\n' cs).map fun l => lineWidth l.1).foldl max 0 }

def Counts.plus (a b : Counts) : Counts :=
  ⟨a.lines + b.lines, a.words + b.words, a.chars + b.chars, a.bytes + b.bytes, max a.longest b.longest⟩

def count : Utility := fun _ args =>
  let o : Options := {
    short := "clLmw"
    long := [("bytes", "c"), ("chars", "m"), ("lines", "l"), ("words", "w"), ("max-line-length", "L"),
      ("files0-from", "files0-from"), ("total", "total")]
    valued := ["files0-from", "total"] }
  withCall o args fun call => do
    if call.has "files0-from" || call.has "total" then throw (.unsupported "wc")
    let none_ := ["c", "m", "l", "w", "L"].all (!call.has ·)
    let shown := fun (c : Counts) =>
      (if call.has "l" || none_ then [c.lines] else []) ++ (if call.has "w" || none_ then [c.words] else []) ++
        (if call.has "m" then [c.chars] else []) ++ (if call.has "c" || none_ then [c.bytes] else []) ++
        (if call.has "L" then [c.longest] else [])
    let paths := if call.operands.isEmpty then ["-"] else call.operands
    let s ← get
    let isRegular := fun (path : String) =>
      match s.entryAt? path with
      | some (.file _ _) => true
      | some .directory => false
      | none => path == "-" && (match s.channel 0 with | .text n => s.fromFiles.contains n | _ => false)
    let sizes := paths.map fun path =>
      match s.entryAt? path with
      | some (.file text _) => (Text.bytes text.toList).length
      | _ => if path == "-" then (Text.bytes (s.input (s.channel 0)).toList).length else 0
    let present := paths.filter fun p => p == "-" || (s.entryAt? p).isSome || (deviceOf? s p).isSome
    let width :=
      if paths.length == 1 && (shown {}).length == 1 then 1
      else
        let digits := (toString (sizes.foldl (· + ·) 0)).length
        if present.all isRegular then digits else max 7 digits
    let row := fun (c : Counts) (label : String) =>
      out (" ".intercalate ((shown c).map fun n => padLeft width (toString n)) ++ label ++ "\n")
    let mut total : Counts := {}
    let mut code := 0
    for path in paths do
      let label := if call.operands.isEmpty then "" else " " ++ path
      match ← textOf path with
      | .ok text =>
        let c := countsOf text
        total := total.plus c
        row c label
      | .error .isDirectory =>
        complain (shownFile path ++ ": Is a directory")
        row {} label
        code := 1
      | .error fault =>
        plainRefusal path fault
        code := 1
    if 1 < paths.length then row total " total"
    return code

/-- Lines with numbers in front. -/
def number : Utility := fun _ args =>
  let o : Options := {
    short := "b:d:f:h:i:l:n:ps:v:w:"
    long := [("body-numbering", "b"), ("number-separator", "s"), ("starting-line-number", "v"), ("number-width", "w"),
      ("line-increment", "i"), ("number-format", "n")] }
  withCall o args fun call => do
    if ["d", "f", "h", "l", "p"].any call.has then throw (.unsupported "nl")
    let style := (call.value? "b").getD "t"
    if style ∉ ["t", "a", "n"] then throw (.unsupported "nl -b")
    let natural := fun (key : String) (default : Nat) => ((call.value? key).bind String.toNat?).getD default
    let width := natural "w" 6
    let separator := (call.value? "s").getD "\t"
    let format := (call.value? "n").getD "rn"
    let shown := fun (n : Nat) =>
      let digits := toString n
      let missing := width - digits.length
      if format == "ln" then digits ++ String.ofList (List.replicate missing ' ')
      else if format == "rz" then String.ofList (List.replicate missing '0') ++ digits
      else padLeft width digits
    let (found, worked) ← texts call.operands plainRefusal
    let lines := closedLines '\n' (found.flatMap (·.2.toList))
    let mut n := natural "v" 1
    for (line, _) in lines do
      if style == "a" || (style == "t" && !line.isEmpty) then
        out (shown n ++ separator ++ String.ofList line ++ "\n")
        n := n + natural "i" 1
      else out (String.ofList (List.replicate (width + separator.length) ' ') ++ String.ofList line ++ "\n")
    return if worked then 0 else 1

end Toolwrap.Shell.Utility
