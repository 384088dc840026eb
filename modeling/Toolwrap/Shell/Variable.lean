import Toolwrap.Text.Bytes
/-!
Variables of the shell: what they hold, how they are marked, and the order in which a table of them is
listed. The order is that of a hash of the names, so it does not depend on the order in which the names
were given, but for names that share a bucket.
-/
namespace Toolwrap.Shell

/-- What a variable holds. One that is only declared counts as not set. -/
inductive Content where
  | declared
  | text (s : String)
  /-- the items of an array by their indices, in ascending order -/
  | items (xs : List (Nat × String))
  /-- the items of an array by their keys, the newest first -/
  | table (xs : List (String × String))
deriving DecidableEq, Repr

structure Variable where
  content : Content
  exported : Bool := false
  /-- it keeps its value -/
  fixed : Bool := false
  /-- a value that it is given is an arithmetic expression -/
  integer : Bool := false
  /-- letters of a value that it is given become upper or lower case -/
  casing : Option Bool := none
  /-- the value is the name of another variable -/
  reference : Bool := false
deriving DecidableEq, Repr

abbrev Scope := List (String × Variable)

/-- The hash of a name, from its bytes. -/
def nameHash (name : String) : Nat :=
  (Text.bytes name.toList).foldl (fun h b =>
    let low := h * 16777619 % Nat.pow 2 32
    low ^^^ (if b < 128 then b else Nat.pow 2 32 - 256 + b)) 2166136261

/-- Entries in the order of their buckets; in a bucket they keep their order. -/
def inBuckets {α : Type} (buckets : Nat) (entries : List (String × α)) : List (String × α) :=
  entries.mergeSort fun a b => decide (nameHash a.1 % buckets ≤ nameHash b.1 % buckets)

namespace Content

/-- The number of buckets of a table. -/
def buckets : Nat := 1024

/-- The values with their keys, in the order in which they are listed. -/
def entries : Content → List (String × String)
  | declared => []
  | text s => [("0", s)]
  | items xs => xs.map fun (n, s) => (toString n, s)
  | table xs => inBuckets buckets xs

/-- The value where one is needed: of an array, the item with the index zero. -/
def value? : Content → Option String
  | declared => none
  | text s => some s
  | items xs => xs.lookup 0
  | table xs => xs.lookup "0"

def list : Content → List (Nat × String)
  | declared => []
  | text s => [(0, s)]
  | items xs => xs
  | table _ => []

def isArray : Content → Bool
  | items _ => true
  | table _ => true
  | _ => false

/-- Sets an item, keeping the indices in order. -/
def insert (xs : List (Nat × String)) (n : Nat) (s : String) : List (Nat × String) :=
  xs.takeWhile (·.1 < n) ++ (n, s) :: xs.dropWhile (·.1 ≤ n)

/-- Sets an item of a table; one that is new is the newest. -/
def tabulate (xs : List (String × String)) (key s : String) : List (String × String) :=
  if (xs.lookup key).isSome then xs.map fun (k, v) => (k, if k = key then s else v)
  else (key, s) :: xs

def nextIndex (xs : List (Nat × String)) : Nat := ((xs.getLast?).map (·.1 + 1)).getD 0

end Content

namespace Scope

/-- Changes the first entry with a key, or adds one in front. -/
def put (scope : Scope) (x : String) (v : Variable) : Scope :=
  match scope with
  | [] => [(x, v)]
  | (y, w) :: rest => if y = x then (x, v) :: rest else (y, w) :: put rest x v

/-- Puts a variable into the innermost scope that has it, or else into the outermost one. -/
def putIn (x : String) (v : Variable) : List Scope → List Scope
  | [] => [[(x, v)]]
  | [globals] => [globals.put x v]
  | scope :: rest =>
    if (scope.lookup x).isSome then scope.put x v :: rest else scope :: putIn x v rest

/-- Removes a variable from the scope that has it. In the scope of the running function it stays
declared, so that it hides one outside. -/
def unsetIn (x : String) (own : Bool) : List Scope → List Scope
  | [] => []
  | [globals] => [globals.filter fun v => v.1 != x]
  | scope :: rest =>
    if (scope.lookup x).isSome then
      (if own then scope.put x { content := .declared } else scope.filter fun v => v.1 != x) :: rest
    else scope :: unsetIn x false rest

/-- The number of buckets of a scope of a function or a command. -/
def innerBuckets : Nat := 4

/-- The exported variables with their values, those of inner scopes first. -/
def exportsOf (hidden : List String) : List Scope → List (String × String)
  | [] => []
  | scope :: rest =>
    let visible := scope.filter fun v => !hidden.contains v.1
    let given := visible.filterMap fun (x, v) =>
      if v.exported then v.content.value?.map (x, ·) else none
    inBuckets (if rest.isEmpty then Content.buckets else innerBuckets) given.reverse ++
      exportsOf (hidden ++ scope.map (·.1)) rest

end Scope

end Toolwrap.Shell
