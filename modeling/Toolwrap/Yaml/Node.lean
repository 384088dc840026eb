import Toolwrap.Yaml.Lexer
import Toolwrap.Yaml.Plain
/-!
Nodes of a document: scalars, sequences and mappings, built from tokens. A place where a node is
missing holds an empty plain scalar. Nodes are numbered in the order in which they begin, and an alias
is another occurrence of the number of its anchor, so that a collection can be a part of itself.
-/
namespace Toolwrap.Yaml

/-- A node; the members of a collection are nodes by their numbers. -/
inductive Node where
  | scalar (kind : Kind) (text : String)
  | sequence (kind : Kind) (items : List Nat)
  | mapping (kind : Kind) (entries : List (Nat × Nat))
deriving Repr

def Node.kind : Node → Kind
  | .scalar kind _ => kind
  | .sequence kind _ => kind
  | .mapping kind _ => kind

/-- The node as one of another kind. -/
def Node.withKind (kind : Kind) : Node → Node
  | .scalar _ text => .scalar kind text
  | .sequence _ items => .sequence kind items
  | .mapping _ entries => .mapping kind entries

/-- The nodes of a document, and the number of the outermost one. -/
structure Document where
  nodes : Array Node
  root : Nat
deriving Repr

namespace Document

/-- The tokens that are left, what the handles of tags stand for, and what was read. -/
structure Reading where
  tokens : List Token
  /-- what the tokens break off at -/
  defect : Option Defect
  handles : List (String × String) := defaultHandles
  anchors : List (String × Nat) := []
  nodes : Array Node := #[]
  /-- how many collections are open -/
  depth : Nat := 0

abbrev Reader := StateT Reading Reads

/-- The next token, or nothing at the end of the text. -/
def peek? : Reader (Option Token) := do
  let r ← get
  match r.tokens, r.defect with
  | [], some defect => throw defect
  | ts, _ => return ts.head?

def skip : Reader Unit := modify fun r => { r with tokens := r.tokens.drop 1 }

/-- Passes a token that has to be there. -/
def pass (t : Token) : Reader Unit := do
  if (← peek?) == some t then skip else throw .malformed

/-- Whether the next token is one of some. -/
def before (ts : List Token) : Reader Bool := return (← peek?).any (· ∈ ts)

/-- What stands before a node. -/
structure Properties where
  anchor : Option String := none
  tag : Option String := none

/-- The tag that is meant, with what its handle stands for. -/
def meant (t : WrittenTag) : Reader String := do
  match t.handle with
  | none => return t.rest
  | some handle =>
    match (← get).handles.lookup handle with
    | some start => return start ++ t.rest
    | none => throw .malformed

def anchor? : Reader (Option String) := do
  match ← peek? with
  | some (.anchor a) => skip; return some a
  | _ => return none

def tag? : Reader (Option WrittenTag) := do
  match ← peek? with
  | some (.tag t) => skip; return some t
  | _ => return none

/-- An anchor and a tag, each at most once, in any order. -/
def properties : Reader Properties := do
  let early ← anchor?
  let tag ← tag?
  let late ← if early.isNone && tag.isSome then anchor? else pure none
  let tag ← tag.mapM meant
  return { anchor := early.orElse fun _ => late, tag }

/-- The tag that leaves the kind of a node to the node. -/
def openTag : String := "!"

/-- The kind of a collection: the one of its tag, or else the usual one. -/
def kindOf (usual : Kind) (tag : Option String) : Kind :=
  match tag with
  | none => usual
  | some t => if t == openTag then usual else Kind.ofTag t

/-- The kind of a scalar: without a tag, its text decides if it is plain. -/
def scalarKind (tag : Option String) (text : String) (plain : Bool) : Kind :=
  match tag with
  | none => if plain then Kind.ofPlain text else .str
  | some t => if t == openTag then Kind.ofPlain text else Kind.ofTag t

/-- The number of a new node, which aliases behind it can name. No name is given twice. -/
def add (own : Properties) (node : Node) : Reader Nat := do
  let r ← get
  let id := r.nodes.size
  match own.anchor with
  | none => set { r with nodes := r.nodes.push node }
  | some a =>
    if (r.anchors.lookup a).isSome then throw .malformed
    set { r with nodes := r.nodes.push node, anchors := (a, id) :: r.anchors }
  return id

def addScalar (own : Properties) (text : String) (plain : Bool) : Reader Nat :=
  add own (.scalar (scalarKind own.tag text plain) text)

/-- The node of a place that holds none. -/
def missing : Reader Nat := addScalar {} "" true

/-- The greatest number of collections inside each other. -/
def maxDepth : Nat := 488

/-- A collection, whose members are read when it has its number already. -/
def collection {α : Type} (own : Properties) (empty : Node) (members : Reader α) (full : α → Node) :
    Reader Nat := do
  let id ← add own empty
  if maxDepth ≤ (← get).depth then throw .impossible
  modify fun r => { r with depth := r.depth + 1 }
  let found ← members
  modify fun r => { r with depth := r.depth - 1, nodes := r.nodes.set! id (full found) }
  return id

def sequence (own : Properties) (items : Reader (List Nat)) : Reader Nat :=
  let kind := kindOf .seq own.tag
  collection own (.sequence kind []) items (.sequence kind)

def mapping (own : Properties) (entries : Reader (List (Nat × Nat))) : Reader Nat :=
  let kind := kindOf .map own.tag
  collection own (.mapping kind []) entries (.mapping kind)

/-- A node that has properties only. -/
def bare (own : Properties) : Reader Nat :=
  if own.anchor.isSome || own.tag.isSome then addScalar own "" true else throw .malformed

/-- What may stand at a place. -/
structure Allowed where
  /-- collections in block style -/
  block : Bool
  /-- entries of a sequence that is not indented -/
  entries : Bool := false

def inFlow : Allowed where
  block := false

def inBlock : Allowed where
  block := true

def inMapping : Allowed where
  block := true
  entries := true

mutual

def node : Nat → Allowed → Reader Nat
  | 0, _ => throw .malformed
  | fuel + 1, allowed => do
    match ← peek? with
    | some (.alias a) =>
      skip
      match (← get).anchors.lookup a with
      | some id => return id
      | none => throw .malformed
    | _ =>
      let own ← properties
      match ← peek? with
      | some (.scalar text plain) =>
        skip
        addScalar own text plain
      | some .flowSequence =>
        skip
        sequence own (flowItems fuel true)
      | some .flowMapping =>
        skip
        mapping own (flowEntries fuel true)
      | some .blockEntry => if allowed.entries then sequence own (looseItems fuel) else bare own
      | some .blockSequence =>
        if allowed.block then
          skip
          sequence own (blockItems fuel)
        else bare own
      | some .blockMapping =>
        if allowed.block then
          skip
          mapping own (blockEntries fuel)
        else bare own
      | _ => bare own

/-- A node that is missing, unless one of the tokens that cannot begin one follows. -/
def nodeUnless : Nat → Allowed → List Token → Reader Nat
  | 0, _, _ => throw .malformed
  | fuel + 1, allowed, ends => do
    if ← before ends then missing else node fuel allowed

def blockItems : Nat → Reader (List Nat)
  | 0 => throw .malformed
  | fuel + 1 => do
    if ← before [.blockEntry] then
      skip
      let item ← nodeUnless fuel inBlock [.blockEntry, .blockEnd]
      return item :: (← blockItems fuel)
    else
      pass .blockEnd
      return []

/-- The entries of a sequence that stands in a mapping without being indented. -/
def looseItems : Nat → Reader (List Nat)
  | 0 => throw .malformed
  | fuel + 1 => do
    if ← before [.blockEntry] then
      skip
      let item ← nodeUnless fuel inBlock [.blockEntry, .key, .value, .blockEnd]
      return item :: (← looseItems fuel)
    else return []

def blockEntries : Nat → Reader (List (Nat × Nat))
  | 0 => throw .malformed
  | fuel + 1 => do
    if ← before [.key] then
      skip
      let key ← nodeUnless fuel inMapping [.key, .value, .blockEnd]
      let value ← valueOf fuel inMapping [.key, .value, .blockEnd]
      return (key, value) :: (← blockEntries fuel)
    else
      pass .blockEnd
      return []

/-- The value behind a key, which may be missing together with its colon. -/
def valueOf : Nat → Allowed → List Token → Reader Nat
  | 0, _, _ => throw .malformed
  | fuel + 1, allowed, ends => do
    if ← before [.value] then
      skip
      nodeUnless fuel allowed ends
    else missing

def flowItems : Nat → Bool → Reader (List Nat)
  | 0, _ => throw .malformed
  | fuel + 1, first => do
    if ← before [.flowSequenceEnd] then
      skip
      return []
    if !first then pass .flowEntry
    if ← before [.flowSequenceEnd] then
      skip
      return []
    let item ←
      if ← before [.key] then do
        skip
        mapping {} (pairEntry fuel)
      else node fuel inFlow
    return item :: (← flowItems fuel false)

/-- The only entry of a mapping that stands in a sequence without braces. -/
def pairEntry : Nat → Reader (List (Nat × Nat))
  | 0 => throw .malformed
  | fuel + 1 => do
    let key ← nodeUnless fuel inFlow [.value, .flowEntry, .flowSequenceEnd]
    let value ← valueOf fuel inFlow [.flowEntry, .flowSequenceEnd]
    return [(key, value)]

def flowEntries : Nat → Bool → Reader (List (Nat × Nat))
  | 0, _ => throw .malformed
  | fuel + 1, first => do
    if ← before [.flowMappingEnd] then
      skip
      return []
    if !first then pass .flowEntry
    if ← before [.flowMappingEnd] then
      skip
      return []
    let entry ←
      if ← before [.key] then do
        skip
        let key ← nodeUnless fuel inFlow [.value, .flowEntry, .flowMappingEnd]
        let value ← valueOf fuel inFlow [.flowEntry, .flowMappingEnd]
        pure (key, value)
      else do
        let key ← node fuel inFlow
        pure (key, ← missing)
    return entry :: (← flowEntries fuel false)

end

/-- What the directives of a document say. The first version has to be the one that is known, a second
one is an error, and so is a handle that is given twice. -/
def directives (versioned : Bool) (handles : List (String × String)) :
    List Token → Reads (List (String × String) × List Token)
  | .directive d :: rest =>
    match d with
    | .version major =>
      if versioned || major != 1 then malformed else directives true handles rest
    | .handle name meaning =>
      if (handles.lookup name).isSome then malformed
      else directives versioned ((name, meaning) :: handles) rest
    | .other => directives versioned handles rest
  | tokens => .ok (handles, tokens)

/-- Whether nothing is left but marks that end a document. -/
def atEnd : Nat → Reader Bool
  | 0 => return false
  | fuel + 1 => do
    match ← peek? with
    | none => return true
    | some .documentEnd =>
      skip
      atEnd fuel
    | some _ => return false

/-- The only document, whose content may be missing behind a mark that begins it. -/
def content (fuel : Nat) (mayBeMissing : Bool) : Reader Nat := do
  let absent ←
    match ← peek? with
    | none => pure mayBeMissing
    | some (.directive _) => pure mayBeMissing
    | some t => pure (mayBeMissing && t ∈ [.documentStart, .documentEnd])
  let root ← if absent then missing else node fuel inBlock
  if ← atEnd fuel then return root else throw .malformed

/-- The only document of a text, or nothing if there is none. -/
def ofTokens (ts : Tokens) : Reads (Option Document) := do
  let fuel := 4 * ts.list.length + 4
  let read := fun (handles : List (String × String)) (tokens : List Token) (mayBeMissing : Bool) => do
    let (root, r) ←
      (content fuel mayBeMissing).run { tokens, defect := ts.defect, handles := handles ++ defaultHandles }
    return some ⟨r.nodes, root⟩
  match ts.list, ts.defect with
  | [], none => return none
  | .directive d :: rest, _ =>
    match ← directives false [] (.directive d :: rest), ts.defect with
    | (handles, .documentStart :: rest), _ => read handles rest true
    | (_, []), some defect => throw defect
    | _, _ => malformed
  | .documentStart :: rest, _ => read [] rest true
  | tokens, _ => read [] tokens false

end Document

end Toolwrap.Yaml
