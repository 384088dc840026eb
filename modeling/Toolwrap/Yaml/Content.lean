import Toolwrap.Text.Bytes
import Toolwrap.Value
import Toolwrap.Yaml.Node
import Toolwrap.Yaml.Number
import Toolwrap.Yaml.Plain
/-!
The values of scalars by their kinds. A text that does not suit the kind that a tag asks for stands for
nothing that there is; only bytes that are not well written make the whole text malformed.
-/
namespace Toolwrap.Yaml

def bool? (text : String) : Option Bool :=
  let word := Text.lower text
  if word ∈ ["yes", "true", "on"] then some true
  else if word ∈ ["no", "false", "off"] then some false
  else none

def bytes? (text : String) : Option (List Nat) :=
  if text.toList.all fun c => c.toNat < 0x80 then Text.fromBase64 {} text.toList else none

/-- A value that there is, or a defect. -/
def orImpossible {α : Type} : Option α → Reads α
  | some x => .ok x
  | none => .error .impossible

/-- The value of a text of a kind. Kinds that are no scalars, or that nothing is known of, have none. -/
def scalarOf (kind : Kind) (text : String) : Reads Scalar :=
  match kind with
  | .null => .ok .null
  | .bool => .bool <$> orImpossible (bool? text)
  | .int => .int <$> orImpossible (int? text)
  | .float => .double <$> orImpossible (double? text)
  | .timestamp =>
    orImpossible ((Timestamp.ofChars? (deciding text.toList)).bind Timestamp.scalar?)
  | .binary => ((bytes? text).map fun bs => .ok (.bytes bs)).getD malformed
  | .str => .ok (.text text)
  | _ => malformed

/-!
What the nodes of a document stand for. Collections are filled in the order in which they are met,
those further inside later, so that of two defects the outer one is reported. A mapping keeps the place
where a key was given first and the value that was given last.
-/

/-- What a node stands for; the members of collections are nodes by their numbers. -/
inductive Content where
  | scalar (s : Scalar)
  | list (items : List Nat)
  | pairs (items : List (Nat × Nat))
  | set (members : List Scalar)
  | map (fields : List (Scalar × Nat))
deriving Repr

namespace Content

/-- A collection of a kind before it is filled. -/
def empty? : Kind → Option Content
  | .seq => some (.list [])
  | .map => some (.map [])
  | .set => some (.set [])
  | .omap => some (.pairs [])
  | .pairs => some (.pairs [])
  | _ => none

/-- The nodes of a document, what is known of their contents, and the collections that are to be filled
in this order. -/
structure Filling where
  nodes : Array Node
  contents : Array (Option Content)
  queue : Array Nat := #[]

abbrev Filler := StateT Filling Reads

def nodeAt (id : Nat) : Filler Node := do
  match (← get).nodes[id]? with
  | some n => return n
  | none => throw .malformed

def contentAt (id : Nat) : Filler (Option Content) := return ((← get).contents[id]?).join

def setNode (id : Nat) (n : Node) : Filler Unit :=
  modify fun f => { f with nodes := f.nodes.set! id n }

def setContent (id : Nat) (c : Content) : Filler Unit :=
  modify fun f => { f with contents := f.contents.set! id (some c) }

def kindAt (id : Nat) : Filler Kind := return (← nodeAt id).kind

/-- The text of a scalar. A mapping stands for the scalar behind its value key; one that stands for
itself stands for nothing. -/
def textOf : Nat → Nat → Filler String
  | 0, _ => throw .impossible
  | fuel + 1, id => do
    match ← nodeAt id with
    | .scalar _ text => return text
    | .sequence _ _ => throw .malformed
    | .mapping _ entries =>
      match ← entries.findM? fun (k, _) => return (← kindAt k) == .value with
      | some (_, v) => textOf fuel v
      | none => throw .malformed

/-- Reads a node when it is met: a scalar is settled, a collection waits for its members. -/
def meet (id : Nat) : Filler Unit := do
  if (← contentAt id).isSome then return
  let node ← nodeAt id
  match empty? node.kind, node with
  | some c, _ =>
    setContent id c
    modify fun f => { f with queue := f.queue.push id }
  | none, .scalar kind text => setContent id (.scalar (← scalarOf kind text))
  | none, _ =>
    if node.kind ∈ [.merge, .value, .unknown] then throw .malformed
    let text ← textOf ((← get).nodes.size + 1) id
    if node.kind == .timestamp then throw .impossible
    setContent id (.scalar (← scalarOf node.kind text))

/-- The entries of the mappings behind a merge key. Of several mappings the later ones come first, so
that the earlier ones win. -/
def merged (entriesOf : Nat → Filler (List (Nat × Nat))) (id : Nat) : Filler (List (Nat × Nat)) := do
  match ← nodeAt id with
  | .mapping _ _ => entriesOf id
  | .sequence _ items =>
    let found ← items.mapM fun item => do
      match ← nodeAt item with
      | .mapping _ _ => entriesOf item
      | _ => throw .malformed
    return found.reverse.flatten
  | .scalar _ _ => throw .malformed

/-- Puts what merge keys take over in front of the entries of a mapping, and reads value keys as texts.
Every round removes a merge key or passes another key. -/
def flatten : Nat → Nat → Filler (List (Nat × Nat))
  | 0, _ => throw .impossible
  | fuel + 1, id => do
    let taken ← pass fuel id 0
    match ← nodeAt id with
    | .mapping kind entries =>
      let entries := taken ++ entries
      setNode id (.mapping kind entries)
      return entries
    | _ => throw .malformed
where
  /-- Passes the keys from a place on; gives what the merge keys among them take over. -/
  pass : Nat → Nat → Nat → Filler (List (Nat × Nat))
    | 0, _, _ => throw .impossible
    | fuel + 1, id, place => do
      match ← nodeAt id with
      | .mapping kind entries =>
        match entries[place]? with
        | none => return []
        | some (k, v) =>
          let key ← nodeAt k
          if key.kind == .merge then
            setNode id (.mapping kind (entries.eraseIdx place))
            let taken ← merged (flatten fuel) v
            return taken ++ (← pass fuel id place)
          else
            if key.kind == .value then setNode k (key.withKind .str)
            pass fuel id (place + 1)
      | _ => throw .malformed

/-- Whether two keys are one. What is not a number is one key. -/
def sameKey (a b : Scalar) : Bool := a.same b || (a == .double .nan && b == .double .nan)

/-- Sets a field; one that is there keeps its place. -/
def setField (fields : List (Scalar × Nat)) (key : Scalar) (id : Nat) : List (Scalar × Nat) :=
  if fields.any fun f => sameKey f.1 key then
    fields.map fun f => if sameKey f.1 key then (f.1, id) else f
  else fields ++ [(key, id)]

/-- A key, which has to be a scalar. -/
def keyAt (id : Nat) : Filler Scalar := do
  meet id
  match ← contentAt id with
  | some (.scalar s) => return s
  | _ => throw .malformed

/-- The fields of a mapping. -/
def fieldsAt (id : Nat) : Filler (List (Scalar × Nat)) := do
  let size := (← get).nodes.foldl (fun n node =>
    match node with
    | .mapping _ entries => n + entries.length
    | _ => n) 2
  match ← nodeAt id with
  | .mapping _ _ =>
    (← flatten (size * size) id).foldlM (fun fields (k, v) => do
      let key ← keyAt k
      meet v
      return setField fields key v) []
  | _ => throw .malformed

/-- The key and the value of a mapping with a single entry. -/
def pairAt (id : Nat) : Filler (Nat × Nat) := do
  match ← nodeAt id with
  | .mapping _ [(k, v)] =>
    meet k
    meet v
    return (k, v)
  | _ => throw .malformed

/-- Fills a collection. -/
def fill (id : Nat) : Filler Unit := do
  match ← contentAt id, ← nodeAt id with
  | some (.list _), .sequence _ items =>
    items.forM meet
    setContent id (.list items)
  | some (.pairs _), .sequence _ items => setContent id (.pairs (← items.mapM pairAt))
  | some (.map _), _ => setContent id (.map (← fieldsAt id))
  | some (.set _), _ => setContent id (.set ((← fieldsAt id).map (·.1)))
  | _, _ => throw .malformed

/-- Fills the collections that wait, from a place in the queue on. Each node waits once at most. -/
def fillFrom : Nat → Nat → Filler Unit
  | 0, _ => return
  | fuel + 1, place => do
    match (← get).queue[place]? with
    | none => return
    | some id =>
      fill id
      fillFrom fuel (place + 1)

/-- What the nodes of a document stand for. Nodes that nothing holds stay open. -/
def ofDocument (d : Document) : Reads (Array (Option Content)) := do
  let start : Filling := { nodes := d.nodes, contents := Array.replicate d.nodes.size none }
  let (_, filled) ← (do meet d.root; fillFrom (d.nodes.size + 1) 0 : Filler Unit).run start
  return filled.contents

/-- The values that are known already: those that hold none of the collections around them. -/
abbrev Known := Array (Option Value)

/-- The value of a content, by the values of its members, and whether it holds none of the collections
around it. -/
def valueBy (valueOf : Nat → StateM Known (Value × Bool)) : Content → StateM Known (Value × Bool)
  | .scalar s => return (.scalar s, true)
  | .set members => return (.set members, true)
  | .list items => do
    let vs ← items.mapM valueOf
    return (.list (vs.map (·.1)), vs.all (·.2))
  | .pairs items => do
    let vs ← items.mapM fun (a, b) => return (← valueOf a, ← valueOf b)
    return (.list (vs.map fun (a, b) => .pair a.1 b.1), vs.all fun (a, b) => a.2 && b.2)
  | .map fields => do
    let vs ← fields.mapM fun (_, id) => valueOf id
    return (.map ((fields.map (·.1)).zip (vs.map (·.1))), vs.all (·.2))

def isMap : Content → Bool
  | .map _ => true
  | _ => false

/-- The value of a node inside collections that are open; one of these ends it. -/
def value (contents : Array (Option Content)) :
    Nat → List Nat → Nat → StateM Known (Value × Bool)
  | 0, _, _ => return (.null, false)
  | fuel + 1, within, id => do
    match ((← get)[id]?).join, (contents[id]?).join with
    | some v, _ => return (v, true)
    | none, none => return (.null, true)
    | none, some c =>
      if id ∈ within then return (.loop c.isMap, false)
      let (v, free) ← valueBy (value contents fuel (id :: within)) c
      if free then modify (·.set! id (some v))
      return (v, free)

/-- The value of a document. It is taken apart where it is used, so that its members are seen without
it around them. -/
def root (d : Document) (contents : Array (Option Content)) : Value :=
  match (contents[d.root]?).join with
  | none => .null
  | some c =>
    ((valueBy (value contents (contents.size + 1) []) c).run (Array.replicate contents.size none)).1.1

end Content

/-- The value of a text, null if it has no document. -/
def parse (text : String) : Reads Value := do
  match ← Document.ofTokens (tokens text.toList) with
  | none => return .null
  | some d => return Content.root d (← Content.ofDocument d)

end Toolwrap.Yaml
