import TypedRecord.Entries
import TypedRecord.Yaml.Atom
import TypedRecord.Yaml.Members
import TypedRecord.Yaml.Node

/-!
# TypedRecord.Yaml.Object

The objects that the nodes of a graph stand for.

Every list and every mapping among the nodes becomes one object, also if it is a part of several
others or of itself. An object is begun empty when it is first met and filled later, in the order in
which objects were begun: so parts are read level by level, and of two faults in a document the one
that is less deep comes first.

A mapping may take over the entries of other mappings under the merge key. Those come first in order,
and the mapping's own entries win over them. Entries are taken over in the nodes, before the mapping
is read.
-/

namespace TypedRecord.Yaml

/-- A part of an object: an atom, or an object, by the node it is made of. -/
inductive Part
  | atom (a : Atom)
  | object (id : NodeId)
  deriving Inhabited

/-- What an object holds. -/
inductive Contents
  | list (items : List Part)
  | pairs (items : List (Part × Part))
  | map (entries : Entries Part)
  | set (keys : List Key)
  deriving Inhabited

/-- The nodes, the objects that were begun, and all of these in order. -/
structure Builder where
  nodes : Array Node
  objects : Array (Option Contents)
  begun : Array NodeId := #[]
  deriving Inhabited

/-- A step of making objects. -/
abbrev Build (α : Type) : Type := StateT Builder (Except Failure) α

namespace Build

/-- The node at a place. -/
def node (id : NodeId) : Build Node := do pure ((← get).nodes.getD id default)

/-- Replaces a node. -/
def putNode (id : NodeId) (n : Node) : Build Unit :=
  modify fun s => { s with nodes := s.nodes.setIfInBounds id n }

/-- The entries of a mapping. -/
def entries (id : NodeId) : Build (List (NodeId × NodeId)) := do
  match ← node id with
  | .map _ entries => pure entries
  | _ => pure []

/-- Replaces the entries of a mapping. -/
def putEntries (id : NodeId) (entries : List (NodeId × NodeId)) : Build Unit := do
  match ← node id with
  | .map tag _ => putNode id (.map tag entries)
  | _ => pure ()

/-! ### Entries that are taken over -/

/-- The first entry under a merge key: its value, and the other entries. -/
def firstMerge? (nodes : Array Node) :
    List (NodeId × NodeId) → Option (NodeId × List (NodeId × NodeId))
  | [] => none
  | (k, v) :: rest =>
    if (nodes.getD k default).tag = .merge then some (v, rest)
    else (firstMerge? nodes rest).map fun (found, others) => (found, (k, v) :: others)

/-- Makes a text of a key that is the default key of a mapping. -/
def settleKey (id : NodeId) : Build Unit := do
  match ← node id with
  | .text .value content => putNode id (.text .str content)
  | .list .value items => putNode id (.list .str items)
  | .map .value entries => putNode id (.map .str entries)
  | _ => pure ()

/-- Takes over what the merge keys of a mapping name; `taken` was taken over before. Every call takes
a merge key out of some mapping, so their number bounds the depth of the calls. -/
def takeOver : Nat → NodeId → List (NodeId × NodeId) → Build Unit
  | 0, _, _ => pure ()
  | fuel + 1, id, taken => do
    for e in ← entries id do settleKey e.1
    match firstMerge? (← get).nodes (← entries id) with
    | none => if !taken.isEmpty then putEntries id (taken ++ (← entries id))
    | some (source, others) => do
      putEntries id others
      let more ← match ← node source with
        | .map _ _ => do
          takeOver fuel source []
          entries source
        | .list _ items => do
          let parts ← items.mapM fun item => do
            match ← node item with
            | .map _ _ => do
              takeOver fuel item []
              entries item
            | _ => throw .malformedYaml
          pure parts.reverse.flatten
        | .text _ _ => throw .malformedYaml
      takeOver fuel id (taken ++ more)

/-- The number of entries under merge keys. -/
def mergeCount (nodes : Array Node) : Nat :=
  nodes.foldl (fun n node =>
    match node with
    | .map _ entries =>
      n + (entries.filter fun e => (nodes.getD e.1 default).tag = .merge).length
    | _ => n) 0

/-! ### Parts -/

/-- The text of a node. A mapping may stand for the text under its default key. -/
def content : Nat → NodeId → Build String
  | 0, _ => throw .circular
  | fuel + 1, id => do
    match ← node id with
    | .text _ content => pure content
    | .list _ _ => throw .malformedYaml
    | .map _ entries => do
      let nodes := (← get).nodes
      match entries.find? fun e => (nodes.getD e.1 default).tag = .value with
      | some (_, v) => content fuel v
      | none => throw .malformedYaml

/-- The object of a node, begun with nothing in it unless it was begun before. -/
def begin (id : NodeId) (nothing : Contents) : Build Part := do
  let s ← get
  if (s.objects.getD id none).isNone then
    set { s with
      objects := s.objects.setIfInBounds id (some nothing)
      begun := s.begun.push id }
  pure (.object id)

/-- What a node stands for. -/
def part (id : NodeId) : Build Part := do
  match (← node id).tag with
  | .list => begin id (.list [])
  | .orderedMap | .pairs => begin id (.pairs [])
  | .map => begin id (.map [])
  | .set => begin id (.set [])
  | tag => do
    if !tag.isAtomic then throw .malformedYaml
    let text ← content ((← get).nodes.size + 1) id
    match tag, ← node id with
    | .timestamp, .map _ _ => throw .wrongKind
    | _, _ => pure (.atom (← StateT.lift (tag.read (id + 1) text)))

/-- The entries that nodes stand for. Only atoms can be keys. -/
def entryParts : List (NodeId × NodeId) → Build (List (Key × Part))
  | [] => pure []
  | (k, v) :: rest => do
    match ← part k with
    | .object _ => throw .malformedYaml
    | .atom a => do
      let value ← part v
      let more ← entryParts rest
      pure ((.atom none a, value) :: more)

/-- The pairs that nodes stand for, each a mapping with one entry. -/
def pairParts : List NodeId → Build (List (Part × Part))
  | [] => pure []
  | id :: ids => do
    match ← node id with
    | .map _ [(k, v)] => do
      let key ← part k
      let value ← part v
      let rest ← pairParts ids
      pure ((key, value) :: rest)
    | _ => throw .malformedYaml

/-- The entries of a mapping. -/
def mapping (id : NodeId) : Build (Entries Part) := do
  match ← node id with
  | .map _ _ => do
    takeOver (mergeCount (← get).nodes + 1) id []
    pure (Entries.ofList (← entryParts (← entries id)))
  | _ => throw .malformedYaml

/-- What the object of a node holds. -/
def contents (id : NodeId) : Build Contents := do
  let n ← node id
  match n.tag, n with
  | .list, .list _ items => do pure (.list (← items.mapM part))
  | .orderedMap, .list _ items | .pairs, .list _ items => do pure (.pairs (← pairParts items))
  | .map, _ => do pure (.map (← mapping id))
  | .set, _ => do pure (.set (Members.listed (Entries.keys (← mapping id))))
  | _, _ => throw .malformedYaml

/-- Fills the objects that were begun, from a place on. Every node is begun once at most. -/
def fillFrom : Nat → Nat → Build Unit
  | 0, _ => pure ()
  | fuel + 1, place => do
    match (← get).begun[place]? with
    | none => pure ()
    | some id => do
      let filled ← contents id
      modify fun s => { s with objects := s.objects.setIfInBounds id (some filled) }
      fillFrom fuel (place + 1)

/-- What the root of a graph stands for. -/
def document (root : NodeId) : Build Part := do
  let p ← part root
  fillFrom ((← get).nodes.size + 1) 0
  pure p

end Build

/-- What a graph stands for, and all objects. -/
def Graph.objects (g : Graph) : Except Failure (Part × Array (Option Contents)) := do
  let (p, s) ← (Build.document g.root).run
    { nodes := g.nodes, objects := Array.replicate g.nodes.size none }
  .ok (p, s.objects)

end TypedRecord.Yaml
