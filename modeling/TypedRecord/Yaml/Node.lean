import TypedRecord.Yaml.Tag
import TypedRecord.Yaml.Token

/-!
# TypedRecord.Yaml.Node

The nodes that a text spells.

A document is a graph: a name that refers to a node makes the node a part of several others, and it
may come to be a part of itself. Nodes are therefore kept in an array and know their parts by their
places in it. `Graph.ofTokens` reads the graph of the one document that the tokens of a text must
hold, or of none.

A name can be referred to as soon as its node has begun, and no name may be given to two nodes.
-/

namespace TypedRecord.Yaml

/-- A node, by its place in the graph. -/
abbrev NodeId : Type := Nat

/-- A node: a text, a list or a mapping, with what it stands for. -/
inductive Node
  | text (tag : Tag) (content : String)
  | list (tag : Tag) (items : List NodeId)
  | map (tag : Tag) (entries : List (NodeId × NodeId))
  deriving DecidableEq, Inhabited, Repr

/-- What a node stands for. -/
def Node.tag : Node → Tag
  | text tag _ | list tag _ | map tag _ => tag

/-- The nodes of a document, and the one that is the document. -/
structure Graph where
  nodes : Array Node
  root : NodeId
  deriving Inhabited

/-- The tokens that are left, the meanings of handles, the nodes so far, those that have names, and how
deep the present one is. -/
structure Composer where
  tokens : List Token
  handles : List (String × String)
  nodes : Array Node := #[]
  anchors : List (String × NodeId) := []
  depth : Nat := 0
  deriving Inhabited

/-- A step of reading nodes; it may find that the tokens spell none. -/
abbrev Compose (α : Type) : Type := StateT Composer (Except Fault) α

namespace Compose

/-- The tokens spell no document. -/
def stop {α : Type} : Compose α := throw .malformed

/-- The next token, which stays. A fault among the tokens stops here. -/
def peek : Compose (Option Token) := do
  match (← get).tokens.head? with
  | some (.fault f) => throw f
  | t => pure t

/-- Passes the next token. -/
def pass : Compose Unit := modify fun s => { s with tokens := s.tokens.drop 1 }

/-- Whether the next token is one of those given. -/
def at? (ts : List Token) : Compose Bool := do pure ((← peek).any ts.contains)

/-- Passes the next token if it is the one given, and tells whether it was. -/
def accept (t : Token) : Compose Bool := do
  if ← at? [t] then
    pass
    pure true
  else pure false

/-- Passes the next token, which must be the one given. -/
def require (t : Token) : Compose Unit := do if !(← accept t) then stop

/-! ### Nodes -/

/-- Enters a node. -/
def enter (node : Node) : Compose NodeId :=
  modifyGet fun s => (s.nodes.size, { s with nodes := s.nodes.push node })

/-- The node that is meant where nothing is written. -/
def empty : Compose NodeId := enter (.text .null "")

/-- Makes sure that a name is new. -/
def free (name : Option String) : Compose Unit := do
  let s ← get
  if name.any fun name => s.anchors.any fun a => a.1 == name then stop

/-- Gives a node a name. -/
def call (name : Option String) (id : NodeId) : Compose Unit :=
  match name with
  | none => pure ()
  | some name => modify fun s => { s with anchors := (name, id) :: s.anchors }

/-- Enters a node without parts. -/
def single (name : Option String) (node : Node) : Compose NodeId := do
  free name
  let id ← enter node
  call name id
  pure id

/-- Enters a collection, of which `read` answers the node. Its name is known inside it. -/
def collection (name : Option String) (read : Compose Node) : Compose NodeId := do
  free name
  let id ← empty
  call name id
  if nestingLimit < (← get).depth then throw .tooDeep
  modify fun s => { s with depth := s.depth + 1 }
  let node ← read
  modify fun s => { s with depth := s.depth - 1, nodes := s.nodes.setIfInBounds id node }
  pure id

/-! ### Properties -/

/-- The name in front of a node, if it has one. -/
def anchor? : Compose (Option String) := do
  match ← peek with
  | some (.anchor name) => do
    pass
    pure (some name)
  | _ => pure none

/-- The tag in front of a node as it is written, if it has one. -/
def writtenTag? : Compose (Option (Option String × String)) := do
  match ← peek with
  | some (.tag handle suffix) => do
    pass
    pure (some (handle, suffix))
  | _ => pure none

/-- The address that a tag stands for. -/
def addressOf? (written : Option (Option String × String)) : Compose (Option String) := do
  match written with
  | none => pure none
  | some (none, suffix) => pure (some suffix)
  | some (some handle, suffix) =>
    match (← get).handles.find? fun h => h.1 == handle with
    | some (_, meaning) => pure (some (meaning ++ suffix))
    | none => stop

/-- The name and the address in front of a node, in either order. -/
def properties : Compose (Option String × Option String) := do
  match ← anchor? with
  | some name => do
    let written ← writtenTag?
    pure (some name, ← addressOf? written)
  | none => do
    let written ← writtenTag?
    let name ← if written.isSome then anchor? else pure none
    pure (name, ← addressOf? written)

/-- What a node stands for whose tag is written; an exclamation mark alone says nothing. -/
def tagOr (address : Option String) (default : Tag) : Tag :=
  match address with
  | none | some "!" => default
  | some address => .ofAddress address

/-- The node of a text. Only where nothing speaks against it does the form of the text matter. -/
def textNode (address : Option String) (content : String) (plain : Bool) : Node :=
  let byForm := (plain && address.isNone) || address == some "!"
  .text (tagOr address (if byForm then .ofPlain content else .str)) content

/-- Where a node may stand: between brackets, in a block, or in a block as part of a mapping, where
a list need not be indented. -/
inductive Setting
  | flow
  | block
  | entry
  deriving DecidableEq

mutual

/-- Reads a node. Every other call passes a token, so the fuel of `Graph.ofTokens` suffices. -/
def node : Nat → Setting → Compose NodeId
  | 0, _ => stop
  | fuel + 1, setting => do
    match ← peek with
    | some (.reference name) => do
      pass
      match (← get).anchors.find? fun a => a.1 == name with
      | some (_, id) => pure id
      | none => stop
    | _ => do
      let (name, address) ← properties
      match ← peek with
      | some .item =>
        if setting = .entry then
          collection name do pure (.list (tagOr address .list) (← entryItems fuel))
        else bare name address
      | some (.text content plain) => do
        pass
        single name (textNode address content plain)
      | some .flowListStart => do
        pass
        collection name do pure (.list (tagOr address .list) (← flowItems fuel true))
      | some .flowMappingStart => do
        pass
        collection name do pure (.map (tagOr address .map) (← flowEntries fuel true))
      | some .listStart =>
        if setting = .flow then bare name address
        else do
          pass
          collection name do pure (.list (tagOr address .list) (← blockItems fuel))
      | some .mappingStart =>
        if setting = .flow then bare name address
        else do
          pass
          collection name do pure (.map (tagOr address .map) (← blockEntries fuel))
      | _ => bare name address

/-- A node of which only a name or a tag is written. -/
def bare (name address : Option String) : Compose NodeId :=
  if name.isNone && address.isNone then stop
  else single name (textNode address "" true)

/-- Reads a node unless one of the given tokens follows; then nothing is written. -/
def nodeUnless (fuel : Nat) (ends : List Token) (setting : Setting) : Compose NodeId :=
  match fuel with
  | 0 => stop
  | fuel + 1 => do if ← at? ends then empty else node fuel setting

/-- The items of a list in a block. -/
def blockItems : Nat → Compose (List NodeId)
  | 0 => stop
  | fuel + 1 => do
    if ← accept .item then
      let first ← nodeUnless fuel [.item, .blockEnd] .block
      let rest ← blockItems fuel
      pure (first :: rest)
    else do
      require .blockEnd
      pure []

/-- The items of a list that is not indented. -/
def entryItems : Nat → Compose (List NodeId)
  | 0 => stop
  | fuel + 1 => do
    if ← accept .item then
      let first ← nodeUnless fuel [.item, .key, .value, .blockEnd] .block
      let rest ← entryItems fuel
      pure (first :: rest)
    else pure []

/-- The entries of a mapping in a block. -/
def blockEntries : Nat → Compose (List (NodeId × NodeId))
  | 0 => stop
  | fuel + 1 => do
    let ends := [.key, .value, .blockEnd]
    if ← accept .key then
      let k ← nodeUnless fuel ends .entry
      let v ← if ← accept .value then nodeUnless fuel ends .entry else empty
      let rest ← blockEntries fuel
      pure ((k, v) :: rest)
    else do
      require .blockEnd
      pure []

/-- The items of a list between brackets. An item may be an entry, which is a mapping by itself. -/
def flowItems : Nat → Bool → Compose (List NodeId)
  | 0, _ => stop
  | fuel + 1, first => do
    if ← accept .flowListEnd then pure []
    else do
      if !first then require .comma
      if ← accept .flowListEnd then pure []
      else do
        let item ←
          if ← accept .key then collection none do
            let k ← nodeUnless fuel [.value, .comma, .flowListEnd] .flow
            let v ← if ← accept .value then nodeUnless fuel [.comma, .flowListEnd] .flow
              else empty
            pure (.map .map [(k, v)])
          else node fuel .flow
        let rest ← flowItems fuel false
        pure (item :: rest)

/-- The entries of a mapping between braces. -/
def flowEntries : Nat → Bool → Compose (List (NodeId × NodeId))
  | 0, _ => stop
  | fuel + 1, first => do
    if ← accept .flowMappingEnd then pure []
    else do
      if !first then require .comma
      if ← accept .flowMappingEnd then pure []
      else do
        let entry ←
          if ← accept .key then do
            let k ← nodeUnless fuel [.value, .comma, .flowMappingEnd] .flow
            let v ← if ← accept .value then nodeUnless fuel [.comma, .flowMappingEnd] .flow
              else empty
            pure (k, v)
          else do
            let k ← node fuel .flow
            pure (k, ← empty)
        let rest ← flowEntries fuel false
        pure (entry :: rest)

end

/-! ### Documents -/

/-- The handles that always have a meaning. -/
def standardHandles : List (String × String) := [("!", "!"), ("!!", "tag:yaml.org,2002:")]

/-- Reads directives: one version at most, of the first major version, and each handle once. -/
def directives : Nat → Bool → List (String × String) → Compose (List (String × String))
  | 0, _, _ => stop
  | fuel + 1, versioned, handles => do
    match ← peek with
    | some (.directive d) => do
      pass
      match d with
      | .version major _ =>
        if versioned || major != 1 then stop else directives fuel true handles
      | .meaning handle address =>
        if handles.any fun h => h.1 == handle then stop
        else directives fuel versioned ((handle, address) :: handles)
      | .reserved => directives fuel versioned handles
    | _ => pure handles

/-- Whether a directive comes next. -/
def atDirective : Compose Bool := do
  match ← peek with
  | some (.directive _) => pure true
  | _ => pure false

/-- Whether nothing is left. -/
def atEnd : Compose Bool := do pure (← peek).isNone

/-- Passes the lines that end documents. -/
def skipEnds : Nat → Compose Unit
  | 0 => pure ()
  | fuel + 1 => do if ← accept .documentEnd then skipEnds fuel

/-- The end of the only document: the lines that end it, and nothing more. -/
def finish (fuel : Nat) (root : NodeId) : Compose (Option NodeId) := do
  skipEnds fuel
  if ← atEnd then pure (some root) else stop

/-- Reads the only document there is, if there is one. The line that starts it may be missing
unless there are directives, and only behind that line the document may be empty. -/
def document (fuel : Nat) : Compose (Option NodeId) := do
  if ← atEnd then pure none
  else if (← atDirective) || (← at? [.documentStart]) then do
    let handles ← directives fuel false []
    modify fun s => { s with handles := handles ++ standardHandles }
    require .documentStart
    if (← atEnd) || (← atDirective) || (← at? [.documentStart, .documentEnd]) then
      finish fuel (← empty)
    else finish fuel (← node fuel .block)
  else finish fuel (← node fuel .block)

end Compose

/-- The graph that tokens spell: that of their only document, or none if they hold no document. -/
def Graph.ofTokens (ts : List Token) : Except Fault (Option Graph) := do
  let fuel := 3 * (ts.length + 2)
  let (root, s) ← (Compose.document fuel).run { tokens := ts, handles := Compose.standardHandles }
  .ok (root.map fun root => ⟨s.nodes, root⟩)

end TypedRecord.Yaml
