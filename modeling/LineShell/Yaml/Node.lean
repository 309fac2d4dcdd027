/-
  LineShell/Yaml/Node.lean
  ========================
  **Nodes of a document.**

  A node is a scalar, a sequence or a mapping, with its tag.  The nodes of a
  document are numbered in the order in which they begin, and a collection holds
  the numbers of its parts.  A node may carry an anchor, and an alias stands for the
  node with that anchor, even inside it: so the nodes are a graph.

  The grammar is read from the tokens by functions that call each other as its
  rules do.  Every call takes a step from a count that the number of tokens
  bounds.  A fault of the document counts as soon as the grammar looks at it, and
  a violation of the grammar before that counts first.
-/
import LineShell.Yaml.Schema
import LineShell.Yaml.Token

namespace LineShell.Yaml

/-! ### Graphs -/

/-- What a node holds; collections hold the numbers of nodes. -/
inductive Content where
  | scalar (text : Text)
  | sequence (items : List Nat)
  | mapping (entries : List (Nat × Nat))
deriving DecidableEq, Repr, Inhabited

structure Node where
  tag : String
  content : Content
deriving DecidableEq, Repr, Inhabited

/-- The nodes of a document by their numbers. -/
abbrev Graph := Array Node

namespace Graph

def tag (g : Graph) (id : Nat) : String := (g[id]?.map Node.tag).getD ""

def content (g : Graph) (id : Nat) : Content := (g[id]?.map Node.content).getD (.sequence [])

def entries (g : Graph) (id : Nat) : List (Nat × Nat) :=
  match g.content id with
  | .mapping entries => entries
  | _ => []

def retag (g : Graph) (id : Nat) (tag : String) : Graph :=
  g.modify id fun n => { n with tag }

def refill (g : Graph) (id : Nat) (content : Content) : Graph :=
  g.modify id fun n => { n with content }

end Graph

/-! ### Reading -/

/-- What a reading of nodes depends on. -/
structure Reading where
  tokens : List Token
  handles : List (String × String)
  anchors : List (String × Nat)
  nodes : Graph
  /-- The number of collections that are open. -/
  depth : Nat

abbrev Read := StateT Reading (Except DocumentFault)

namespace Read

/-- The token ahead; there is always one, since the last is never taken.  Where the
    document cannot be read further, its fault is met. -/
def peek : Read Token := do
  match (← get).tokens.head?.getD .streamEnd with
  | .fault f => throw f
  | t => return t

def take : Read Unit := modify fun r => { r with tokens := r.tokens.drop 1 }

/-- The token ahead does not fit the grammar. -/
def unexpected {α : Type} : Read α := do
  let _ ← peek
  throw .malformed

/-- Take the token ahead if it is the one given. -/
def accept (t : Token) : Read Bool := do
  if (← peek) = t then
    take
    return true
  else return false

def expect (t : Token) : Read Unit := do
  if !(← accept t) then unexpected

/-- Is the token ahead one of those given? -/
def isAhead (ts : List Token) : Read Bool := return ts.contains (← peek)

/-- Add a node with the next number. -/
def add (tag : String) (content : Content) : Read Nat := do
  let r ← get
  set { r with nodes := r.nodes.push ⟨tag, content⟩ }
  return r.nodes.size

def emptyScalar : Read Nat := add (Schema.plainTag []) (.scalar [])

/-- Bind an anchor, which no earlier node may carry. -/
def bindAnchor (anchor : Option String) (id : Nat) : Read Unit := do
  match anchor with
  | none => return ()
  | some name =>
    if ((← get).anchors.lookup name).isSome then throw .malformed
    modify fun r => { r with anchors := (name, id) :: r.anchors }

def fullTag (t : TagText) : Read String := do
  match t.handle with
  | none => return t.suffix
  | some h =>
    match (← get).handles.lookup h with
    | some meaning => return meaning ++ t.suffix
    | none => throw .malformed

/-- The anchor ahead, if there is one. -/
def anchorAhead : Read (Option String) := do
  match ← peek with
  | .anchor name =>
    take
    return some name
  | _ => return none

/-- The tag ahead, if there is one. -/
def tagAhead : Read (Option TagText) := do
  match ← peek with
  | .tag t =>
    take
    return some t
  | _ => return none

/-- The anchor and the tag of a node, in either order. -/
def properties : Read (Option String × Option String) := do
  let anchor ← anchorAhead
  let tag ← tagAhead
  let anchor ← if anchor.isNone && tag.isSome then anchorAhead else pure anchor
  match tag with
  | none => return (anchor, none)
  | some t => return (anchor, some (← fullTag t))

/-- The tag of a scalar: the one it carries, or the one its text implies where it
    is plain or marked by a lone exclamation mark. -/
def scalarTag (tag : Option String) (plain : Bool) (text : Text) : String :=
  match tag with
  | none => if plain then Schema.plainTag text else Schema.textTag
  | some t => if t = "!" then Schema.plainTag text else t

/-- The tag of a collection: the one it carries, or that of its kind. -/
def collectionTag (tag : Option String) (kind : String) : String :=
  match tag with
  | none => kind
  | some t => if t = "!" then kind else t

/-- The most collections that may enclose each other. -/
def deepest : Nat := 490

/-- Read a collection, whose number is known inside it. -/
def collection (anchor : Option String) (tag : String) (read : Read Content) : Read Nat := do
  let id ← add tag (.sequence [])
  bindAnchor anchor id
  let outside := (← get).depth
  if deepest ≤ outside then throw .tooDeep
  modify fun r => { r with depth := outside + 1 }
  let content ← read
  modify fun r => { r with nodes := r.nodes.refill id content, depth := outside }
  return id

def scalar (anchor tag : Option String) (plain : Bool) (text : Text) : Read Nat := do
  let id ← add (scalarTag tag plain text) (.scalar text)
  bindAnchor anchor id
  return id

mutual

/-- A node.  Outside brackets it may be a block, and where `indentless` holds also
    a sequence that is not indented. -/
def node (block indentless : Bool) : Nat → Read Nat
  | 0 => unexpected
  | steps + 1 => do
    match ← peek with
    | .alias name =>
      take
      match (← get).anchors.lookup name with
      | some id => return id
      | none => throw .malformed
    | _ =>
      let (anchor, tag) ← properties
      let sequence (items : Read (List Nat)) : Read Nat :=
        collection anchor (collectionTag tag Schema.sequenceTag) (return .sequence (← items))
      let mapping (entries : Read (List (Nat × Nat))) : Read Nat :=
        collection anchor (collectionTag tag Schema.mappingTag) (return .mapping (← entries))
      match ← peek with
      | .scalar text plain =>
        take
        scalar anchor tag plain text
      | .flowSequence =>
        take
        sequence (flowItems true steps)
      | .flowMapping =>
        take
        mapping (flowEntries true steps)
      | .blockEntry =>
        if indentless then sequence (indentlessItems steps)
        else if anchor.isSome || tag.isSome then scalar anchor tag true []
        else unexpected
      | .blockSequence =>
        if block then
          take
          sequence (blockItems steps)
        else if anchor.isSome || tag.isSome then scalar anchor tag true []
        else unexpected
      | .blockMapping =>
        if block then
          take
          mapping (blockEntries steps)
        else if anchor.isSome || tag.isSome then scalar anchor tag true []
        else unexpected
      | _ => if anchor.isSome || tag.isSome then scalar anchor tag true [] else unexpected

/-- The items of a block sequence, up to its end. -/
def blockItems : Nat → Read (List Nat)
  | 0 => unexpected
  | steps + 1 => do
    if ← accept .blockEntry then
      let item ←
        if ← isAhead [.blockEntry, .blockEnd] then emptyScalar else node true false steps
      let items ← blockItems steps
      return item :: items
    else
      expect .blockEnd
      return []

/-- The items of a sequence that is not indented; what follows belongs to the
    mapping around it. -/
def indentlessItems : Nat → Read (List Nat)
  | 0 => unexpected
  | steps + 1 => do
    if ← accept .blockEntry then
      let item ←
        if ← isAhead [.blockEntry, .key, .value, .blockEnd] then emptyScalar
        else node true false steps
      let items ← indentlessItems steps
      return item :: items
    else return []

/-- The entries of a block mapping, up to its end. -/
def blockEntries : Nat → Read (List (Nat × Nat))
  | 0 => unexpected
  | steps + 1 => do
    if ← accept .key then
      let key ←
        if ← isAhead [.key, .value, .blockEnd] then emptyScalar else node true true steps
      let value ← blockValue steps
      let entries ← blockEntries steps
      return (key, value) :: entries
    else
      expect .blockEnd
      return []

/-- The value of a block entry; it may be left out. -/
def blockValue : Nat → Read Nat
  | 0 => unexpected
  | steps + 1 => do
    if ← accept .value then
      if ← isAhead [.key, .value, .blockEnd] then emptyScalar else node true true steps
    else emptyScalar

/-- The items of a sequence in brackets, up to the closing one; an item with a key
    is a mapping of one entry. -/
def flowItems (first : Bool) : Nat → Read (List Nat)
  | 0 => unexpected
  | steps + 1 => do
    if ← accept .flowSequenceEnd then return []
    if !first then expect .flowEntry
    if ← accept .key then
      let item ← collection none Schema.mappingTag do
        let key ←
          if ← isAhead [.value, .flowEntry, .flowSequenceEnd] then emptyScalar
          else node false false steps
        let value ← flowValue [.flowEntry, .flowSequenceEnd] steps
        return .mapping [(key, value)]
      let items ← flowItems false steps
      return item :: items
    else if ← accept .flowSequenceEnd then return []
    else
      let item ← node false false steps
      let items ← flowItems false steps
      return item :: items

/-- The entries of a mapping in braces, up to the closing one; an entry may lack
    its value. -/
def flowEntries (first : Bool) : Nat → Read (List (Nat × Nat))
  | 0 => unexpected
  | steps + 1 => do
    if ← accept .flowMappingEnd then return []
    if !first then expect .flowEntry
    if ← accept .key then
      let key ←
        if ← isAhead [.value, .flowEntry, .flowMappingEnd] then emptyScalar
        else node false false steps
      let value ← flowValue [.flowEntry, .flowMappingEnd] steps
      let entries ← flowEntries false steps
      return (key, value) :: entries
    else if ← accept .flowMappingEnd then return []
    else
      let key ← node false false steps
      let value ← emptyScalar
      let entries ← flowEntries false steps
      return (key, value) :: entries

/-- The value of an entry in brackets or braces; it may be left out. -/
def flowValue (ends : List Token) : Nat → Read Nat
  | 0 => unexpected
  | steps + 1 => do
    if ← accept .value then
      if ← isAhead ends then emptyScalar else node false false steps
    else emptyScalar

end

/-! ### Documents -/

/-- The meanings of the two handles that need no directive. -/
def standardHandles : List (String × String) := [("!", "!"), ("!!", Schema.standard)]

/-- The directives before a document: at most one version, which has to be 1, and
    one meaning for each handle. -/
def directives : Nat → Bool → List (String × String) → Read (List (String × String))
  | 0, _, handles => return handles
  | steps + 1, versioned, handles => do
    match ← peek with
    | .directive d =>
      take
      match d with
      | .version major =>
        if versioned || major ≠ 1 then throw .malformed
        directives steps true handles
      | .handle h meaning =>
        if (handles.lookup h).isSome then throw .malformed
        directives steps versioned (handles ++ [(h, meaning)])
      | .other => directives steps versioned handles
    | _ => return handles

def documentEnds : Nat → Read Unit
  | 0 => return ()
  | steps + 1 => do
    if ← accept .documentEnd then documentEnds steps

def isDirective : Token → Bool
  | .directive _ => true
  | _ => false

/-- Is there nothing between the start marker of a document and what follows? -/
def endsDocument : Token → Bool
  | .directive _ | .documentStart | .documentEnd | .streamEnd => true
  | _ => false

/-- A document after the markers of an earlier end, if the text goes on: its
    directives, its start marker and its root. -/
def explicitDocument (steps : Nat) (root : Read Nat) : Read (Option Nat) := do
  documentEnds steps
  if (← peek) = .streamEnd then return none
  let handles ← directives steps false []
  modify fun r => { r with handles := handles ++ standardHandles }
  expect .documentStart
  return some (← root)

/-- The one document of a text, if it holds any; a second one is a fault. -/
def document (steps : Nat) : Read (Option Nat) := do
  let first ← peek
  let root ←
    if isDirective first || first = .documentStart || first = .streamEnd then
      explicitDocument steps do
        if endsDocument (← peek) then emptyScalar else node true false steps
    else do
      modify fun r => { r with handles := standardHandles }
      some <$> node true false steps
  if root.isSome then
    -- a second document is a fault as soon as its start marker is found
    let _ ← explicitDocument steps (throw .malformed)
  return root

end Read

/-- The nodes of a text and the number of its root, if there is one. -/
def Graph.ofTokens? (tokens : List Token) : Except DocumentFault (Graph × Option Nat) := do
  let steps := 3 * tokens.length + 3
  let (root, r) ← (Read.document steps).run ⟨tokens, [], [], #[], 0⟩
  return (r.nodes, root)

end LineShell.Yaml
