/-
  LineShell/Yaml/Construction.lean
  ================================
  **What nodes stand for.**

  Every node stands for one thing, a plain value or a collection of the things that
  other nodes stand for.  A scalar gets its value as soon as it is met.  A
  collection is empty at first, so that it can be met inside itself, and is filled
  later: collections are filled in the order in which they were met.  This order
  decides which of several faults counts.

  The keys of a mapping have to be plain.  Of several entries with one key the
  first gives the place and the last the value.
-/
import LineShell.Config.Key
import LineShell.Yaml.Merge
import LineShell.Yaml.Scalar

namespace LineShell.Yaml

/-- What a node stands for.  Plain values with one identity are one value, even
    where a value does not equal itself. -/
inductive Built where
  | plain (v : Value) (identity : Nat)
  | list (items : List Nat)
  | pairs (items : List (Nat × Nat))
  | mapping (fields : List (Nat × Nat))
  | set (items : List Nat)

structure Construction where
  nodes : Graph
  /-- What the nodes stand for, as far as they were met. -/
  built : Array (Option Built)
  /-- The collections in the order in which they were met. -/
  met : Array Nat

abbrev Build := StateT Construction (Except DocumentFault)

namespace Build

/-- The empty collection that a tag asks for. -/
def emptyOf (tag : String) : Option Built :=
  if tag == Schema.sequenceTag then some (.list [])
  else if tag == Schema.mappingTag then some (.mapping [])
  else if tag == Schema.setTag then some (.set [])
  else if tag == Schema.orderedTag || tag == Schema.pairsTag then some (.pairs [])
  else none

/-! ### Plain values -/

/-- The text that a node stands for as a scalar.  A mapping with a default entry
    stands for the value of that entry. -/
def scalarText (g : Graph) : Nat → Nat → Except DocumentFault Text
  | 0, _ => .error .endlessDefault
  | steps + 1, id =>
    match g.content id with
    | .scalar text => .ok text
    | .sequence _ => .error .malformed
    | .mapping entries =>
      match entries.find? fun (key, _) => g.tag key == Schema.defaultTag with
      | some (_, value) => scalarText g steps value
      | none => .error .malformed

/-- Does a node hold a text itself? -/
def isScalar : Content → Bool
  | .scalar _ => true
  | _ => false

/-- The value of a node with the tag of a scalar.  The number that is none is one
    value for all nodes that name it; any other value is that of its node. -/
def plainOf (g : Graph) (id : Nat) : Except DocumentFault Built := do
  let tag := g.tag id
  if !Scalar.tags.contains tag then throw .malformed
  let text ← scalarText g (g.size + 1) id
  if tag == Schema.dateTag && !isScalar (g.content id) then throw .mappingDate
  let v ← Scalar.value tag text
  return .plain v (if tag == Schema.floatTag && Scalar.namesNaN text then g.size else id)

/-! ### Meeting nodes -/

def put (id : Nat) (b : Built) : Build Unit :=
  modify fun c => { c with built := c.built.setIfInBounds id (some b) }

/-- What a node stands for, once it was met. -/
def look (id : Nat) : Build (Option Built) := return ((← get).built[id]?).join

def meet (id : Nat) : Build Unit := do
  if (← look id).isSome then return ()
  let g := (← get).nodes
  match emptyOf (g.tag id) with
  | some b =>
    put id b
    modify fun c => { c with met := c.met.push id }
  | none => put id (← plainOf g id)

/-! ### Filling collections -/

/-- Meet a node in the place of a key; its value has to be plain. -/
def meetKey (id : Nat) : Build (Value × Nat) := do
  meet id
  match ← look id with
  | some (.plain v identity) => return (v, identity)
  | _ => throw .malformed

/-- A key with its value and identity, and the node of what it leads to. -/
structure Field where
  key : Nat
  value : Value
  identity : Nat
  target : Nat

def Field.isSame (a b : Field) : Bool := a.identity == b.identity || a.value.sameKey b.value

/-- Add a field: an equal key keeps its place. -/
def insertField (f : Field) : List Field → List Field
  | [] => [f]
  | g :: rest => if g.isSame f then { g with target := f.target } :: rest
      else g :: insertField f rest

def merging (m : Merge Unit) : Build Unit := do
  let c ← get
  let ((), nodes) ← m c.nodes
  set { c with nodes }

/-- The fields of a mapping, once what it asks for is merged into it. -/
def fields (id : Nat) : Build (List Field) := do
  match (← get).nodes.content id with
  | .mapping _ =>
    merging (Merge.flatten ((← get).nodes.entryCount + 1) id)
    ((← get).nodes.entries id).foldlM (fun found (key, target) => do
      let (value, identity) ← meetKey key
      meet target
      return insertField ⟨key, value, identity, target⟩ found) []
  | _ => throw .malformed

/-- The nodes of a pair, which is a mapping of one entry. -/
def pair (id : Nat) : Build (Nat × Nat) := do
  match (← get).nodes.content id with
  | .mapping [(first, second)] =>
    meet first
    meet second
    return (first, second)
  | _ => throw .malformed

def items (id : Nat) : Build (List Nat) := do
  match (← get).nodes.content id with
  | .sequence items => return items
  | _ => throw .malformed

def fill (id : Nat) : Build Unit := do
  match ← look id with
  | some (.list _) =>
    let items ← items id
    items.forM meet
    put id (.list items)
  | some (.pairs _) => put id (.pairs (← (← items id).mapM pair))
  | some (.mapping _) => put id (.mapping ((← fields id).map fun f => (f.key, f.target)))
  | some (.set _) => put id (.set ((Value.setOrder Field.value (← fields id)).map Field.key))
  | _ => return ()

/-- Fill all collections from the one that was met at a place on.  Every node is met
    once, so their number bounds the steps. -/
def fillFrom : Nat → Nat → Build Unit
  | 0, _ => return ()
  | steps + 1, place => do
    match (← get).met[place]? with
    | some id =>
      fill id
      fillFrom steps (place + 1)
    | none => return ()

end Build

/-- What the nodes of a document with a root stand for. -/
def Graph.build (g : Graph) (root : Nat) : Except DocumentFault (Array (Option Built)) := do
  let start : Construction := ⟨g, Array.replicate g.size none, #[]⟩
  let ((), c) ← (do
    Build.meet root
    Build.fillFrom (g.size + 1) 0 : Build Unit).run start
  return c.built

end LineShell.Yaml
