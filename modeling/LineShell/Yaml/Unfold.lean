/-
  LineShell/Yaml/Unfold.lean
  ==========================
  **The value of a document.**

  What nodes stand for may hold itself.  Its value is a tree all the same: a
  collection that is met again inside itself is shown as a `loop`.  Showing starts
  anew at each item of a field of the document, so a loop closes at the latest
  where its item began.

  A collection without a loop in it has one value wherever it stands, and that value
  is built once.
-/
import LineShell.Yaml.Construction

namespace LineShell.Yaml

/-- A collection that is being shown: a node, or one of the pairs it holds. -/
structure Shown where
  node : Nat
  pair : Option Nat
deriving DecidableEq

/-- The values without a loop that were built so far. -/
abbrev Unfold := StateM (Array (Option Value))

/-- A value, and whether no loop stands in it. -/
abbrev Unfolded := Value × Bool

namespace Unfold

variable (built : Array (Option Built))

/-- The kind of a collection, as a loop shows it. -/
def enclosure : Built → Enclosure
  | .mapping _ => .mapping
  | _ => .list

/-- The values of items, and whether no loop stands in any. -/
def all (items : List (Unfold Unfolded)) : Unfold (List Value × Bool) := do
  let parts ← items.mapM id
  return (parts.map (·.1), parts.all (·.2))

/-- A pair of a list of pairs, by its place in the list. -/
def pair (below : List Shown → Nat → Unfold Unfolded) (shown : List Shown) (list place : Nat)
    (parts : Nat × Nat) : Unfold Unfolded := do
  let here : Shown := ⟨list, some place⟩
  if shown.contains here then return (.loop .pair, false)
  let (first, whole) ← below (here :: shown) parts.1
  let (second, whole') ← below (here :: shown) parts.2
  return (.pair first second, whole && whole')

/-- The value of what a node stands for, its parts given by `below`. -/
def expand (below : List Shown → Nat → Unfold Unfolded) (shown : List Shown) (node : Nat) :
    Built → Unfold Unfolded
  | .plain v _ => return (v, true)
  | .list items => do
    let (values, whole) ← all (items.map (below shown))
    return (.list values, whole)
  | .pairs items => do
    let (values, whole) ← all (items.mapIdx (pair below shown node))
    return (.list values, whole)
  | .mapping fields => do
    let (keys, _) ← all (fields.map fun f => below shown f.1)
    let (values, whole) ← all (fields.map fun f => below shown f.2)
    return (.mapping (keys.zip values), whole)
  | .set items => do
    let (values, whole) ← all (items.map (below shown))
    return (.set values, whole)

/-- The value of a node inside collections that are being shown.  None is shown
    twice, so the number of collections and pairs bounds the depth. -/
def value : Nat → List Shown → Nat → Unfold Unfolded
  | 0, _, _ => return (.null, true)
  | depth + 1, shown, node => do
    match (built[node]?).join with
    | none => return (.null, true)
    | some b =>
      match ((← get)[node]?).join with
      | some v => return (v, true)
      | none =>
        let here : Shown := ⟨node, none⟩
        if shown.contains here then return (.loop (enclosure b), false)
        let (v, whole) ← expand (value depth) (here :: shown) node b
        if whole then modify fun memo => memo.setIfInBounds node (some v)
        return (v, whole)

/-- A bound on the depth of showing. -/
def depthBound : Nat :=
  built.foldl (fun n b =>
    match b with
    | some (.pairs items) => n + items.length + 1
    | _ => n + 1) 2

/-- The value of a document: each field of its root is a collection of its own, and
    so is each item in it. -/
def document (root : Nat) : Unfold Value := do
  let below := value built (depthBound built)
  let fresh (node : Nat) : Unfold Value := do
    match (built[node]?).join with
    | some b => return (← expand below [] node b).1
    | none => return .null
  match (built[root]?).join with
  | some (.mapping fields) =>
    return .mapping (← fields.mapM fun f => do return ((← fresh f.1), (← fresh f.2)))
  | _ => return (← below [] root).1

end Unfold

/-- The value of a document with a root. -/
def Graph.value (g : Graph) (root : Nat) : Except DocumentFault Value := do
  let built ← g.build root
  return (Unfold.document built root (Array.replicate built.size none)).1

end LineShell.Yaml
