/-
  LineShell/Yaml/Merge.lean
  =========================
  **Merged mappings.**

  A mapping may ask for the entries of others under a merge key.  They are put in
  front of its own, those of a sequence of mappings last one first, and the merge
  key goes.  The others are merged before, so every merge key is met once, and a
  mapping may be merged into itself: it then gives the entries it has at that time.

  On the way a default mark in the place of a key becomes a text.
-/
import LineShell.Yaml.Node

namespace LineShell.Yaml

/-- An action on the nodes of a document. -/
abbrev Merge := StateT Graph (Except DocumentFault)

namespace Merge

/-- Take an entry out of a mapping. -/
def dropEntry (id index : Nat) : Merge Unit :=
  modify fun g => g.refill id (.mapping ((g.entries id).eraseIdx index))

/-- Put entries in front of those of a mapping. -/
def prepend (id : Nat) (entries : List (Nat × Nat)) : Merge Unit :=
  modify fun g => g.refill id (.mapping (entries ++ g.entries id))

/-- The entries that the value of a merge key gives, once `flatten` has merged what
    its mappings ask for. -/
def offered (flatten : Nat → Merge Unit) (value : Nat) : Merge (List (Nat × Nat)) := do
  let part (id : Nat) : Merge (List (Nat × Nat)) := do
    match (← get).content id with
    | .mapping _ =>
      flatten id
      return (← get).entries id
    | _ => throw .malformed
  match (← get).content value with
  | .sequence items => return (← items.mapM part).reverse.flatten
  | _ => part value

/-- Look at the entry at an index of a mapping, after the entries `merged` were
    found.  A merge key is taken out, so that the next entry moves to its index. -/
def visit (flatten : Nat → Merge Unit) (id : Nat) :
    List (Nat × Nat) × Nat → Merge (List (Nat × Nat) × Nat)
  | (merged, index) => do
    let g ← get
    match (g.entries id)[index]? with
    | none => return (merged, index)
    | some (key, value) =>
      if g.tag key == Schema.mergeTag then
        dropEntry id index
        return (merged ++ (← offered flatten value), index)
      else
        if g.tag key == Schema.defaultTag then modify fun g => g.retag key Schema.textTag
        return (merged, index + 1)

/-- Merge what a mapping asks for.  Where mappings ask for each other the depth is
    bounded by the number of merge keys, since each is taken out before the
    mappings it asks for are merged. -/
def flatten : Nat → Nat → Merge Unit
  | 0, _ => return ()
  | depth + 1, id => do
    let count := ((← get).entries id).length
    let (merged, _) ← (List.range count).foldlM (fun found _ => visit (flatten depth) id found)
      ([], 0)
    prepend id merged

end Merge

/-- The number of entries in all mappings. -/
def Graph.entryCount (g : Graph) : Nat :=
  (List.range g.size).foldl (fun n id => n + (g.entries id).length) 0

end LineShell.Yaml
