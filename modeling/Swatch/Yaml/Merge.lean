import Swatch.Yaml.Node

/-!
Merge keys. An entry whose key is the merge mark stands for the entries of another mapping, or of
several, the last of them first. What is merged in comes in front of a mapping's own entries, so
that these prevail. An equals sign for a key is an ordinary text in a mapping that is used as one.
-/
namespace Swatch.Yaml.Graph

/-- The value of the first entry that asks for a merge, and the entries without it. -/
def takeMerge? (g : Graph) :
    List (NodeId × NodeId) → Option (NodeId × List (NodeId × NodeId))
  | [] => none
  | (key, value) :: rest =>
    if g.isMergeKey key then some (value, rest)
    else (g.takeMerge? rest).map fun (found, others) => (found, (key, value) :: others)

/-- The graph with equals signs for keys of the given entries turned into texts. -/
def retagEquals (g : Graph) (entries : List (NodeId × NodeId)) : Graph :=
  entries.foldl (fun g entry => if g.isEqualsKey entry.1 then g.retag entry.1 .text else g) g

mutual

/-- The graph with the merges of a mapping carried out, after those that it asks for; entries that
were merged in before are given. An entry is taken out before its merge is carried out, so that a
mapping may merge itself. -/
def flattenFrom (g : Graph) (id : NodeId) (merged : List (NodeId × NodeId)) :
    Nat → Except Fault Graph
  | 0 => .error .malformed
  | rounds + 1 =>
    match g.takeMerge? (g.entries id) with
    | none =>
      .ok ((g.retagEquals (g.entries id)).reshape id (.mapping (merged ++ g.entries id)))
    | some (value, own) => do
      let (g, found) ← (g.reshape id (.mapping own)).mergeSource value rounds
      g.flattenFrom id (merged ++ found) rounds

/-- The entries that the value of a merge key stands for. -/
def mergeSource (g : Graph) (value : NodeId) :
    Nat → Except Fault (Graph × List (NodeId × NodeId))
  | 0 => .error .malformed
  | rounds + 1 =>
    let ofMapping (g : Graph) (id : NodeId) : Except Fault (Graph × List (NodeId × NodeId)) :=
      if (g.entries? id).isSome then do
        let g ← g.flattenFrom id [] rounds
        return (g, g.entries id)
      else .error .malformed
    match (g.node value).shape with
    | .mapping _ => ofMapping g value
    | .sequence items =>
      items.foldlM (fun (g, found) item => do
        let (g, more) ← ofMapping g item
        return (g, more ++ found)) (g, [])
    | .scalar _ => .error .malformed

end

/-- The number of entries that ask for a merge. -/
def mergeCount (g : Graph) : Nat :=
  g.nodes.foldl (fun count n => match n.shape with
    | .mapping entries => count + entries.countP fun entry => g.isMergeKey entry.1
    | _ => count) 0

/-- The graph with the merges of a mapping carried out. Every merge takes two rounds and removes an
entry that asks for one, and none comes back. -/
def flatten (g : Graph) (id : NodeId) : Except Fault Graph :=
  g.flattenFrom id [] (2 * g.mergeCount + 1)

end Swatch.Yaml.Graph
