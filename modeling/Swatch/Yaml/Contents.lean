import Swatch.Yaml.Merge
import Swatch.Yaml.ScalarValue

/-!
The contents of the collections of a document. A scalar has its value where it is first met; the
contents of a collection wait until all collections met before it have theirs. So of several faults
the one in the collection nearest to the root is found, not the one that is written first. The keys
of a mapping have to be scalars. A key given twice keeps its first place and has its last value.
-/
namespace Swatch.Yaml

/-- A part of a collection: a scalar, or another collection by its node. -/
inductive Part where
  | scalar (s : Scalar)
  | collection (id : NodeId)
  deriving DecidableEq

/-- The contents of a collection. -/
inductive Contents where
  | list (items : List Part)
  | pairs (entries : List (Part × Part))
  | mapping (entries : List (Scalar × Part))
  deriving DecidableEq

/-- What is known of a document while its contents are found: the parts that nodes have become, the
collections that wait for their contents, and the contents found. -/
structure Filling where
  graph : Graph
  parts : Array (Option Part)
  waiting : List NodeId := []
  contents : List (NodeId × Contents) := []

/-- A step of finding contents. -/
abbrev Fill := StateT Filling (Except Fault)

/-- Entries with one more at their end, which takes the place of one with the same key. -/
def putPart (entries : List (Scalar × Part)) (key : Scalar) (part : Part) : List (Scalar × Part) :=
  if entries.any fun entry => entry.1.keyForm = key.keyForm then
    entries.map fun entry => if entry.1.keyForm = key.keyForm then (entry.1, part) else entry
  else entries ++ [(key, part)]

/-- The text of a node that is used as a scalar. A mapping stands for the first of its values that
an equals sign is the key of, which again need not be a scalar; a chain that is longer than there
are nodes never ends. -/
def Graph.scalarText (g : Graph) (id : NodeId) : Nat → Except Fault Text
  | 0 => .error (.scalar .endless)
  | rounds + 1 =>
    match (g.node id).shape with
    | .scalar text => .ok text
    | .sequence _ => .error .malformed
    | .mapping entries =>
      match entries.find? fun entry => g.isEqualsKey entry.1 with
      | some entry => g.scalarText entry.2 rounds
      | none => .error .malformed

/-- The value of a node that is used as a scalar. Only dates have to be texts of their own. -/
def Graph.scalarValue (g : Graph) (id : NodeId) : Except Fault Scalar := do
  let text ← g.scalarText id (g.size + 1)
  if (g.node id).tag = .timestamp ∧ (g.entries? id).isSome then throw (.scalar .notOneText)
  scalarOf (g.node id).tag text

/-- Whether nodes with a tag are collections. -/
def Tag.isCollection (tag : Tag) : Bool :=
  tag == .sequence || tag == .mapping || tag == .set || tag == .pairs

/-- What a node becomes where it is met. -/
def partOf (id : NodeId) : Fill Part := do
  let s ← get
  match s.parts.getD id none with
  | some part => return part
  | none =>
    if (s.graph.node id).tag.isCollection then
      let part := Part.collection id
      set { s with
        parts := s.parts.setIfInBounds id (some part)
        waiting := s.waiting ++ [id] }
      return part
    else
      let part := Part.scalar (← liftM (s.graph.scalarValue id))
      set { s with parts := s.parts.setIfInBounds id (some part) }
      return part

/-- The entries of a mapping, added in their order to those before them. -/
def entriesOf (before : List (Scalar × Part)) : List (NodeId × NodeId) → Fill (List (Scalar × Part))
  | [] => return before
  | (key, value) :: rest => do
    match ← partOf key with
    | .scalar key => entriesOf (putPart before key (← partOf value)) rest
    | .collection _ => throw .malformed

/-- The entries of a mapping node after its merges. -/
def mappingEntries (id : NodeId) : Fill (List (Scalar × Part)) := do
  let s ← get
  if (s.graph.entries? id).isNone then throw .malformed
  let g ← liftM (s.graph.flatten id)
  set { s with graph := g }
  entriesOf [] (g.entries id)

/-- The pairs of a sequence of mappings that have one entry each. -/
def pairsOf : List NodeId → Fill (List (Part × Part))
  | [] => return []
  | id :: rest => do
    match (← get).graph.entries? id with
    | some [(key, value)] =>
      let key ← partOf key
      let value ← partOf value
      return (key, value) :: (← pairsOf rest)
    | _ => throw .malformed

/-- The items of a sequence node. -/
def sequenceItems (id : NodeId) : Fill (List NodeId) := do
  match ((← get).graph.node id).shape with
  | .sequence items => return items
  | _ => throw .malformed

/-- The contents of a collection of a kind. A set is a list of its keys. -/
def contentsOf (tag : Tag) (id : NodeId) : Fill Contents := do
  match tag with
  | .mapping => return .mapping (← mappingEntries id)
  | .set => return .list ((← mappingEntries id).map fun entry => .scalar entry.1)
  | .pairs => return .pairs (← pairsOf (← sequenceItems id))
  | _ => return .list (← (← sequenceItems id).mapM partOf)

/-- Finds the contents of the collections that wait and of those met on the way, in the order in
which they are met. -/
def fill : Nat → Fill Unit
  | 0 => return ()
  | rounds + 1 => do
    let s ← get
    match s.waiting with
    | [] => return ()
    | id :: rest =>
      set { s with waiting := rest }
      let found ← contentsOf (s.graph.node id).tag id
      modify fun s => { s with contents := s.contents ++ [(id, found)] }
      fill rounds

/-- What the root of a document becomes, and the contents of all collections met from there. A node
waits at most once, so that there are no more rounds than nodes. -/
def contentsFrom (g : Graph) (root : NodeId) :
    Except Fault (Part × List (NodeId × Contents)) := do
  let find : Fill Part := do
    let part ← partOf root
    fill g.size
    return part
  let (part, s) ← find.run { graph := g, parts := Array.replicate g.size none }
  return (part, s.contents)

end Swatch.Yaml
