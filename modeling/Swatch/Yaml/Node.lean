import Swatch.Yaml.Token

/-!
The nodes of a document: scalars, sequences and mappings, with the tags that say how they are to be
understood. A node is referred to by its number, so that an alias is a second reference to the same
node, and a collection may contain itself.
-/
namespace Swatch.Yaml

/-- How a node is to be understood. -/
inductive Tag where
  | null
  | bool
  | int
  | float
  | timestamp
  | text
  | binary
  | sequence
  | mapping
  | set
  | pairs
  | merge
  | equals
  | other (name : Text)
  deriving DecidableEq

/-- The tag with a full name. A mapping that keeps its order is written as pairs. -/
def Tag.ofName (name : Text) : Tag :=
  let standard : List (String × Tag) := [("null", null), ("bool", bool), ("int", int),
    ("float", float), ("timestamp", timestamp), ("str", text), ("binary", binary),
    ("seq", sequence), ("map", mapping), ("set", set), ("omap", pairs), ("pairs", pairs),
    ("merge", merge), ("value", equals)]
  let found := standard.find? fun entry => "tag:yaml.org,2002:".toList ++ entry.1.toList = name
  found.elim (other name) (·.2)

/-- The number of a node, counted in the order in which nodes begin. -/
abbrev NodeId := Nat

/-- What a node consists of. -/
inductive Shape where
  | scalar (text : Text)
  | sequence (items : List NodeId)
  | mapping (entries : List (NodeId × NodeId))
  deriving DecidableEq

/-- A node of a document. -/
structure Node where
  tag : Tag
  shape : Shape
  deriving DecidableEq

/-- The node that stands where nothing is written. -/
def Node.empty : Node := ⟨.null, .scalar []⟩

/-- The nodes of a document by their numbers. -/
structure Graph where
  nodes : Array Node := #[]
  deriving DecidableEq

namespace Graph

/-- The number of nodes. -/
def size (g : Graph) : Nat := g.nodes.size

/-- The node with a number; the empty node when there is none. -/
def node (g : Graph) (id : NodeId) : Node := g.nodes.getD id .empty

/-- The graph with one more node, whose number is the size before. -/
def add (g : Graph) (n : Node) : Graph := ⟨g.nodes.push n⟩

/-- The graph with another shape for a node. -/
def reshape (g : Graph) (id : NodeId) (shape : Shape) : Graph :=
  ⟨g.nodes.setIfInBounds id ⟨(g.node id).tag, shape⟩⟩

/-- The graph with another tag for a node. -/
def retag (g : Graph) (id : NodeId) (tag : Tag) : Graph :=
  ⟨g.nodes.setIfInBounds id ⟨tag, (g.node id).shape⟩⟩

/-- The entries of a node, if it is a mapping. -/
def entries? (g : Graph) (id : NodeId) : Option (List (NodeId × NodeId)) :=
  match (g.node id).shape with
  | .mapping entries => some entries
  | _ => none

/-- The entries of a mapping; other nodes have none. -/
def entries (g : Graph) (id : NodeId) : List (NodeId × NodeId) := (g.entries? id).getD []

/-- Whether a node is the key of an entry that asks for a merge. -/
def isMergeKey (g : Graph) (id : NodeId) : Bool := (g.node id).tag == .merge

/-- Whether a node is the key of the entry that a mapping may stand for. -/
def isEqualsKey (g : Graph) (id : NodeId) : Bool := (g.node id).tag == .equals

end Graph

end Swatch.Yaml
