import Swatch.Yaml.Composition
import Swatch.Yaml.Contents
import Swatch.Yaml.Tokens

/-!
Documents as values. A collection that contains itself has no value as a whole; it is unrolled
deeper than any use of a value looks, and is empty from there on.
-/
namespace Swatch.Yaml

/-- The number of levels that are unrolled in addition to one for every collection, of which a
document without cycles needs none. -/
def spareLevels : Nat := 8

/-- The value of a part, given those of the collections. -/
def Part.value (values : Array Value) : Part → Value
  | .scalar s => .scalar s
  | .collection id => values.getD id .null

/-- The value that contents make, given those of the collections among them. -/
def Contents.value (values : Array Value) : Contents → Value
  | .list items => .list (items.map (Part.value values))
  | .pairs entries =>
    .list (entries.map fun entry => .list [entry.1.value values, entry.2.value values])
  | .mapping entries => .mapping (entries.map fun entry => (entry.1, entry.2.value values))

/-- The contents without any parts. -/
def Contents.hollow : Contents → Contents
  | .list _ => .list []
  | .pairs _ => .pairs []
  | .mapping _ => .mapping []

/-- The values of collections to a number of levels: at level zero they are empty, and a level is
made from the one below. -/
def valuesTo (contents : List (NodeId × Contents)) (size : Nat) : Nat → Array Value
  | 0 => contents.foldl (fun values (id, found) =>
      values.setIfInBounds id (found.hollow.value #[])) (Array.replicate size .null)
  | level + 1 =>
    let below := valuesTo contents size level
    contents.foldl (fun values (id, found) =>
      values.setIfInBounds id (found.value below)) (Array.replicate size .null)

/-- The value of a document with the given root. -/
def valueOf (g : Graph) (root : NodeId) : Except Fault Value := do
  let (part, contents) ← contentsFrom g root
  return part.value (valuesTo contents g.size (contents.length + spareLevels))

/-- The value of a document text; a text without a document has the empty value. -/
def read (text : Text) : Except Fault Value := do
  match ← compose (← tokens text) with
  | some (g, root) => valueOf g root
  | none => return .null

end Swatch.Yaml
