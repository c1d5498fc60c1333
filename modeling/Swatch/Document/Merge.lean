import Swatch.Document.Value

/-!
Laying one mapping over another. Where both have a mapping at a key the two are merged in turn;
everywhere else the upper value wins. Keys of the lower mapping keep their places, and the keys that
only the upper one has follow in its order.
-/
namespace Swatch

mutual

/-- A value laid over what was there before. -/
def Value.over (below : Option Value) : Value → Value
  | .mapping upper =>
    match below with
    | some (.mapping lower) => .mapping (Mapping.merge lower upper)
    | _ => .mapping upper
  | .list items => .list items
  | .scalar s => .scalar s

/-- The lower mapping with the upper one laid over it, entry by entry. -/
def Mapping.merge (lower : Mapping) : Mapping → Mapping
  | [] => lower
  | (key, value) :: rest => Mapping.merge (lower.set key (value.over (lower.get? key))) rest

end

end Swatch
