import Swatch.Binary64.Shortest
import Swatch.Document.Value
import Swatch.Text.Quoted

/-!
Document values as messages show them: texts quoted, lists in brackets and mappings in braces, with
a comma and a space between neighbours.
-/
namespace Swatch

/-- A value without parts as messages show it. -/
def Scalar.display : Scalar → Text
  | .null => "None".toList
  | .bool true => "True".toList
  | .bool false => "False".toList
  | .int n => decimalText n
  | .float x => x.text
  | .text t => t.quoted
  | .bytes b => Text.quotedBytes b
  | .date d => d.display
  | .moment m => m.display

mutual

/-- A value as messages show it. -/
def Value.display : Value → Text
  | .scalar s => s.display
  | .list items => '[' :: Text.joined ", ".toList (displayItems items) ++ [']']
  | .mapping entries => '\x7b' :: Text.joined ", ".toList (displayEntries entries) ++ ['\x7d']

/-- The items of a list, each as messages show it. -/
def Value.displayItems : List Value → List Text
  | [] => []
  | item :: rest => item.display :: displayItems rest

/-- The entries of a mapping, each as messages show it: key, colon, value. -/
def Value.displayEntries : Mapping → List Text
  | [] => []
  | (key, value) :: rest =>
    (key.display ++ ':' :: ' ' :: value.display) :: displayEntries rest

end

end Swatch
