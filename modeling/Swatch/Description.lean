import Swatch.Formatter

/-!
Descriptions of formatters that show every field, as they stand in diagnostic output and in the
refusal to name a preset that has no name.
-/
namespace Swatch

/-- A record's name and its fields in parentheses. -/
def describedRecord (name : String) (fields : List (String × Text)) : Text :=
  name.toList ++ '(' :: Text.joined ", ".toList
    (fields.map fun field => field.1.toList ++ '=' :: field.2) ++ [')']

/-- One of a list of alternatives: its name and what it stands for, in angle brackets. -/
def describedChoice (name : String) (standsFor : Text) : Text :=
  '<' :: name.toList ++ ": ".toList ++ standsFor ++ ['>']

namespace PresetStyle

/-- The number of a style in its list. -/
def number : PresetStyle → Nat
  | lowerHex => 1
  | upperHex => 2
  | plain => 3
  | rgb => 4

/-- The listed name of a style. -/
def label : PresetStyle → String
  | lowerHex => "LOWERCASE_HEX"
  | upperHex => "UPPERCASE_HEX"
  | plain => "PLAIN"
  | rgb => "RGB"

end PresetStyle

namespace Compaction

/-- The number of a compaction in its list. -/
def number : Compaction → Nat
  | full => 1
  | compact => 2

/-- The listed name of a compaction. -/
def label : Compaction → String
  | full => "FULL"
  | compact => "COMPACT"

end Compaction

/-- The listed name of a channel. -/
def Channel.label : Channel → String
  | red => "R"
  | green => "G"
  | blue => "B"

/-- The listed name of a base. -/
def Base.label : Base → String
  | lowerHex => "LOWERCASE_HEX"
  | upperHex => "UPPERCASE_HEX"
  | decimal => "DECIMAL"
  | octal => "OCTAL"
  | binary => "BINARY"

/-- A preset with its style and compaction. -/
def Preset.describe (p : Preset) : Text :=
  describedRecord "PresetFormat" [
    ("style", describedChoice ("PresetStyle." ++ p.style.label) (decimalText p.style.number)),
    ("compaction",
      describedChoice ("HexCompaction." ++ p.compaction.label) (decimalText p.compaction.number))]

/-- The refusal to name a preset that is not one of the named ones. -/
structure UnnamedPreset where
  preset : Preset
  deriving DecidableEq

/-- The wording of that refusal. -/
def UnnamedPreset.message (e : UnnamedPreset) : Text := e.preset.describe

/-- The name a preset is selected by. -/
def Preset.name (p : Preset) : Except UnnamedPreset Text := p.name?.elim (.error ⟨p⟩) .ok

/-- A padding from somewhere with its fill and width. -/
def Padding.describe (origin : Text.Origin) (p : Padding) : Text :=
  describedRecord "PadSpec" [("fill", Text.quotedFrom origin [p.fill]), ("width", decimalText p.width)]

/-- A part of a template from somewhere with its fields. -/
def Node.describe (origin : Text.Origin) : Node → Text
  | literal text => describedRecord "Literal" [("text", text.quotedFrom origin)]
  | expansion e =>
    describedRecord "Expansion" [
      ("channel", describedChoice ("Channel." ++ e.channel.label) (Text.quoted [e.channel.letter])),
      ("base", describedChoice ("NumberBase." ++ e.base.label) (Text.quoted [e.base.letter])),
      ("pad", e.pad.elim "None".toList (Padding.describe origin))]

/-- A template with its parts and with its source as it is shown. A sequence of one part ends in a
comma. -/
def Template.described (origin : Text.Origin) (nodes : List Node) (source : Text) : Text :=
  let parts := Text.joined ", ".toList (nodes.map (Node.describe origin))
  describedRecord "Template" [
    ("nodes", '(' :: parts ++ (if nodes.length = 1 then [','] else []) ++ [')']),
    ("source", source)]

/-- A template from somewhere with its parts and its source. -/
def Template.describe (origin : Text.Origin) (t : Template) : Text :=
  described origin t.nodes (t.source.quotedFrom origin)

/-- A formatter with all its fields. -/
def Formatter.describe (origin : Text.Origin) : Formatter → Text
  | template t => t.describe origin
  | preset p => p.describe

end Swatch
