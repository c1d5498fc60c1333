import Swatch.FormatError
import Swatch.Padding
import Swatch.Sample.Compaction

/-!
The built-in output forms and the names they are selected by. A compact hexadecimal form differs
from the full one only on compactable colors, which it writes with three digits.
-/
namespace Swatch

/-- The styles a color can be written in. -/
inductive PresetStyle where
  | lowerHex
  | upperHex
  | plain
  | rgb
  deriving DecidableEq

/-- Whether a hexadecimal form is shortened where it can be. The other styles ignore this. -/
inductive Compaction where
  | full
  | compact
  deriving DecidableEq

/-- A built-in output form. -/
structure Preset where
  style : PresetStyle
  compaction : Compaction := .full
  deriving DecidableEq

namespace Preset

/-- The named presets in the order in which they are listed. -/
def named : List (Text × Preset) := [
  ("hex".toList, ⟨.lowerHex, .full⟩),
  ("HEX".toList, ⟨.upperHex, .full⟩),
  ("hex!".toList, ⟨.lowerHex, .compact⟩),
  ("HEX!".toList, ⟨.upperHex, .compact⟩),
  ("plain".toList, ⟨.plain, .full⟩),
  ("rgb".toList, ⟨.rgb, .full⟩)]

/-- The names in their order. -/
def names : List Text := named.map (·.1)

/-- The name of the preset used when nothing else is asked for. -/
def defaultName : Text := "hex".toList

/-- The preset with exactly the given name. -/
def ofName (name : Text) : Except FormatError Preset :=
  (named.lookup name).elim (.error (.unknown name)) .ok

/-- The name of a preset, if it is one of the named ones. -/
def name? (preset : Preset) : Option Text :=
  (named.find? fun entry => entry.2 == preset).map (·.1)

/-- Three bytes in a hexadecimal base after a number sign: one digit each, which is the lower of
the two equal ones, or two. -/
def hexText (base : Base) (short : Bool) (s : Sample) : Text :=
  '#' :: [s.red, s.green, s.blue].flatMap fun byte =>
    if short then base.numeral (byte.toNat % 16) else (base.numeral byte.toNat).leftpad 2 '0'

/-- The visible channels in decimal with a separator between them. -/
def decimalChannels (separator : String) (s : Sample) : Text :=
  Text.joined separator.toList
    ([s.red, s.green, s.blue].map fun byte => Base.decimal.numeral byte.toNat)

/-- The rendering of a sample. -/
def render (preset : Preset) (s : Sample) : Text :=
  let short := preset.compaction == .compact && s.isCompactable
  match preset.style with
  | .lowerHex => hexText .lowerHex short s
  | .upperHex => hexText .upperHex short s
  | .plain => decimalChannels ";" s
  | .rgb => "rgb(".toList ++ decimalChannels ", " s ++ [')']

end Preset

end Swatch
