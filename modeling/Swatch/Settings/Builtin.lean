import Swatch.Document.Value

/-!
The built-in document. What a user gives is laid over it, so that a run without a settings file has
these settings and any other run has those of them that its file does not replace.
-/
namespace Swatch

/-- An entry of a mapping with a text under a text key. -/
def textEntry (key text : String) : Scalar × Value := (.text key.toList, .text text.toList)

/-- An entry of a mapping with a mapping under a text key. -/
def sectionEntry (key : String) (entries : Mapping) : Scalar × Value :=
  (.text key.toList, .mapping entries)

namespace Settings

/-- The built-in templates. -/
def builtinTemplates : Mapping := [
  textEntry "css" "rgb(%\x7br\x7d, %\x7bg\x7d, %\x7bb\x7d)",
  textEntry "ansi" "%\x7br\x7d;%\x7bg\x7d;%\x7bb\x7d",
  textEntry "hex-upper" "#%\x7b02Hr\x7d%\x7b02Hg\x7d%\x7b02Hb\x7d"]

/-- The built-in styles of the editor. -/
def builtinStyles : Mapping := [
  textEntry "literal" "",
  textEntry "escape" "ansimagenta",
  textEntry "expansion" "ansicyan",
  textEntry "pad" "ansiyellow",
  textEntry "base" "ansigreen",
  textEntry "channel" "ansicyan bold",
  textEntry "error" "ansired underline"]

/-- The built-in document. -/
def builtin : Mapping := [
  textEntry "format" "hex",
  sectionEntry "templates" builtinTemplates,
  sectionEntry "editor" [
    textEntry "preview_sample" "#808080",
    sectionEntry "styles" builtinStyles]]

end Settings

end Swatch
