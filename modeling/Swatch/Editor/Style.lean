import Swatch.Editor.Highlight
import Swatch.Text.Blank
import Swatch.Text.Lowercase
import Swatch.Text.Quoted

/-!
Styles. A style says in words how a class of text looks: by attributes, and by colors of the letters
or of the ground behind them. A word that is no attribute has to name a color, and the first one
that does not makes the style unusable.
-/
namespace Swatch

/-- A word of a style that names no color. -/
structure StyleError where
  word : Text
  deriving DecidableEq

/-- The wording of that error. -/
def StyleError.message (e : StyleError) : Text :=
  "Wrong color format ".toList ++ e.word.quotedFrom .document

namespace Style

/-- The attributes, each of which can be taken back, and the words that change nothing. -/
def attributes : List String :=
  ["noinherit", "bold", "nobold", "italic", "noitalic", "underline", "nounderline", "strike",
   "nostrike", "blink", "noblink", "reverse", "noreverse", "hidden", "nohidden", "dim", "nodim",
   "roman", "sans", "mono"]

/-- The colors of a terminal, by their present and their former names. -/
def terminalColors : List String :=
  ["ansidefault", "ansiblack", "ansired", "ansigreen", "ansiyellow", "ansiblue", "ansimagenta",
   "ansicyan", "ansigray", "ansibrightblack", "ansibrightred", "ansibrightgreen",
   "ansibrightyellow", "ansibrightblue", "ansibrightmagenta", "ansibrightcyan", "ansiwhite",
   "ansidarkgray", "ansiteal", "ansiturquoise", "ansibrown", "ansipurple", "ansifuchsia",
   "ansilightgray", "ansidarkred", "ansidarkgreen", "ansidarkblue"]

/-- The named colors, in lower case. -/
def namedColors : List String :=
  ["aliceblue", "antiquewhite", "aqua", "aquamarine", "azure", "beige", "bisque", "black",
   "blanchedalmond", "blue", "blueviolet", "brown", "burlywood", "cadetblue", "chartreuse",
   "chocolate", "coral", "cornflowerblue", "cornsilk", "crimson", "cyan", "darkblue", "darkcyan",
   "darkgoldenrod", "darkgray", "darkgreen", "darkgrey", "darkkhaki", "darkmagenta",
   "darkolivegreen", "darkorange", "darkorchid", "darkred", "darksalmon", "darkseagreen",
   "darkslateblue", "darkslategray", "darkslategrey", "darkturquoise", "darkviolet", "deeppink",
   "deepskyblue", "dimgray", "dimgrey", "dodgerblue", "firebrick", "floralwhite", "forestgreen",
   "fuchsia", "gainsboro", "ghostwhite", "gold", "goldenrod", "gray", "green", "greenyellow",
   "grey", "honeydew", "hotpink", "indianred", "indigo", "ivory", "khaki", "lavender",
   "lavenderblush", "lawngreen", "lemonchiffon", "lightblue", "lightcoral", "lightcyan",
   "lightgoldenrodyellow", "lightgray", "lightgreen", "lightgrey", "lightpink", "lightsalmon",
   "lightseagreen", "lightskyblue", "lightslategray", "lightslategrey", "lightsteelblue",
   "lightyellow", "lime", "limegreen", "linen", "magenta", "maroon", "mediumaquamarine",
   "mediumblue", "mediumorchid", "mediumpurple", "mediumseagreen", "mediumslateblue",
   "mediumspringgreen", "mediumturquoise", "mediumvioletred", "midnightblue", "mintcream",
   "mistyrose", "moccasin", "navajowhite", "navy", "oldlace", "olive", "olivedrab", "orange",
   "orangered", "orchid", "palegoldenrod", "palegreen", "paleturquoise", "palevioletred",
   "papayawhip", "peachpuff", "peru", "pink", "plum", "powderblue", "purple", "rebeccapurple",
   "red", "rosybrown", "royalblue", "saddlebrown", "salmon", "sandybrown", "seagreen", "seashell",
   "sienna", "silver", "skyblue", "slateblue", "slategray", "slategrey", "snow", "springgreen",
   "steelblue", "tan", "teal", "thistle", "tomato", "turquoise", "violet", "wheat", "white",
   "whitesmoke", "yellow", "yellowgreen"]

/-- Whether a word is one of the words listed. -/
def isListed (list : List String) (word : Text) : Bool := list.any fun entry => entry.toList == word

/-- Whether what follows a number sign makes a color: three or six characters, or the name of a
color of the terminal. -/
def isNumbered (word : Text) : Bool :=
  isListed terminalColors word || word.length == 6 || word.length == 3

/-- Whether a word names a color. The named colors may be written in either case. -/
def isColor (word : Text) : Bool :=
  isListed terminalColors word || isListed namedColors word.lowercased ||
    match word with
    | [] => true
    | '#' :: rest => isNumbered rest
    | _ => word = "default".toList

/-- The part of a word that has to name a color, unless the word is an attribute or one of those
that are passed over: a border, and anything in square brackets. -/
def colorPart? (word : Text) : Option Text :=
  if isListed attributes word || word.startsWith "border:".toList ||
      (word.head? == some '[' && word.getLast? == some ']') then none
  else if word.startsWith "bg:".toList || word.startsWith "fg:".toList then some (word.drop 3)
  else some word

/-- Refuses a style for its first word that names no color. -/
def check (style : Text) : Except StyleError Unit :=
  ((style.words.filterMap colorPart?).find? fun part => !isColor part).elim (.ok ())
    fun part => .error ⟨part⟩

/-- Refuses a table of styles for the first of them that cannot be used. -/
def checkAll (table : List (Text × Text)) : Except StyleError Unit :=
  table.forM fun entry => check entry.2

end Style

end Swatch
