import Swatch.Settings.Basic

/-!
Problems found in a document that is to become settings. A problem has a place, which is the path
of keys that leads to it, and a complaint. Problems are collected, not only the first one.
-/
namespace Swatch

/-- A step on the path to a problem. -/
inductive PathStep where
  | name (t : Text)
  | number (n : Int)
  deriving DecidableEq

/-- Why a value of the right kind is refused. -/
inductive Refusal where
  | format (name : Text)
  | template (text : Text)
  | color (e : ColorError)
  | clash (names : List Text)
  deriving DecidableEq

/-- What is wrong with a value. -/
inductive Complaint where
  | notText
  | notEncoded
  | notMapping
  | notEditor
  | refused (why : Refusal)
  deriving DecidableEq

/-- A complaint and its place. -/
structure Problem where
  place : List PathStep
  complaint : Complaint
  deriving DecidableEq

/-- The name of a whole number that is too large to be a step. A number with more digits than can be
written out is named without them. -/
def PathStep.largeNumber (n : Int) : PathStep :=
  match Base.decimal.render n with
  | .ok text => name text
  | .error _ => name "<unprintable int object>".toList

/-- The step to the value at a key. Truth values count as one and zero; a key that is neither a text
nor a number of 64 bits is named as messages show it. -/
def PathStep.ofKey : Scalar → PathStep
  | .text t => name t
  | .int n =>
    if -0x8000000000000000 ≤ n ∧ n < 0x8000000000000000 then number n else largeNumber n
  | .bool b => number (if b then 1 else 0)
  | key => name key.display

/-- The step to a field. -/
def PathStep.field (label : String) : PathStep := name label.toList

/-- The wording of a refusal. -/
def Refusal.message : Refusal → Text
  | format name =>
    "invalid format: ".toList ++ name.quotedFrom .document ++ " (expected one of ".toList ++
      Text.joined ", ".toList Preset.names ++ [')']
  | template text => "invalid format string: ".toList ++ text.quotedFrom .document
  | color e => e.messageFrom .document
  | clash names =>
    "template names clash with presets: ".toList ++ Text.joined ", ".toList names

namespace Complaint

/-- The class a complaint is reported under. -/
def label : Complaint → Text
  | notText => "string_type".toList
  | notEncoded => "string_unicode".toList
  | notMapping => "dict_type".toList
  | notEditor => "model_type".toList
  | refused _ => "value_error".toList

/-- The wording of a complaint. -/
def message : Complaint → Text
  | notText => "Input should be a valid string".toList
  | notEncoded =>
    "Input should be a valid string, unable to parse raw data as a unicode string".toList
  | notMapping => "Input should be a valid dictionary".toList
  | notEditor => "Input should be a valid dictionary or instance of EditorConfig".toList
  | refused why => "Value error, ".toList ++ why.message

end Complaint

/-- A value, or the problems that stand in its way. -/
abbrev Checked (α : Type) := Except (List Problem) α

namespace Checked

/-- The refusal of a value for one problem. -/
def problem {α : Type} (place : List PathStep) (complaint : Complaint) : Checked α :=
  .error [⟨place, complaint⟩]

/-- Both of two values, or the problems of both, those of the first in front. -/
def both {α β : Type} : Checked α → Checked β → Checked (α × β)
  | .ok a, .ok b => .ok (a, b)
  | .ok _, .error problems => .error problems
  | .error problems, .ok _ => .error problems
  | .error problems, .error others => .error (problems ++ others)

end Checked

end Swatch
