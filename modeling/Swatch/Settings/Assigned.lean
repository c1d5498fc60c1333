import Swatch.Settings.Basic

/-!
Settings after assignments. An assignment puts any value in a field and checks nothing, so what is
wrong with a value shows only when a formatter is asked for. A list is read as a template item by
item: where a text has a character, a list has a text of one character. It can hold expansions and
doubled percent signs, but no run of other characters and no padding.
-/
namespace Swatch

/-- Whether a text is a part of another. -/
def Text.occursIn (part text : Text) : Bool :=
  (List.range (text.length + 1)).any fun start => part.isPrefixOf (text.drop start)

/-- Whether a value counts as nothing: the empty value, a zero, or something without parts. -/
def Value.isVoid : Value → Bool
  | .scalar .null => true
  | .scalar (.bool b) => !b
  | .scalar (.int n) => n == 0
  | .scalar (.float x) => x.isInt 0
  | .scalar (.text t) => t.isEmpty
  | .scalar _ => false
  | .list items => items.isEmpty
  | .mapping entries => entries.isEmpty

/-- A field that can be assigned. -/
inductive SettingsField where
  | format
  | custom
  | templates
  deriving DecidableEq

/-- Settings of which some fields hold any value. -/
structure AssignedSettings where
  format : Value
  custom : Value
  templates : Value
  editor : EditorSettings

/-- Why assigned settings give no formatter. The last three say that a value cannot be used where it
stands: it is of the wrong kind, it is a list of which a part is no template, or it is a mapping. -/
inductive AssignedError where
  | unknownTemplate (name : Text)
  | unknownFormat (name : Value)
  | malformed (template : Value) (position : Nat)
  | wrongKind
  | plainItem
  | firstOfMapping

/-- What assigned settings render samples with: a formatter, or the parts that a list or an empty
mapping was read into. -/
inductive AssignedFormatter where
  | formatter (f : Formatter)
  | listed (nodes : List Node) (source : Value)

/-- The rendering of a sample. -/
def AssignedFormatter.render : AssignedFormatter → Sample → Text
  | formatter f, s => f.render s
  | listed nodes _, s => Template.render ⟨nodes, []⟩ s

namespace ListedTemplate

/-- The character an item is, if it is a text of one. -/
def itemChar? (v : Value) : Option Char :=
  match v.text? with
  | some [c] => some c
  | _ => none

/-- Whether items begin with a padding. None that does can be read. -/
def beginsPadded : List Value → Bool
  | fill :: next :: _ =>
    !fill.isVoid && !next.isVoid && next.text?.all fun t => t.occursIn "0123456789".toList
  | _ => false

/-- The base letter that items begin with. An item that could never be a letter is no base, unless
it has parts of its own. -/
def baseOf : List Value → Except AssignedError (Option Base)
  | .list _ :: _ => .error .wrongKind
  | .mapping _ :: _ => .error .wrongKind
  | item :: _ => .ok ((itemChar? item).bind Base.ofLetter?)
  | [] => .ok none

/-- The expansion behind an opening brace, if it is complete, and the number of its items. -/
def expansionOf (items : List Value) : Except AssignedError (Option (Node × Nat)) := do
  if beginsPadded items then throw .wrongKind
  let base ← baseOf items
  let count := if base.isSome then 1 else 0
  match (items.drop count).map itemChar? with
  | some letter :: some '\x7d' :: _ =>
    return (Channel.ofLetter? letter).map fun channel =>
      (.expansion ⟨channel, base.getD .decimal, none⟩, count + 2)
  | _ => return none

/-- The parts of the template that items from a position on spell. -/
def nodesFrom (source : Value) (position : Nat) (items : List Value) :
    Except AssignedError (List Node) := do
  match items with
  | [] => return []
  | first :: rest =>
    if itemChar? first ≠ some '%' then throw .plainItem
    match rest with
    | [] => throw (.malformed source position)
    | second :: body =>
      if itemChar? second = some '%' then
        return .literal ['%'] :: (← nodesFrom source (position + 2) body)
      else if itemChar? second = some '\x7b' then
        match ← expansionOf body with
        | none => throw (.malformed source position)
        | some (node, count) =>
          return node :: (← nodesFrom source (position + 2 + count) (body.drop count))
      else throw (.malformed source position)
termination_by items.length
decreasing_by all_goals (simp only [List.length_cons, List.length_drop]; omega)

end ListedTemplate

namespace AssignedSettings

/-- Checked settings as they are before any assignment. -/
def ofSettings (s : Settings) : AssignedSettings where
  format := .text s.format
  custom := s.custom.elim .null .text
  templates := .mapping (s.templates.map fun entry => (.text entry.1, .text entry.2))
  editor := s.editor

/-- The settings with a value in a field. -/
def assign (s : AssignedSettings) (field : SettingsField) (value : Value) : AssignedSettings :=
  match field with
  | .format => { s with format := value }
  | .custom => { s with custom := value }
  | .templates => { s with templates := value }

/-- The formatter that a value in the place of a template gives. -/
def template (v : Value) : Except AssignedError AssignedFormatter :=
  match v with
  | .scalar (.text t) =>
    match Template.parse t with
    | .ok found => .ok (.formatter (.template found))
    | .error e => .error (.malformed v e.position)
  | .scalar _ => .error .wrongKind
  | .list items => (ListedTemplate.nodesFrom v 0 items).map fun nodes => .listed nodes v
  | .mapping entries => if entries.isEmpty then .ok (.listed [] v) else .error .firstOfMapping

/-- The formatter that a value in the place of a format gives. -/
def preset (v : Value) : Except AssignedError AssignedFormatter :=
  match v with
  | .scalar (.text t) =>
    match Preset.ofName t with
    | .ok found => .ok (.formatter (.preset found))
    | .error _ => .error (.unknownFormat v)
  | .scalar _ => .error (.unknownFormat v)
  | _ => .error .wrongKind

/-- The value of the template with a name. In a list or a text a name may occur, but nothing is
found under it. -/
def templateValue (s : AssignedSettings) (name : Text) : Except AssignedError Value :=
  let absent (occurs : Bool) : Except AssignedError Value :=
    .error (if occurs then .wrongKind else .unknownTemplate name)
  match s.templates with
  | .mapping entries => (Mapping.get? entries (.text name)).elim (absent false) .ok
  | .list items => absent (items.any fun item => item.text? == some name)
  | .scalar (.text t) => absent (name.occursIn t)
  | .scalar _ => absent true

/-- The template with the given name, or the formatter used when no name is given. -/
def formatter (s : AssignedSettings) (name : Option Text) :
    Except AssignedError AssignedFormatter :=
  match name, s.custom with
  | some name, _ => do template (← s.templateValue name)
  | none, .scalar .null => preset s.format
  | none, custom => template custom

end AssignedSettings

end Swatch
