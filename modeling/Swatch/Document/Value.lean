import Swatch.Binary64.Basic
import Swatch.Calendar

/-!
The values a document holds. A mapping is the list of its entries, because the order in which keys
were first given can be seen in answers; `Mapping.set` keeps that order and never makes a key occur
twice. Scalars that differ can be the same key: numbers are when they are equal, truth values count
as one and zero, and moments are when they are simultaneous. What is not a number is one value,
which is the same key as itself.
-/
namespace Swatch

/-- A value without parts. -/
inductive Scalar where
  | null
  | bool (b : Bool)
  | int (n : Int)
  | float (x : Binary64)
  | text (t : Text)
  | bytes (b : List UInt8)
  | date (d : Date)
  | moment (m : Moment)
  deriving DecidableEq

/-- What counts about a scalar when it is a key. -/
inductive KeyForm where
  | null
  | number (q : Rat)
  | infinite (negative : Bool)
  | nan
  | text (t : Text)
  | bytes (b : List UInt8)
  | date (d : Date)
  | instant (placed : Bool) (microseconds : Int)
  deriving DecidableEq

/-- The form of a scalar as a key. Two scalars are the same key if they have the same form. -/
def Scalar.keyForm : Scalar → KeyForm
  | .null => .null
  | .bool b => .number (if b then 1 else 0)
  | .int n => .number n
  | .float (.finite negative m e) =>
    let (n, d) := Binary64.ratio m e
    .number (mkRat (Binary64.signed negative n) d)
  | .float (.infinite negative) => .infinite negative
  | .float .nan => .nan
  | .text t => .text t
  | .bytes b => .bytes b
  | .date d => .date d
  | .moment m => .instant m.offset.isSome m.instant

@[simp] theorem Scalar.keyForm_text (t : Text) : (Scalar.text t).keyForm = .text t := rfl

/-- Only a text is the same key as a text. -/
@[simp] theorem Scalar.keyForm_eq_text {s : Scalar} {t : Text} :
    s.keyForm = .text t ↔ s = .text t := by
  cases s with
  | float x => cases x <;> simp [keyForm]
  | _ => simp [keyForm]

/-- A value of a document. The keys of a mapping are scalars. -/
inductive Value where
  | scalar (s : Scalar)
  | list (items : List Value)
  | mapping (entries : List (Scalar × Value))

/-- The entries of a mapping in the order in which their keys were first given. -/
abbrev Mapping := List (Scalar × Value)

namespace Value

/-- The empty value. -/
abbrev null : Value := .scalar .null

/-- A text as a value. -/
abbrev text (t : Text) : Value := .scalar (.text t)

/-- The text a value is, if it is one. -/
def text? : Value → Option Text
  | .scalar (.text t) => some t
  | _ => none

/-- The entries of a value, if it is a mapping. -/
def mapping? : Value → Option Mapping
  | .mapping entries => some entries
  | _ => none

end Value

namespace Mapping

variable {entries : Mapping} {k key : Scalar} {v : Value}

/-- The value at a key. -/
def get? (entries : Mapping) (key : Scalar) : Option Value :=
  (entries.find? fun entry => entry.1.keyForm = key.keyForm).map (·.2)

/-- The value at a text key. -/
def field? (entries : Mapping) (name : String) : Option Value := get? entries (.text name.toList)

/-- The mapping with a value at a key: in the place of the old value, and under the key that is
there, if the key was there, and at the end otherwise. -/
def set (entries : Mapping) (key : Scalar) (value : Value) : Mapping :=
  match entries with
  | [] => [(key, value)]
  | (k, v) :: rest =>
    if k.keyForm = key.keyForm then (k, value) :: rest else (k, v) :: set rest key value

/-- The keys in their order. -/
def keys (entries : Mapping) : List Scalar := entries.map (·.1)

/-- The forms of the keys in their order. -/
def forms (entries : Mapping) : List KeyForm := entries.keys.map Scalar.keyForm

@[simp] theorem get?_nil : get? [] key = none := rfl

theorem get?_cons : get? ((k, v) :: entries) key =
    if k.keyForm = key.keyForm then some v else get? entries key := by
  by_cases same : k.keyForm = key.keyForm <;> simp [get?, same]

@[simp] theorem forms_nil : forms [] = [] := rfl

@[simp] theorem forms_cons : forms ((k, v) :: entries) = k.keyForm :: entries.forms := rfl

/-- A value that is set is found at its key, and every other key finds what it found before. -/
theorem get?_set (entries : Mapping) (key other : Scalar) (value : Value) :
    (entries.set key value).get? other =
      if other.keyForm = key.keyForm then some value else entries.get? other := by
  induction entries with
  | nil => simp only [set, get?_cons, get?_nil, eq_comm]
  | cons entry rest ih =>
    obtain ⟨k, v⟩ := entry
    by_cases same : k.keyForm = key.keyForm
    · by_cases here : other.keyForm = key.keyForm
      · simp [set, get?_cons, same, here]
      · simp [set, get?_cons, same, here, Ne.symm here]
    · by_cases here : k.keyForm = other.keyForm
      · simp [set, get?_cons, here, here ▸ same]
      · simp [set, get?_cons, same, here, ih]

end Mapping

end Swatch
