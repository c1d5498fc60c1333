import Swatch.Proofs.DocumentMerge
import Swatch.Settings.Builtin

/-! What a path of keys leads to in a mapping that is laid over another. The upper
mapping decides wherever it leads somewhere; the lower one decides where the upper
leads nowhere, unless a value that is no mapping stands in the way. Two mappings
that meet have their keys joined, those of the lower one in front. -/
namespace Swatch.MergePaths
open DocumentMerge

variable {v w child : Value} {below : Option Value} {path : List Scalar} {key : Scalar}
variable {entries lower upper : Mapping}

/-- Values in whose mappings, one inside the other, no key is there twice, however
it is written. -/
inductive WellKeyed : Value → Prop where
  | scalar (c : Scalar) : WellKeyed (.scalar c)
  | list (items : List Value) : WellKeyed (.list items)
  | mapping {entries : Mapping} : entries.forms.Nodup → (∀ entry ∈ entries, WellKeyed entry.2) →
      WellKeyed (.mapping entries)

/-- A value that is no mapping, so that no path leads on from it. -/
def Plain (v : Value) : Prop := v.mapping? = none

/-- What a value has at a key, if it is a mapping. -/
def child? (key : Scalar) (v : Value) : Option Value :=
  v.mapping?.bind fun entries => Mapping.get? entries key

/-- The value that a path of keys leads to. -/
def valueAt : List Scalar → Value → Option Value
  | [], v => some v
  | key :: path, v => (child? key v).bind (valueAt path)

/-- A plain value stands on the way that a path takes, before its end. -/
def Blocked (path : List Scalar) (v : Value) : Prop :=
  ∃ front, front <+: path ∧ front ≠ path ∧ ∃ w, valueAt front v = some w ∧ Plain w

theorem wellKeyed_mapping_iff : WellKeyed (.mapping entries) ↔
    entries.forms.Nodup ∧ ∀ entry ∈ entries, WellKeyed entry.2 := by
  constructor
  · rintro (_ | _ | ⟨distinct, inside⟩)
    exact ⟨distinct, inside⟩
  · rintro ⟨distinct, inside⟩
    exact .mapping distinct inside

theorem WellKeyed.distinct (keyed : WellKeyed (.mapping entries)) : entries.forms.Nodup :=
  (wellKeyed_mapping_iff.mp keyed).1

theorem WellKeyed.inside (keyed : WellKeyed v) (found : child? key v = some child) :
    WellKeyed child := by
  cases v with
  | scalar | list => cases found
  | mapping entries =>
    obtain ⟨_, member, _⟩ := mem_of_get? found
    exact (wellKeyed_mapping_iff.mp keyed).2 _ member

theorem WellKeyed.along (keyed : WellKeyed v) (found : valueAt path v = some w) : WellKeyed w := by
  induction path generalizing v with
  | nil => exact Option.some.inj found ▸ keyed
  | cons key path ih =>
    obtain ⟨child, inside, found⟩ := Option.bind_eq_some_iff.mp found
    exact ih (keyed.inside inside) found

@[simp] theorem plain_scalar (c : Scalar) : Plain (.scalar c) := rfl

@[simp] theorem plain_list (items : List Value) : Plain (.list items) := rfl

@[simp] theorem not_plain_mapping : ¬Plain (.mapping entries) := by
  simp [Plain, Value.mapping?]

theorem child?_of_plain (plain : Plain v) : child? key v = none := by
  rw [child?, plain, Option.bind_none]

theorem over_of_plain (plain : Plain v) : v.over below = v := by
  cases v with
  | scalar c => rfl
  | list items => rfl
  | mapping entries => exact absurd plain not_plain_mapping

/-- A mapping over a value that is no mapping hides it. -/
theorem over_plain (plain : Plain w) : v.over (some w) = v := by
  cases w with
  | scalar c => exact over_scalar v c
  | list items => cases v <;> rfl
  | mapping entries => exact absurd plain not_plain_mapping

/-- What a mapping over something has at a key. -/
theorem child?_over (distinct : upper.forms.Nodup) : child? key ((Value.mapping upper).over below) =
    (child? key (.mapping upper)).elim (below.bind (child? key)) fun child =>
      some (child.over (below.bind (child? key))) := by
  have alone : child? key (.mapping upper) =
      (child? key (.mapping upper)).elim none fun child => some (child.over none) := by
    cases child? key (.mapping upper) <;> simp
  cases below with
  | none => rwa [over_none]
  | some b =>
    by_cases plain : Plain b
    · rwa [over_plain plain, Option.bind_some, child?_of_plain plain]
    · cases b with
      | scalar | list => simp at plain
      | mapping lower => exact get?_merge distinct

theorem not_blocked_nil : ¬Blocked [] v := by
  rintro ⟨front, leads, shorter, _⟩
  exact shorter (List.prefix_nil.mp leads)

/-- A path is blocked at its start, or behind its first key. -/
theorem blocked_cons_iff : Blocked (key :: path) v ↔
    Plain v ∨ ∃ child, child? key v = some child ∧ Blocked path child := by
  constructor
  · rintro ⟨front, leads, shorter, w, found, plain⟩
    cases front with
    | nil => exact .inl (Option.some.inj found ▸ plain)
    | cons first rest =>
      obtain ⟨rfl, behind⟩ := List.cons_prefix_cons.mp leads
      obtain ⟨child, inside, found⟩ := Option.bind_eq_some_iff.mp found
      exact .inr ⟨child, inside, rest, behind, fun same => shorter (same ▸ rfl), w, found, plain⟩
  · rintro (plain | ⟨child, inside, front, leads, shorter, w, found, plain⟩)
    · exact ⟨[], List.nil_prefix, (List.cons_ne_nil key path).symm, v, rfl, plain⟩
    · refine ⟨key :: front, List.cons_prefix_cons.mpr ⟨rfl, leads⟩, ?_, w, ?_, plain⟩
      · exact fun same => shorter (List.cons.inj same).2
      · rw [valueAt, inside]
        exact found

theorem bind_valueAt_cons : below.bind (valueAt (key :: path)) =
    (below.bind (child? key)).bind (valueAt path) :=
  (Option.bind_assoc ..).symm

/-- What a path leads to in the upper value is laid over what it leads to in the
lower one. -/
theorem valueAt_over_of_found (keyed : WellKeyed v) (found : valueAt path v = some w) :
    valueAt path (v.over below) = some (w.over (below.bind (valueAt path))) := by
  induction path generalizing v below with
  | nil =>
    cases found
    cases below <;> rfl
  | cons key path ih =>
    obtain ⟨child, inside, behind⟩ := Option.bind_eq_some_iff.mp found
    cases v with
    | scalar | list => cases inside
    | mapping upper =>
      rw [valueAt, child?_over keyed.distinct, inside, bind_valueAt_cons]
      exact ih (keyed.inside inside) behind

/-- A path that leads nowhere in the upper value, and is not blocked there, leads
where it does in the lower one. -/
theorem valueAt_over_of_free (keyed : WellKeyed v) (absent : valueAt path v = none)
    (free : ¬Blocked path v) : valueAt path (v.over below) = below.bind (valueAt path) := by
  induction path generalizing v below with
  | nil => cases absent
  | cons key path ih =>
    obtain ⟨nested, freeInside⟩ := not_or.mp (blocked_cons_iff.not.mp free)
    cases v with
    | scalar | list => exact absurd rfl nested
    | mapping upper =>
      rw [valueAt, child?_over keyed.distinct, bind_valueAt_cons]
      cases inside : child? key (.mapping upper) with
      | none => rfl
      | some child =>
        rw [valueAt, inside] at absent
        exact ih (keyed.inside inside) absent fun blocked => freeInside ⟨child, inside, blocked⟩

/-- A blocked path leads nowhere, whatever the lower value has there. -/
theorem valueAt_over_of_blocked (keyed : WellKeyed v) (blocked : Blocked path v) :
    valueAt path (v.over below) = none := by
  induction path generalizing v below with
  | nil => exact absurd blocked not_blocked_nil
  | cons key path ih =>
    rcases blocked_cons_iff.mp blocked with plain | ⟨child, inside, behind⟩
    · rw [over_of_plain plain, valueAt, child?_of_plain plain, Option.bind_none]
    · cases v with
      | scalar | list => cases inside
      | mapping upper =>
        rw [valueAt, child?_over keyed.distinct, inside]
        exact ih (keyed.inside inside) behind

/-- Laying values over others makes no plain value, and changes none. -/
theorem over_eq_plain_iff (plain : Plain w) : v.over below = w ↔ v = w := by
  cases v with
  | scalar c => rw [over_of_plain (plain_scalar c)]
  | list items => rw [over_of_plain (plain_list items)]
  | mapping upper =>
    have remains : ∃ entries, (Value.mapping upper).over below = .mapping entries := by
      match below with
      | none | some (.scalar _) | some (.list _) => exact ⟨upper, rfl⟩
      | some (.mapping lower) => exact ⟨Mapping.merge lower upper, rfl⟩
    obtain ⟨entries, same⟩ := remains
    rw [same]
    constructor <;> rintro rfl <;> exact absurd plain not_plain_mapping

/-- The plain values of what is laid over something: its own, and those of what is
below where it leads nowhere and does not block the way. -/
theorem valueAt_over_iff (keyed : WellKeyed v) (plain : Plain w) :
    valueAt path (v.over below) = some w ↔ valueAt path v = some w ∨
      (below.bind (valueAt path) = some w ∧ valueAt path v = none ∧ ¬Blocked path v) := by
  by_cases blocked : Blocked path v
  · have absent : valueAt path v = none := by
      rw [← over_none v]
      exact valueAt_over_of_blocked keyed blocked
    rw [valueAt_over_of_blocked keyed blocked]
    simp [blocked, absent]
  · cases found : valueAt path v with
    | none =>
      rw [valueAt_over_of_free keyed found blocked]
      simp [blocked]
    | some u =>
      rw [valueAt_over_of_found keyed found, Option.some.injEq, over_eq_plain_iff plain]
      simp

/-- The values without keys in a mapping laid over another, path by path: those of
the upper one, and those of the lower one where the upper leads nowhere and does
not block the way. Where both have mappings, the keys are those of the lower one
and then the new ones of the upper one, both in their order. -/
theorem merged_path_by_path (lowerKeyed : WellKeyed (.mapping lower))
    (keyed : WellKeyed (.mapping upper)) (path : List Scalar) :
    (∀ w, Plain w → (valueAt path (.mapping (Mapping.merge lower upper)) = some w ↔
      valueAt path (.mapping upper) = some w ∨
        (valueAt path (.mapping lower) = some w ∧ valueAt path (.mapping upper) = none ∧
          ¬Blocked path (.mapping upper)))) ∧
    ∀ below above : Mapping, valueAt path (.mapping lower) = some (.mapping below) →
      valueAt path (.mapping upper) = some (.mapping above) →
      ∃ both : Mapping,
        valueAt path (.mapping (Mapping.merge lower upper)) = some (.mapping both) ∧
        both.keys = below.keys ++ above.keys.filter fun key => key.keyForm ∉ below.forms := by
  have whole : Value.mapping (Mapping.merge lower upper) =
      (Value.mapping upper).over (some (.mapping lower)) := rfl
  rw [whole]
  refine ⟨fun w plain => valueAt_over_iff keyed plain, ?_⟩
  intro below above lowerFound found
  refine ⟨Mapping.merge below above, ?_, ?_⟩
  · rw [valueAt_over_of_found keyed found, Option.bind_some, lowerFound]
    rfl
  · exact keys_merge (lowerKeyed.along lowerFound).distinct (keyed.along found).distinct

/-- A document with sections, a text, and a value under a number. -/
def sections : Mapping := [
  sectionEntry "templates" [textEntry "css" "c", textEntry "ansi" "a"],
  sectionEntry "editor" [sectionEntry "styles" [textEntry "pad" "bold"]],
  textEntry "format" "hex",
  (.int 1, .text "one".toList)]

/-- A document over it that empties one section, adds to another, and has a section
where there was a text. What it has for a truth value belongs under the number. -/
def revision : Mapping := [
  (.bool true, .text "yes".toList),
  (.text "editor".toList, .null),
  sectionEntry "templates" [textEntry "mine" "m", sectionEntry "css" []],
  sectionEntry "format" [textEntry "name" "rgb"]]

theorem sections_keyed : WellKeyed (.mapping sections) := by
  simp [wellKeyed_mapping_iff, sections, sectionEntry, textEntry, Scalar.keyForm,
    WellKeyed.scalar]

theorem revision_keyed : WellKeyed (.mapping revision) := by
  simp [wellKeyed_mapping_iff, revision, sectionEntry, textEntry, Scalar.keyForm,
    WellKeyed.scalar]

theorem merged_path_by_path_revision :
    WellKeyed (.mapping sections) ∧ WellKeyed (.mapping revision) ∧
    let merged := Value.mapping (Mapping.merge sections revision)
    let path (names : List String) : List Scalar := names.map fun name => .text name.toList
    valueAt [.int 1] merged = some (.text "yes".toList) ∧
    valueAt (path ["templates", "ansi"]) merged = some (.text ['a']) ∧
    valueAt (path ["editor"]) merged = some .null ∧
    (∀ w, Plain w → valueAt (path ["editor", "styles", "pad"]) merged ≠ some w) ∧
    ∃ both : Mapping, valueAt (path ["templates"]) merged = some (.mapping both) ∧
      both.keys = path ["css", "ansi", "mine"] := by
  refine ⟨sections_keyed, revision_keyed, ?_⟩
  intro merged path
  have along := merged_path_by_path sections_keyed revision_keyed
  refine ⟨?_, ?_, ?_, ?_, ?_⟩
  · exact ((along [.int 1]).1 _ (plain_scalar _)).mpr (.inl rfl)
  · have free : ¬Blocked (path ["templates", "ansi"]) (.mapping revision) := by
      intro blocked
      rcases blocked_cons_iff.mp blocked with plain | ⟨child, inside, behind⟩
      · exact not_plain_mapping plain
      · cases inside
        rcases blocked_cons_iff.mp behind with plain | ⟨_, inside, _⟩
        · exact not_plain_mapping plain
        · cases inside
    exact ((along (path ["templates", "ansi"])).1 _ (plain_scalar _)).mpr (.inr ⟨rfl, rfl, free⟩)
  · exact ((along (path ["editor"])).1 _ (plain_scalar _)).mpr (.inl rfl)
  · intro w plain found
    rcases ((along (path ["editor", "styles", "pad"])).1 w plain).mp found with own | ⟨_, _, free⟩
    · cases own
    · exact free ⟨path ["editor"], by decide, by decide, .null, rfl, rfl⟩
  · obtain ⟨both, found, keys⟩ := (along (path ["templates"])).2 _ _ rfl rfl
    exact ⟨both, found, keys.trans (by decide)⟩

end Swatch.MergePaths
