import Swatch.Proofs.SettingsCheck
import Swatch.Settings.Builtin

/-! Which plain documents are settings, said field by field of the values that are
given, and what the settings then hold: these values as they are, mappings in the
order of their keys, and defaults for what is not given. Keys that are no field
make no difference, neither to the settings nor to what is wrong with a document. -/
namespace Swatch.SettingsAcceptance
open DocumentMerge SettingsCheck TemplateReading

variable {α : Type} {data entries : Mapping} {v missing : Value} {name : String}
variable {names : List String}

/-- Editor settings of which every field that is given has a good value. -/
structure EditorAcceptable (entries : Mapping) : Prop where
  previewSample : ∀ v, entries.field? "preview_sample" = some v →
    ∃ text sample, v = .text text ∧ Sample.read text = .ok sample
  styles : ∀ v, entries.field? "styles" = some v → ∃ texts, v = .mapping (textMapping texts)

/-- A document of which every field that is given has a good value. -/
structure Acceptable (data : Mapping) : Prop where
  format : ∀ v, data.field? "format" = some v → ∃ name ∈ Preset.names, v = .text name
  custom : ∀ v, data.field? "custom" = some v →
    v = .null ∨ ∃ text template, v = .text text ∧ Template.parse text = .ok template
  templates : ∀ v, data.field? "templates" = some v →
    ∃ texts, v = .mapping (textMapping texts) ∧ ∀ entry ∈ texts,
      (∃ template, Template.parse entry.2 = .ok template) ∧ entry.1 ∉ Preset.names
  editor : ∀ v, data.field? "editor" = some v →
    ∃ entries, v = .mapping entries ∧ EditorAcceptable entries

/-- Editor settings that are what is given, with defaults for the rest. -/
structure EditorHolds (entries : Mapping) (s : EditorSettings) : Prop where
  previewSample :
    (entries.field? "preview_sample").getD (.text "#808080".toList) = .text s.previewSample
  styles : (entries.field? "styles").getD (.mapping []) = .mapping (textMapping s.styles)

/-- Settings that are what a document gives, with defaults for the rest. -/
structure Holds (data : Mapping) (s : Settings) : Prop where
  format : (data.field? "format").getD (.text "hex".toList) = .text s.format
  custom : (data.field? "custom").getD .null = s.custom.elim .null .text
  templates : (data.field? "templates").getD (.mapping []) = .mapping (textMapping s.templates)
  editor : ∃ entries, (data.field? "editor").getD (.mapping []) = .mapping entries ∧
    EditorHolds entries s.editor

/-- The entries of a mapping under some names. -/
def entriesAt (names : List String) (data : Mapping) : Mapping :=
  data.filter fun entry => names.any fun name => entry.1 == .text name.toList

/-- The editor settings that a value gives, without the keys that are no field. -/
def recognizedEditor : Value → Value
  | .mapping entries => .mapping (entriesAt ["preview_sample", "styles"] entries)
  | v => v

/-- A document without the keys that are no field, at its top and in the editor
settings. -/
def recognized (data : Mapping) : Mapping :=
  (entriesAt ["format", "custom", "templates", "editor"] data).map fun entry =>
    (entry.1, if entry.1 = .text "editor".toList then recognizedEditor entry.2 else entry.2)

/-- A field passes exactly if the value that is given for it is good, and then has
what that value says; a missing one has its default. -/
theorem checkField_ok_iff_good {default a : α} {judge : Value → Checked α} {Good : Value → Prop}
    (Says : Value → α → Prop)
    (judged : ∀ v, data.field? name = some v → ∀ a, judge v = .ok a ↔ Good v ∧ Says v a)
    (absent : ∀ a, Says missing a ↔ a = default) :
    checkField data name default judge = .ok a ↔
      (∀ v, data.field? name = some v → Good v) ∧ Says ((data.field? name).getD missing) a := by
  cases given : data.field? name with
  | none => simp [checkField, given, absent, eq_comm]
  | some v => simpa [checkField, given] using judged v given a

theorem jsonLike_field (json : JsonLike (.mapping data)) (given : data.field? name = some v) :
    JsonLike v := by
  obtain ⟨_, member, _⟩ := mem_of_get? given
  exact json.field member

theorem checkFormat_iff (json : JsonLike (.mapping data)) {format : Text} :
    checkField data "format" Preset.defaultName Settings.checkFormat = .ok format ↔
      (∀ v, data.field? "format" = some v → ∃ name ∈ Preset.names, v = .text name) ∧
        (data.field? "format").getD (.text "hex".toList) = .text format := by
  apply checkField_ok_iff_good fun v format => v = .text format
  · intro v given format
    rw [checkFormat_ok_iff, readText_ok_iff (jsonLike_field json given)]
    constructor
    · rintro ⟨rfl, known⟩
      exact ⟨⟨format, known, rfl⟩, rfl⟩
    · rintro ⟨⟨name, known, rfl⟩, same⟩
      cases same
      exact ⟨rfl, known⟩
  · intro format
    simp [Preset.defaultName, eq_comm]

theorem checkCustom_iff (json : JsonLike (.mapping data)) {custom : Option Text} :
    checkField data "custom" none Settings.checkCustom = .ok custom ↔
      (∀ v, data.field? "custom" = some v →
        v = .null ∨ ∃ text template, v = .text text ∧ Template.parse text = .ok template) ∧
        (data.field? "custom").getD .null = custom.elim .null .text := by
  apply checkField_ok_iff_good fun v custom => v = Option.elim custom .null .text
  · intro v given custom
    simp only [checkCustom_ok_iff, readText_ok_iff (jsonLike_field json given), accepts_iff]
    constructor
    · rintro (⟨rfl, rfl⟩ | ⟨text, rfl, ⟨template, parsed⟩, rfl⟩)
      · exact ⟨.inl rfl, rfl⟩
      · exact ⟨.inr ⟨text, template, rfl, parsed⟩, rfl⟩
    · rintro ⟨rfl | ⟨text, template, rfl, parsed⟩, same⟩
      · cases custom with
        | none => exact .inl ⟨rfl, rfl⟩
        | some text => cases same
      · cases custom with
        | none => cases same
        | some other =>
          cases same
          exact .inr ⟨text, rfl, ⟨template, parsed⟩, rfl⟩
  · intro custom
    cases custom <;> simp

theorem checkTemplates_iff (json : JsonLike (.mapping data)) {templates : List (Text × Text)} :
    (checkField data "templates" [] Settings.checkTemplates = .ok templates ∧
      ∀ name ∈ Preset.names, templates.lookup name = none) ↔
      (∀ v, data.field? "templates" = some v →
        ∃ texts, v = .mapping (textMapping texts) ∧ ∀ entry ∈ texts,
          (∃ template, Template.parse entry.2 = .ok template) ∧ entry.1 ∉ Preset.names) ∧
        (data.field? "templates").getD (.mapping []) = .mapping (textMapping templates) := by
  rw [apart_iff]
  cases given : data.field? "templates" with
  | none =>
    simp only [checkField, given, Option.elim_none, Except.ok.injEq, Option.getD_none,
      Value.mapping.injEq]
    constructor
    · rintro ⟨rfl, _⟩
      refine ⟨?_, rfl⟩
      intro v absent
      cases absent
    · rintro ⟨_, same⟩
      obtain rfl : [] = templates := textMapping_inj.mp same
      exact ⟨rfl, by simp⟩
  | some v =>
    simp only [checkField, given, Option.elim_some, checkTemplates_ok_iff, accepts_iff,
      checkTexts_ok_iff (jsonLike_field json given), Option.some.injEq, Option.getD_some]
    constructor
    · rintro ⟨⟨rfl, parsed⟩, apart⟩
      refine ⟨?_, rfl⟩
      rintro _ rfl
      exact ⟨templates, rfl, fun entry member => ⟨parsed entry member, apart entry member⟩⟩
    · rintro ⟨good, rfl⟩
      obtain ⟨texts, same, each⟩ := good _ rfl
      obtain rfl : templates = texts := textMapping_inj.mp (Value.mapping.inj same)
      exact ⟨⟨rfl, fun entry member => (each entry member).1⟩, fun entry member => (each entry member).2⟩

theorem checkPreviewSample_iff {place : List PathStep} (json : JsonLike (.mapping entries))
    {sample : Text} :
    checkField entries "preview_sample" ({} : EditorSettings).previewSample
        (EditorSettings.checkPreviewSample place) = .ok sample ↔
      (∀ v, entries.field? "preview_sample" = some v →
        ∃ text sample, v = .text text ∧ Sample.read text = .ok sample) ∧
        (entries.field? "preview_sample").getD (.text "#808080".toList) = .text sample := by
  apply checkField_ok_iff_good fun v sample => v = .text sample
  · intro v given text
    rw [checkPreviewSample_ok_iff, readText_ok_iff (jsonLike_field json given)]
    constructor
    · rintro ⟨rfl, sample, read⟩
      exact ⟨⟨text, sample, rfl, read⟩, rfl⟩
    · rintro ⟨⟨other, sample, rfl, read⟩, same⟩
      cases same
      exact ⟨rfl, sample, read⟩
  · intro text
    simp [eq_comm]

theorem checkStyles_iff {place : List PathStep} (json : JsonLike (.mapping entries))
    {styles : List (Text × Text)} :
    checkField entries "styles" [] (checkTexts place) = .ok styles ↔
      (∀ v, entries.field? "styles" = some v → ∃ texts, v = .mapping (textMapping texts)) ∧
        (entries.field? "styles").getD (.mapping []) = .mapping (textMapping styles) := by
  apply checkField_ok_iff_good fun v styles => v = .mapping (textMapping styles)
  · intro v given styles
    rw [checkTexts_ok_iff (jsonLike_field json given)]
    constructor
    · rintro rfl
      exact ⟨⟨styles, rfl⟩, rfl⟩
    · exact fun both => both.2
  · intro styles
    have empty : textMapping styles = textMapping [] ↔ styles = [] := textMapping_inj
    rw [Value.mapping.injEq, eq_comm]
    exact empty

theorem checkEditor_iff (json : JsonLike (.mapping data)) {editor : EditorSettings} :
    checkField data "editor" {} Settings.checkEditor = .ok editor ↔
      (∀ v, data.field? "editor" = some v →
        ∃ entries, v = .mapping entries ∧ EditorAcceptable entries) ∧
        ∃ entries, (data.field? "editor").getD (.mapping []) = .mapping entries ∧
          EditorHolds entries editor := by
  apply checkField_ok_iff_good fun v editor => ∃ entries, v = .mapping entries ∧
    EditorHolds entries editor
  · intro v given editor
    rw [checkEditor_ok_iff]
    have fields {entries : Mapping} (same : v = .mapping entries) :
        EditorSettings.check [.field "editor"] entries = .ok editor ↔
          EditorAcceptable entries ∧ EditorHolds entries editor := by
      have entriesJson : JsonLike (.mapping entries) := same ▸ jsonLike_field json given
      rw [checkEditorFields_ok_iff, checkPreviewSample_iff entriesJson, checkStyles_iff entriesJson]
      constructor
      · rintro ⟨⟨sampleGood, sample⟩, stylesGood, styles⟩
        exact ⟨⟨sampleGood, stylesGood⟩, ⟨sample, styles⟩⟩
      · rintro ⟨good, holds⟩
        exact ⟨⟨good.previewSample, holds.previewSample⟩, good.styles, holds.styles⟩
    constructor
    · rintro ⟨entries, rfl, checked⟩
      obtain ⟨good, holds⟩ := (fields rfl).mp checked
      exact ⟨⟨entries, rfl, good⟩, entries, rfl, holds⟩
    · rintro ⟨⟨entries, rfl, good⟩, others, same, holds⟩
      cases same
      exact ⟨entries, rfl, (fields rfl).mpr ⟨good, holds⟩⟩
  · intro editor
    constructor
    · rintro ⟨entries, same, holds⟩
      cases same
      obtain ⟨sample, styles⟩ := editor
      have sampleSame : "#808080".toList = sample := Scalar.text.inj (Value.scalar.inj holds.1)
      have stylesSame : [] = styles := textMapping_inj.mp (Value.mapping.inj holds.2)
      rw [← sampleSame, ← stylesSame]
    · rintro rfl
      exact ⟨[], rfl, rfl, rfl⟩

/-- Settings come from a plain document exactly if all its fields are good and the
settings hold what they give. -/
theorem check_ok_iff_acceptable (json : JsonLike (.mapping data)) {s : Settings} :
    Settings.check data = .ok s ↔ Acceptable data ∧ Holds data s := by
  rw [check_ok_iff, checkFormat_iff json, checkCustom_iff json, checkEditor_iff json]
  constructor
  · rintro ⟨⟨formatGood, format⟩, ⟨customGood, custom⟩, checked, ⟨editorGood, editor⟩, apart⟩
    obtain ⟨templatesGood, templates⟩ := (checkTemplates_iff json).mp ⟨checked, apart⟩
    exact ⟨⟨formatGood, customGood, templatesGood, editorGood⟩, ⟨format, custom, templates, editor⟩⟩
  · rintro ⟨good, holds⟩
    obtain ⟨checked, apart⟩ := (checkTemplates_iff json).mpr ⟨good.templates, holds.templates⟩
    exact ⟨⟨good.format, holds.format⟩, ⟨good.custom, holds.custom⟩, checked,
      ⟨good.editor, holds.editor⟩, apart⟩

/-- What holds of every value that is given for a field, and of its default, holds
of the field. -/
theorem getD_holds {P : Value → Prop} (good : ∀ v, data.field? name = some v → P v)
    (absent : P missing) : P ((data.field? name).getD missing) := by
  cases given : data.field? name with
  | none => exact absent
  | some v => exact good v given

theorem exists_editorHolds (good : EditorAcceptable entries) : ∃ s, EditorHolds entries s := by
  obtain ⟨sample, sampleSame⟩ : ∃ text,
      (entries.field? "preview_sample").getD (.text "#808080".toList) = .text text := by
    apply getD_holds (P := fun v => ∃ text, v = .text text) _ ⟨_, rfl⟩
    intro v given
    obtain ⟨text, _, same, _⟩ := good.previewSample v given
    exact ⟨text, same⟩
  obtain ⟨styles, stylesSame⟩ : ∃ texts,
      (entries.field? "styles").getD (.mapping []) = .mapping (textMapping texts) :=
    getD_holds (P := fun v => ∃ texts, v = .mapping (textMapping texts)) good.styles ⟨[], rfl⟩
  exact ⟨⟨sample, styles⟩, sampleSame, stylesSame⟩

/-- Where all fields are good there are settings that hold what they give. -/
theorem exists_holds (good : Acceptable data) : ∃ s, Holds data s := by
  obtain ⟨format, formatSame⟩ : ∃ text,
      (data.field? "format").getD (.text "hex".toList) = .text text := by
    apply getD_holds (P := fun v => ∃ text, v = .text text) _ ⟨_, rfl⟩
    intro v given
    obtain ⟨name, _, same⟩ := good.format v given
    exact ⟨name, same⟩
  obtain ⟨custom, customSame⟩ : ∃ text : Option Text,
      (data.field? "custom").getD .null = text.elim .null .text := by
    apply getD_holds (P := fun v => ∃ text : Option Text, v = text.elim .null .text) _ ⟨none, rfl⟩
    intro v given
    rcases good.custom v given with same | ⟨text, _, same, _⟩
    · exact ⟨none, same⟩
    · exact ⟨some text, same⟩
  obtain ⟨templates, templatesSame⟩ : ∃ texts,
      (data.field? "templates").getD (.mapping []) = .mapping (textMapping texts) := by
    apply getD_holds (P := fun v => ∃ texts, v = .mapping (textMapping texts)) _ ⟨[], rfl⟩
    intro v given
    obtain ⟨texts, same, _⟩ := good.templates v given
    exact ⟨texts, same⟩
  obtain ⟨entries, entriesSame, entriesGood⟩ : ∃ entries,
      (data.field? "editor").getD (.mapping []) = .mapping entries ∧ EditorAcceptable entries :=
    getD_holds (P := fun v => ∃ entries, v = .mapping entries ∧ EditorAcceptable entries)
      good.editor ⟨[], rfl, nofun, nofun⟩
  obtain ⟨editor, editorHolds⟩ := exists_editorHolds entriesGood
  exact ⟨⟨format, custom, templates, editor⟩, formatSame, customSame, templatesSame,
    entries, entriesSame, editorHolds⟩

theorem get?_filter (keep : Scalar → Bool) {t : Text} (kept : keep (.text t) = true) :
    Mapping.get? (data.filter fun entry => keep entry.1) (.text t) = data.get? (.text t) := by
  induction data with
  | nil => rfl
  | cons entry rest ih =>
    obtain ⟨k, v⟩ := entry
    by_cases same : k = .text t
    · subst same
      have first : keep (Scalar.text t, v).1 = true := kept
      rw [List.filter_cons, if_pos first, get?_cons_self, get?_cons_self]
    · rw [get?_text_cons_of_ne same, ← ih, List.filter_cons]
      split
      · exact get?_text_cons_of_ne same
      · rfl

theorem get?_map (f : Scalar → Value → Value) {t : Text} :
    Mapping.get? (data.map fun entry => (entry.1, f entry.1 entry.2)) (.text t) =
      (data.get? (.text t)).map (f (.text t)) := by
  induction data with
  | nil => rfl
  | cons entry rest ih =>
    obtain ⟨k, v⟩ := entry
    by_cases same : k = .text t
    · subst same
      rw [List.map_cons, get?_cons_self, get?_cons_self, Option.map_some]
    · rw [List.map_cons, get?_text_cons_of_ne same, get?_text_cons_of_ne same, ih]

theorem field?_entriesAt (known : name ∈ names) :
    (entriesAt names data).field? name = data.field? name := by
  apply get?_filter fun key => names.any fun name => key == .text name.toList
  exact List.any_eq_true.mpr ⟨name, known, beq_self_eq_true _⟩

theorem field?_recognized (known : name ∈ ["format", "custom", "templates", "editor"]) :
    (recognized data).field? name = (data.field? name).map fun v =>
      if Scalar.text name.toList = .text "editor".toList then recognizedEditor v else v := by
  refine (get?_map fun key v => if key = .text "editor".toList then recognizedEditor v else v).trans ?_
  exact congrArg _ (field?_entriesAt known)

theorem field?_recognized_of_ne (known : name ∈ ["format", "custom", "templates", "editor"])
    (other : Scalar.text name.toList ≠ .text "editor".toList) :
    (recognized data).field? name = data.field? name := by
  rw [field?_recognized known]
  simp only [if_neg other, Option.map_id']

theorem checkField_congr {default : α} {judge : Value → Checked α} {other : Mapping}
    (same : data.field? name = other.field? name) :
    checkField data name default judge = checkField other name default judge := by
  rw [checkField, checkField, same]

theorem checkEditor_recognized (v : Value) :
    Settings.checkEditor (recognizedEditor v) = Settings.checkEditor v := by
  cases v with
  | scalar | list => rfl
  | mapping entries =>
    have sample : Mapping.field? (entriesAt ["preview_sample", "styles"] entries)
        "preview_sample" = Mapping.field? entries "preview_sample" := field?_entriesAt (by decide)
    have styles : Mapping.field? (entriesAt ["preview_sample", "styles"] entries) "styles" =
        Mapping.field? entries "styles" := field?_entriesAt (by decide)
    simp only [recognizedEditor, Settings.checkEditor, Value.mapping?, Option.elim_some,
      EditorSettings.check, checkField_congr sample, checkField_congr styles]

/-- What a check finds does not depend on keys that are no field. -/
theorem check_recognized (data : Mapping) :
    Settings.check (recognized data) = Settings.check data := by
  have editor : checkField (recognized data) "editor" {} Settings.checkEditor =
      checkField data "editor" {} Settings.checkEditor := by
    have found : (recognized data).field? "editor" = (data.field? "editor").map recognizedEditor :=
      field?_recognized (by decide)
    rw [checkField, checkField, found]
    cases data.field? "editor" with
    | none => rfl
    | some v => exact checkEditor_recognized v
  have format : (recognized data).field? "format" = data.field? "format" :=
    field?_recognized_of_ne (by decide) (by decide)
  have custom : (recognized data).field? "custom" = data.field? "custom" :=
    field?_recognized_of_ne (by decide) (by decide)
  have templates : (recognized data).field? "templates" = data.field? "templates" :=
    field?_recognized_of_ne (by decide) (by decide)
  simp only [Settings.check, editor, checkField_congr format, checkField_congr custom,
    checkField_congr templates]

/-- A plain document is accepted exactly if all its fields are good. The settings
then hold what it gives, and no others do. Without the keys that are no field it is
accepted or refused in the same way, with the same settings or problems. -/
theorem accepted_exactly (json : JsonLike (.mapping data)) :
    ((∃ s, Settings.check data = .ok s) ↔ Acceptable data) ∧
    (∀ s, Settings.check data = .ok s ↔ Acceptable data ∧ Holds data s) ∧
    Settings.check (recognized data) = Settings.check data := by
  refine ⟨?_, fun s => check_ok_iff_acceptable json, check_recognized data⟩
  constructor
  · rintro ⟨s, checked⟩
    exact ((check_ok_iff_acceptable json).mp checked).1
  · intro good
    obtain ⟨s, holds⟩ := exists_holds good
    exact ⟨s, (check_ok_iff_acceptable json).mpr ⟨good, holds⟩⟩

/-- A document with two templates whose names are not in order, and with a key that
is no field at its top and in its editor settings. -/
def annotated : Mapping := [
  (.text "note".toList, .list [.scalar (.int 1), .null]),
  sectionEntry "editor" [
    (.text "theme".toList, .scalar (.bool true)), textEntry "preview_sample" " 1,2,3 ",
    sectionEntry "styles" [textEntry "pad" "bold"]],
  (.text "custom".toList, .null),
  sectionEntry "templates" [textEntry "z" "%%", textEntry "a" "%\x7b-4g\x7d"],
  textEntry "format" "HEX!"]

theorem accepted_exactly_annotated : JsonLike (.mapping annotated) ∧
    let s : Settings := {
      format := "HEX!".toList
      custom := none
      templates := [("z".toList, "%%".toList), ("a".toList, "%\x7b-4g\x7d".toList)]
      editor := ⟨" 1,2,3 ".toList, [("pad".toList, "bold".toList)]⟩ }
    Settings.check annotated = .ok s ∧ Settings.check (recognized annotated) = .ok s ∧
    (recognized annotated).keys =
      ["editor", "custom", "templates", "format"].map fun name => .text name.toList := by
  have json : JsonLike (.mapping annotated) := by
    simp [jsonLike_mapping_iff, annotated, sectionEntry, textEntry, Mapping.keys, JsonLike.text,
      JsonLike.null, JsonLike.bool, JsonLike.int, JsonLike.list]
  refine ⟨json, ?_⟩
  intro s
  obtain ⟨_, exact, same⟩ := accepted_exactly json
  have good : Acceptable annotated := by
    refine ⟨?_, ?_, ?_, ?_⟩
    · rintro v ⟨⟩
      exact ⟨"HEX!".toList, by decide, rfl⟩
    · rintro v ⟨⟩
      exact .inl rfl
    · rintro v ⟨⟩
      refine ⟨s.templates, rfl, ?_⟩
      intro entry member
      rcases List.mem_pair.mp member with rfl | rfl
      · exact ⟨accepts_iff.mp (by decide +kernel), by decide⟩
      · exact ⟨accepts_iff.mp (by decide +kernel), by decide⟩
    · rintro v ⟨⟩
      refine ⟨_, rfl, ?_, ?_⟩
      · rintro v ⟨⟩
        exact ⟨" 1,2,3 ".toList, .solid 1 2 3, rfl, by decide⟩
      · rintro v ⟨⟩
        exact ⟨[("pad".toList, "bold".toList)], rfl⟩
  have holds : Holds annotated s := ⟨rfl, rfl, rfl, _, rfl, rfl, rfl⟩
  have checked := (exact s).mpr ⟨good, holds⟩
  exact ⟨checked, same.trans checked, by decide⟩

end Swatch.SettingsAcceptance
