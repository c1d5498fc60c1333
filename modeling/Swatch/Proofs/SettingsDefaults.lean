import Mathlib
import Swatch.Proofs.SettingsCheck
import Swatch.Settings.Loading

/-! The built-in document under a document of plain values. Laying the one over
the other neither saves settings that would be refused nor spoils any that would
not: apart from the built-in templates and styles, which are added in front, it
leads to the same settings. -/
namespace Swatch.SettingsDefaults
open DocumentMerge SettingsCheck

variable {α : Type} {data lower : Mapping} {v : Value}
variable {builtin texts templates : List (Text × Text)} {entry : Text × Text}

/-- Named texts over built-in ones: the built-in names in their order with the
text that is given for each, and then the other names that are given. -/
def overlaid (builtin given : List (Text × Text)) : List (Text × Text) :=
  (builtin.map fun entry => (entry.1, (given.lookup entry.1).getD entry.2)) ++
    given.filter fun entry => entry.1 ∉ builtin.map Prod.fst

/-- The built-in templates by their names. -/
def builtinTemplates : List (Text × Text) := [
  ("css".toList, "rgb(%\x7br\x7d, %\x7bg\x7d, %\x7bb\x7d)".toList),
  ("ansi".toList, "%\x7br\x7d;%\x7bg\x7d;%\x7bb\x7d".toList),
  ("hex-upper".toList, "#%\x7b02Hr\x7d%\x7b02Hg\x7d%\x7b02Hb\x7d".toList)]

/-- The built-in styles by their classes. -/
def builtinStyles : List (Text × Text) := [
  ("literal".toList, []),
  ("escape".toList, "ansimagenta".toList),
  ("expansion".toList, "ansicyan".toList),
  ("pad".toList, "ansiyellow".toList),
  ("base".toList, "ansigreen".toList),
  ("channel".toList, "ansicyan bold".toList),
  ("error".toList, "ansired underline".toList)]

/-- What is given in a field for a mapping; nothing given counts as an empty
one. -/
def given (data : Mapping) (name : String) : Value := (data.field? name).getD (.mapping [])

/-- Settings with the built-in templates and styles under their own. -/
def withBuiltin (s : Settings) : Settings :=
  { s with
    templates := overlaid builtinTemplates s.templates
    editor := { s.editor with styles := overlaid builtinStyles s.editor.styles } }

theorem of_mem_overlaid (member : entry ∈ overlaid builtin texts) :
    entry ∈ texts ∨ entry ∈ builtin := by
  rcases List.mem_append.mp member with member | member
  · obtain ⟨⟨name, text⟩, inside, rfl⟩ := List.mem_map.mp member
    cases found : texts.lookup name with
    | none => exact .inr (by simpa [found] using inside)
    | some other => exact .inl (by simpa [found] using mem_of_lookup found)
  · exact .inl (List.mem_of_mem_filter member)

theorem mem_overlaid (distinct : (texts.map Prod.fst).Nodup) (member : entry ∈ texts) :
    entry ∈ overlaid builtin texts := by
  by_cases known : entry.1 ∈ builtin.map Prod.fst
  · obtain ⟨below, inside, same⟩ := List.mem_map.mp known
    have found : texts.lookup below.1 = some entry.2 := by
      rw [same]
      exact (lookup_eq_some_iff_mem distinct).mpr member
    exact List.mem_append_left _ (List.mem_map.mpr ⟨below, inside, by rw [found, same]; rfl⟩)
  · exact List.mem_append_right _ (List.mem_filter.mpr ⟨member, by simpa using known⟩)

/-- What holds of all built-in texts holds of all texts over them exactly if it
holds of those that are given. -/
theorem forall_overlaid_iff {P : Text × Text → Prop} (distinct : (texts.map Prod.fst).Nodup)
    (below : ∀ entry ∈ builtin, P entry) :
    (∀ entry ∈ overlaid builtin texts, P entry) ↔ ∀ entry ∈ texts, P entry :=
  ⟨fun all entry member => all entry (mem_overlaid distinct member),
    fun all entry member => (of_mem_overlaid member).elim (all entry) (below entry)⟩

theorem lookup_overlaid_eq_none_iff {name : Text} (distinct : (texts.map Prod.fst).Nodup)
    (below : builtin.lookup name = none) :
    (overlaid builtin texts).lookup name = none ↔ texts.lookup name = none := by
  rw [List.lookup_eq_none_iff, List.lookup_eq_none_iff]
  exact forall_overlaid_iff distinct (List.lookup_eq_none_iff.mp below)

theorem get?_textMapping (name : Text) :
    (textMapping texts).get? (.text name) = (texts.lookup name).map Value.text := by
  induction texts with
  | nil => rfl
  | cons entry rest ih =>
    obtain ⟨known, text⟩ := entry
    by_cases same : name = known
    · subst same
      simpa [textMapping] using get?_cons_self
    · have other : (name == known) = false := beq_eq_false_iff_ne.mpr same
      have otherKey : Scalar.text known ≠ .text name := fun keys => same (Scalar.text.inj keys).symm
      rw [List.lookup_cons, other, ← ih]
      exact get?_text_cons_of_ne otherKey

theorem forms_textMapping (texts : List (Text × Text)) :
    (textMapping texts).forms = (texts.map Prod.fst).map KeyForm.text := by
  simp [Mapping.forms, keys_textMapping]

theorem forms_textMapping_nodup (distinct : (texts.map Prod.fst).Nodup) :
    (textMapping texts).forms.Nodup := by
  rw [forms_textMapping]
  exact distinct.map fun _ _ => KeyForm.text.inj

/-- Texts laid over texts as mappings are the texts overlaid. -/
theorem merge_textMapping (distinct : (builtin.map Prod.fst).Nodup)
    (aboveDistinct : (texts.map Prod.fst).Nodup) :
    Mapping.merge (textMapping builtin) (textMapping texts) =
      textMapping (overlaid builtin texts) := by
  rw [merge_eq (forms_textMapping_nodup distinct) (forms_textMapping_nodup aboveDistinct), overlaid,
    forms_textMapping]
  simp only [textMapping, List.map_append, List.map_map, List.filter_map]
  congr 1
  · refine List.map_congr_left fun entry _ => ?_
    have above : Mapping.get? (texts.map fun entry => (.text entry.1, .text entry.2))
        (.text entry.1) = (texts.lookup entry.1).map Value.text := get?_textMapping entry.1
    simp only [Function.comp_apply, entryUnder, above]
    cases texts.lookup entry.1 <;> simp
  · have inj : Function.Injective KeyForm.text := fun _ _ => KeyForm.text.inj
    refine congrArg (List.map _) (List.filter_congr fun entry _ => ?_)
    simp only [Function.comp_apply, Scalar.keyForm_text, ← List.map_map,
      List.mem_map_of_injective inj]

/-- A name finds what is given for it, and otherwise what is built in. -/
theorem lookup_overlaid (distinct : (builtin.map Prod.fst).Nodup)
    (aboveDistinct : (texts.map Prod.fst).Nodup) (name : Text) :
    (overlaid builtin texts).lookup name = (texts.lookup name).or (builtin.lookup name) := by
  have merged : (Mapping.merge (textMapping builtin) (textMapping texts)).get? (.text name) = _ :=
    get?_merge (forms_textMapping_nodup aboveDistinct)
  rw [merge_textMapping distinct aboveDistinct] at merged
  simp only [get?_textMapping] at merged
  refine Option.map_injective (f := Value.text) (fun _ _ => by simp) ?_
  rw [merged]
  cases texts.lookup name <;> cases builtin.lookup name <;> simp

/-- Texts at the bottom do not turn anything else above them into texts. -/
theorem textMapping_of_merge (json : JsonLike (.mapping data))
    (same : Mapping.merge (textMapping builtin) data = textMapping texts) :
    ∃ own, data = textMapping own := by
  have shape : data ∈ Set.range textMapping := by
    rw [show textMapping = List.map _ from rfl, Set.range_list_map]
    intro entry member
    obtain ⟨key, value⟩ := entry
    obtain ⟨name, rfl⟩ := json.textKeys key (List.mem_map.mpr ⟨_, member, rfl⟩)
    have above : data.get? (.text name) = some value := get?_of_mem json.distinct member
    have found : (textMapping texts).get? (.text name) =
        some (value.over ((textMapping builtin).get? (.text name))) := by
      rw [← same, get?_merge json.distinct, above]
      rfl
    have kept : value.over ((textMapping builtin).get? (.text name)) = value := by
      rw [get?_textMapping]
      cases builtin.lookup name <;> simp
    rw [kept, get?_textMapping] at found
    obtain ⟨text, _, rfl⟩ := Option.map_eq_some_iff.mp found
    exact ⟨(name, text), rfl⟩
  obtain ⟨own, rfl⟩ := shape
  exact ⟨own, rfl⟩

theorem names_nodup (json : JsonLike (.mapping (textMapping texts))) :
    (texts.map Prod.fst).Nodup := by
  have distinct := json.distinct
  rw [forms_textMapping] at distinct
  exact distinct.of_map _

theorem jsonLike_textMapping (distinct : (texts.map Prod.fst).Nodup) :
    JsonLike (.mapping (textMapping texts)) := by
  refine .mapping ((forms_textMapping_nodup distinct).of_map _) ?_ ?_
  · rw [keys_textMapping]
    intro key member
    obtain ⟨name, _, rfl⟩ := List.mem_map.mp member
    exact ⟨name, rfl⟩
  · intro entry member
    obtain ⟨own, _, rfl⟩ := List.mem_map.mp member
    exact .text own.2

/-- Whatever the built-in texts are, laying a plain value over them gives texts
exactly if the value is a mapping of texts. -/
theorem checkTexts_over_iff {place : List PathStep}
    (distinct : (builtin.map Prod.fst).Nodup) (json : JsonLike v) :
    checkTexts place (v.over (some (.mapping (textMapping builtin)))) = .ok texts ↔
      ∃ own, checkTexts place v = .ok own ∧ texts = overlaid builtin own := by
  have overJson : JsonLike (v.over (some (.mapping (textMapping builtin)))) :=
    json.over fun b same => Option.some.inj same ▸ jsonLike_textMapping distinct
  simp only [checkTexts_ok_iff overJson, checkTexts_ok_iff json]
  cases v with
  | scalar => simp [Value.over]
  | list => simp [Value.over]
  | mapping entries =>
    simp only [Value.over, Value.mapping.injEq]
    constructor
    · intro same
      obtain ⟨own, rfl⟩ := textMapping_of_merge json same
      rw [merge_textMapping distinct (names_nodup json), textMapping_inj] at same
      exact ⟨own, rfl, same.symm⟩
    · rintro ⟨own, rfl, rfl⟩
      exact merge_textMapping distinct (names_nodup json)

theorem checkField_merge {name : String} {default : α} {judge : Value → Checked α} {b : Value}
    (distinct : data.forms.Nodup) (builtin : lower.field? name = some b) :
    checkField (Mapping.merge lower data) name default judge =
      (data.field? name).elim (judge b) fun v => judge (v.over (some b)) := by
  rw [checkField, Mapping.field?, get?_merge distinct, ← Mapping.field?, ← Mapping.field?, builtin]
  cases data.field? name <;> rfl

/-- A field for which nothing is built in, or its default, is judged as it is
given. -/
theorem checkField_merge_scalar {name : String} {default : α} {judge : Value → Checked α}
    (distinct : data.forms.Nodup)
    (builtin : ∀ b, lower.field? name = some b → ∃ c, b = .scalar c ∧ judge b = .ok default) :
    checkField (Mapping.merge lower data) name default judge =
      checkField data name default judge := by
  cases below : lower.field? name with
  | none =>
    rw [checkField, Mapping.field?, get?_merge distinct, ← Mapping.field?, ← Mapping.field?, below]
    cases found : data.field? name <;> simp [checkField, found]
  | some b =>
    obtain ⟨c, rfl, good⟩ := builtin b below
    rw [checkField_merge distinct below, checkField, good]
    cases data.field? name <;> simp

/-- A field for a mapping is judged as what is given for it, laid over what is
built in. -/
theorem checkField_merge_mapping {name : String} {default : α} {judge : Value → Checked α}
    {entries : Mapping} (distinct : data.forms.Nodup)
    (builtin : lower.field? name = some (.mapping entries)) :
    checkField (Mapping.merge lower data) name default judge =
      judge ((given data name).over (some (.mapping entries))) := by
  rw [checkField_merge distinct builtin, given]
  cases data.field? name with
  | none => simp [Value.over, Mapping.merge]
  | some v => rfl

theorem checkField_given {name : String} {default : α} {judge : Value → Checked α}
    (empty : judge (.mapping []) = .ok default) :
    checkField data name default judge = judge (given data name) := by
  rw [checkField, given]
  cases data.field? name <;> simp [empty]

theorem checkField_templates : checkField data "templates" [] Settings.checkTemplates =
    Settings.checkTemplates (given data "templates") :=
  checkField_given rfl

theorem checkField_editor : checkField data "editor" {} Settings.checkEditor =
    Settings.checkEditor (given data "editor") :=
  checkField_given rfl

theorem checkField_styles {place : List PathStep} :
    checkField data "styles" [] (checkTexts place) = checkTexts place (given data "styles") :=
  checkField_given rfl

theorem jsonLike_given (json : JsonLike (.mapping data)) (name : String) :
    JsonLike (given data name) := by
  rw [given]
  cases found : data.field? name with
  | none => exact .mapping List.nodup_nil (by simp [Mapping.keys]) (by simp)
  | some v =>
    obtain ⟨_, member, _⟩ := mem_of_get? found
    exact json.field member

private theorem builtinTemplates_accepted :
    ∀ entry ∈ builtinTemplates, Template.accepts entry.2 = true := by
  intro entry member
  simp only [builtinTemplates, List.mem_cons, List.not_mem_nil, or_false] at member
  rcases member with rfl | rfl | rfl <;> cbv

theorem checkTemplates_over_iff (json : JsonLike v) :
    Settings.checkTemplates (v.over (some (.mapping (textMapping builtinTemplates)))) =
        .ok templates ↔
      ∃ own, Settings.checkTemplates v = .ok own ∧ templates = overlaid builtinTemplates own := by
  have distinct : (builtinTemplates.map Prod.fst).Nodup := by decide
  simp only [checkTemplates_ok_iff, checkTexts_over_iff distinct json]
  constructor
  · rintro ⟨⟨own, read, rfl⟩, accepted⟩
    obtain rfl := (checkTexts_ok_iff json).mp read
    exact ⟨own, ⟨read,
      (forall_overlaid_iff (names_nodup json) builtinTemplates_accepted).mp accepted⟩, rfl⟩
  · rintro ⟨own, ⟨read, accepted⟩, rfl⟩
    obtain rfl := (checkTexts_ok_iff json).mp read
    exact ⟨⟨own, read, rfl⟩,
      (forall_overlaid_iff (names_nodup json) builtinTemplates_accepted).mpr accepted⟩

/-- The built-in settings of the editor. -/
def builtinEditor : Mapping := [
  textEntry "preview_sample" "#808080", sectionEntry "styles" (textMapping builtinStyles)]

private theorem checkPreviewSample_builtin (place : List PathStep) :
    EditorSettings.checkPreviewSample place (.text "#808080".toList) =
      .ok ({} : EditorSettings).previewSample :=
  checkPreviewSample_ok_iff.mpr ⟨rfl, .solid 128 128 128, by decide⟩

theorem checkEditorFields_over_iff {place : List PathStep} {editor : EditorSettings}
    (json : JsonLike (.mapping data)) :
    EditorSettings.check place (Mapping.merge builtinEditor data) = .ok editor ↔
      ∃ own, EditorSettings.check place data = .ok own ∧
        editor = { own with styles := overlaid builtinStyles own.styles } := by
  have distinct : (builtinStyles.map Prod.fst).Nodup := by decide
  have sample : checkField (Mapping.merge builtinEditor data) "preview_sample"
        ({} : EditorSettings).previewSample
        (EditorSettings.checkPreviewSample (place ++ [.field "preview_sample"])) =
      checkField data "preview_sample" ({} : EditorSettings).previewSample
        (EditorSettings.checkPreviewSample (place ++ [.field "preview_sample"])) := by
    refine checkField_merge_scalar json.distinct fun b same => ?_
    obtain rfl : .text "#808080".toList = b := Option.some.inj same
    exact ⟨_, rfl, checkPreviewSample_builtin _⟩
  have styles : checkField (Mapping.merge builtinEditor data) "styles" []
        (checkTexts (place ++ [.field "styles"])) =
      checkTexts (place ++ [.field "styles"])
        ((given data "styles").over (some (.mapping (textMapping builtinStyles)))) :=
    checkField_merge_mapping json.distinct rfl
  simp only [checkEditorFields_ok_iff, sample, styles, checkField_styles,
    checkTexts_over_iff distinct (jsonLike_given json "styles")]
  constructor
  · rintro ⟨sampleOk, texts, stylesOk, same⟩
    exact ⟨⟨editor.previewSample, texts⟩, ⟨sampleOk, stylesOk⟩, by rw [← same]⟩
  · rintro ⟨own, ⟨sampleOk, stylesOk⟩, rfl⟩
    exact ⟨sampleOk, own.styles, stylesOk, rfl⟩

theorem checkEditor_over_iff {editor : EditorSettings} (json : JsonLike v) :
    Settings.checkEditor (v.over (some (.mapping builtinEditor))) = .ok editor ↔
      ∃ own, Settings.checkEditor v = .ok own ∧
        editor = { own with styles := overlaid builtinStyles own.styles } := by
  cases v with
  | scalar => simp [Value.over, checkEditor_ok_iff]
  | list => simp [Value.over, checkEditor_ok_iff]
  | mapping entries =>
    simpa [Value.over, checkEditor_ok_iff] using checkEditorFields_over_iff json

private theorem given_templates (json : JsonLike (.mapping data))
    (checked : Settings.checkTemplates (given data "templates") = .ok templates) :
    given data "templates" = .mapping (textMapping templates) :=
  (checkTexts_ok_iff (jsonLike_given json "templates")).mp (checkTemplates_ok_iff.mp checked).1

private theorem distinctNames_of_check (json : JsonLike (.mapping data))
    (checked : Settings.checkTemplates (given data "templates") = .ok templates) :
    (templates.map Prod.fst).Nodup :=
  names_nodup (given_templates json checked ▸ jsonLike_given json "templates")

/-- No built-in template has the name of a preset. -/
private theorem apart_overlaid_iff (distinct : (templates.map Prod.fst).Nodup) :
    (∀ name ∈ Preset.names, (overlaid builtinTemplates templates).lookup name = none) ↔
      ∀ name ∈ Preset.names, templates.lookup name = none := by
  have below : ∀ name ∈ Preset.names, builtinTemplates.lookup name = none := by decide
  exact forall₂_congr fun name known => lookup_overlaid_eq_none_iff distinct (below name known)

/-- Checking a document of plain values over the built-in one gives what checking
it alone gives, with the built-in templates and styles under it. -/
theorem check_completed_iff (json : JsonLike (.mapping data)) {built : Settings} :
    Settings.check (Settings.completed data) = .ok built ↔
      ∃ plain, Settings.check data = .ok plain ∧ built = withBuiltin plain := by
  have format : checkField (Settings.completed data) "format" Preset.defaultName
        Settings.checkFormat =
      checkField data "format" Preset.defaultName Settings.checkFormat := by
    refine checkField_merge_scalar json.distinct fun b same => ?_
    obtain rfl : .text "hex".toList = b := Option.some.inj same
    exact ⟨_, rfl, checkFormat_ok_iff.mpr ⟨rfl, by decide⟩⟩
  have custom : checkField (Settings.completed data) "custom" none Settings.checkCustom =
      checkField data "custom" none Settings.checkCustom :=
    checkField_merge_scalar json.distinct fun b same => nomatch same
  have templates : checkField (Settings.completed data) "templates" [] Settings.checkTemplates =
      Settings.checkTemplates
        ((given data "templates").over (some (.mapping (textMapping builtinTemplates)))) :=
    checkField_merge_mapping json.distinct rfl
  have editor : checkField (Settings.completed data) "editor" {} Settings.checkEditor =
      Settings.checkEditor ((given data "editor").over (some (.mapping builtinEditor))) :=
    checkField_merge_mapping json.distinct rfl
  simp only [check_ok_iff, format, custom, templates, checkField_templates, editor,
    checkField_editor,
    checkTemplates_over_iff (jsonLike_given json "templates"),
    checkEditor_over_iff (jsonLike_given json "editor")]
  constructor
  · rintro ⟨formatOk, customOk, ⟨texts, textsOk, textsSame⟩, ⟨own, ownOk, ownSame⟩, apart⟩
    rw [textsSame, apart_overlaid_iff (distinctNames_of_check json textsOk)] at apart
    refine ⟨⟨built.format, built.custom, texts, own⟩,
      ⟨formatOk, customOk, textsOk, ownOk, apart⟩, ?_⟩
    rw [withBuiltin, ← textsSame, ← ownSame]
  · rintro ⟨plain, ⟨formatOk, customOk, textsOk, ownOk, apart⟩, rfl⟩
    exact ⟨formatOk, customOk, ⟨plain.templates, textsOk, rfl⟩, ⟨plain.editor, ownOk, rfl⟩,
      (apart_overlaid_iff (distinctNames_of_check json textsOk)).mpr apart⟩

theorem hasTextKeys_completed (json : JsonLike (.mapping data)) :
    (Settings.completed data).hasTextKeys = true := by
  have distinct : Settings.builtin.forms.Nodup := by decide
  rw [Mapping.hasTextKeys, List.all_eq_true, Settings.completed, keys_merge distinct json.distinct]
  intro key member
  rcases List.mem_append.mp member with below | above
  · have texts : Settings.builtin.hasTextKeys = true := rfl
    exact List.all_eq_true.mp texts key below
  · obtain ⟨name, rfl⟩ := json.textKeys key (List.mem_of_mem_filter above)
    rfl

theorem build_iff {source : Text} {built : Settings} (json : JsonLike (.mapping data)) :
    Settings.build source data = .ok built ↔
      ∃ plain, Settings.check data = .ok plain ∧ built = withBuiltin plain := by
  rw [Settings.build, if_pos (hasTextKeys_completed json), mapError_ok_iff, check_completed_iff json]

theorem templates_of_check (json : JsonLike (.mapping data)) {plain : Settings}
    (checked : Settings.check data = .ok plain) :
    given data "templates" = .mapping (textMapping plain.templates) := by
  obtain ⟨_, _, field, _⟩ := check_ok_iff.mp checked
  rw [checkField_templates] at field
  exact given_templates json field

theorem styles_of_check (json : JsonLike (.mapping data)) {plain : Settings}
    (checked : Settings.check data = .ok plain) :
    ∃ editor, given data "editor" = .mapping editor ∧
      given editor "styles" = .mapping (textMapping plain.editor.styles) := by
  obtain ⟨_, _, _, field, _⟩ := check_ok_iff.mp checked
  rw [checkField_editor] at field
  obtain ⟨editor, shape, fields⟩ := checkEditor_ok_iff.mp field
  have styles := (checkEditorFields_ok_iff.mp fields).2
  rw [checkField_styles] at styles
  have editorJson : JsonLike (.mapping editor) := shape ▸ jsonLike_given json "editor"
  exact ⟨editor, shape, (checkTexts_ok_iff (jsonLike_given editorJson "styles")).mp styles⟩

/-- A plain document over the built-in one gives settings exactly if it gives some
by itself. Both have one format, one custom template and one sample, and the
templates and the styles are the built-in ones, each with the text that is given
for it, followed by the others that are given. -/
theorem build_ok_iff_check_ok (source : Text) (json : JsonLike (.mapping data)) :
    ((∃ built, Settings.build source data = .ok built) ↔
      ∃ plain, Settings.check data = .ok plain) ∧
    ∀ built plain, Settings.build source data = .ok built → Settings.check data = .ok plain →
      built.format = plain.format ∧ built.custom = plain.custom ∧
      built.editor.previewSample = plain.editor.previewSample ∧
      given data "templates" = .mapping (textMapping plain.templates) ∧
      built.templates = overlaid builtinTemplates plain.templates ∧
      (∃ editor, given data "editor" = .mapping editor ∧
        given editor "styles" = .mapping (textMapping plain.editor.styles)) ∧
      built.editor.styles = overlaid builtinStyles plain.editor.styles := by
  refine ⟨⟨?_, ?_⟩, ?_⟩
  · rintro ⟨built, ok⟩
    obtain ⟨plain, checked, _⟩ := (build_iff json).mp ok
    exact ⟨plain, checked⟩
  · rintro ⟨plain, checked⟩
    exact ⟨withBuiltin plain, (build_iff json).mpr ⟨plain, checked, rfl⟩⟩
  · intro built plain ok checked
    obtain ⟨same, sameChecked, rfl⟩ := (build_iff json).mp ok
    obtain rfl : same = plain := Except.ok.inj (sameChecked.symm.trans checked)
    exact ⟨rfl, rfl, rfl, templates_of_check json checked, rfl, styles_of_check json checked, rfl⟩

private def ownTemplates : List (Text × Text) := [
  ("mine".toList, "%\x7b03g\x7d".toList), ("ansi".toList, "%\x7br\x7d".toList)]

private def ownStyles : List (Text × Text) := [
  ("cursor".toList, "bold".toList), ("pad".toList, "ansired".toList)]

private def ownSettings : Settings := { templates := ownTemplates, editor.styles := ownStyles }

/-- A document that replaces one of the built-in templates and adds another, and
that does the same with the styles. -/
def ownDocument : Mapping := [
  textEntry "note" "mine",
  sectionEntry "templates" (textMapping ownTemplates),
  sectionEntry "editor" [sectionEntry "styles" (textMapping ownStyles)]]

private theorem jsonLike_ownDocument : JsonLike (.mapping ownDocument) := by
  have templatesJson : JsonLike (.mapping (textMapping ownTemplates)) :=
    jsonLike_textMapping (by decide)
  have stylesJson : JsonLike (.mapping (textMapping ownStyles)) :=
    jsonLike_textMapping (by decide)
  have editorJson : JsonLike (.mapping [sectionEntry "styles" (textMapping ownStyles)]) :=
    .mapping (by decide) (by simp [Mapping.keys, sectionEntry])
      (List.forall_mem_singleton.mpr stylesJson)
  refine .mapping (by decide) (by simp [Mapping.keys, ownDocument, sectionEntry, textEntry]) ?_
  simp only [ownDocument, List.forall_mem_cons]
  exact ⟨.text _, templatesJson, editorJson, by simp⟩

theorem build_ok_iff_check_ok_own : JsonLike (.mapping ownDocument) ∧
    ∃ built, Settings.build "own".toList ownDocument = .ok built ∧
      built.format = "hex".toList ∧
      built.templates = [
        ("css".toList, "rgb(%\x7br\x7d, %\x7bg\x7d, %\x7bb\x7d)".toList),
        ("ansi".toList, "%\x7br\x7d".toList),
        ("hex-upper".toList, "#%\x7b02Hr\x7d%\x7b02Hg\x7d%\x7b02Hb\x7d".toList),
        ("mine".toList, "%\x7b03g\x7d".toList)] ∧
      built.editor.styles.map Prod.fst = ["literal".toList, "escape".toList, "expansion".toList,
        "pad".toList, "base".toList, "channel".toList, "error".toList, "cursor".toList] := by
  have checked : Settings.check ownDocument = .ok ownSettings := by cbv
  have both := build_ok_iff_check_ok "own".toList jsonLike_ownDocument
  obtain ⟨built, ok⟩ := both.1.mpr ⟨_, checked⟩
  obtain ⟨format, _, _, _, templates, _, styles⟩ := both.2 built _ ok checked
  refine ⟨jsonLike_ownDocument, built, ok, format, ?_, ?_⟩
  · rw [templates]
    decide
  · rw [styles]
    decide

end Swatch.SettingsDefaults
