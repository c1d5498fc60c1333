import Swatch.Proofs.DocumentMerge
import Swatch.Proofs.TemplateReading
import Swatch.Settings.Check

/-! What a check of settings establishes. Every judgement on a value succeeds
under one condition, and the check as a whole succeeds exactly if those on its
fields do and no template has the name of a preset. In a document of plain values
a mapping of texts is checked to be just that, entry by entry. -/
namespace Swatch.SettingsCheck
open DocumentMerge

variable {ε δ α β : Type} {data : Mapping} {v : Value}

theorem bind_ok_iff {x : Except ε α} {f : α → Except ε β} {b : β} :
    (x >>= f) = .ok b ↔ ∃ a, x = .ok a ∧ f a = .ok b := by
  cases x <;> simp [bind, Except.bind]

theorem map_ok_iff {x : Except ε α} {f : α → β} {b : β} :
    x.map f = .ok b ↔ ∃ a, x = .ok a ∧ f a = b := by
  cases x <;> simp [Except.map]

theorem mapError_ok_iff {x : Except ε α} {f : ε → δ} {a : α} :
    x.mapError f = .ok a ↔ x = .ok a := by
  cases x <;> simp [Except.mapError]

theorem bind_error_iff {x : Except ε α} {f : α → Except ε β} {e : ε} :
    (x >>= f) = .error e ↔ x = .error e ∨ ∃ a, x = .ok a ∧ f a = .error e := by
  cases x <;> simp [bind, Except.bind]

theorem mapError_error_iff {x : Except ε α} {f : ε → δ} {e : δ} :
    x.mapError f = .error e ↔ ∃ inner, x = .error inner ∧ f inner = e := by
  cases x <;> simp [Except.mapError]

theorem both_ok_iff {x : Checked α} {y : Checked β} {both : α × β} :
    Checked.both x y = .ok both ↔ x = .ok both.1 ∧ y = .ok both.2 := by
  obtain ⟨a, b⟩ := both
  cases x <;> cases y <;> simp [Checked.both]

@[simp] theorem problem_ne_ok {place : List PathStep} {complaint : Complaint} {a : α} :
    Checked.problem place complaint ≠ .ok a := by
  simp [Checked.problem]

theorem checkText_ok_iff {place : List PathStep} {t : Text} :
    checkText place v = .ok t ↔ readText v = .ok t := by
  unfold checkText
  cases readText v <;> simp

/-- Values as they stand in plain documents: no bytes and no dates, and mappings
from texts, none of them twice. -/
inductive JsonLike : Value → Prop where
  | null : JsonLike .null
  | bool (b : Bool) : JsonLike (.scalar (.bool b))
  | int (n : Int) : JsonLike (.scalar (.int n))
  | float (x : Binary64) : JsonLike (.scalar (.float x))
  | text (t : Text) : JsonLike (.text t)
  | list {items : List Value} : (∀ item ∈ items, JsonLike item) → JsonLike (.list items)
  | mapping {entries : Mapping} : entries.keys.Nodup → (∀ key ∈ entries.keys, ∃ t, key = .text t) →
      (∀ entry ∈ entries, JsonLike entry.2) → JsonLike (.mapping entries)

theorem JsonLike.field (json : JsonLike (.mapping data)) {key : Scalar} {value : Value}
    (member : (key, value) ∈ data) : JsonLike value := by
  cases json with
  | mapping _ _ entriesJson => exact entriesJson _ member

theorem JsonLike.textKeys (json : JsonLike (.mapping data)) :
    ∀ key ∈ data.keys, ∃ t, key = .text t := by
  cases json with
  | mapping _ names _ => exact names

theorem JsonLike.distinct (json : JsonLike (.mapping data)) : data.forms.Nodup := by
  cases json with
  | mapping distinct names _ => exact forms_nodup_of_texts names distinct

theorem jsonLike_mapping_iff : JsonLike (.mapping data) ↔
    data.keys.Nodup ∧ (∀ key ∈ data.keys, ∃ t, key = .text t) ∧
      ∀ entry ∈ data, JsonLike entry.2 := by
  constructor
  · intro json
    exact ⟨json.distinct.of_map _, json.textKeys, fun _ => json.field⟩
  · rintro ⟨distinct, texts, inside⟩
    exact .mapping distinct texts inside

/-- Plain mappings laid over each other are plain if their values are. -/
private theorem jsonLike_merge {lower upper : Mapping} (lowerJson : JsonLike (.mapping lower))
    (json : JsonLike (.mapping upper))
    (overJson : ∀ entry ∈ upper, ∀ b, JsonLike b → JsonLike (entry.2.over (some b))) :
    JsonLike (.mapping (Mapping.merge lower upper)) := by
  refine .mapping ((forms_merge_nodup lowerJson.distinct json.distinct).of_map _) ?_ ?_
  · intro key member
    rw [keys_merge lowerJson.distinct json.distinct, List.mem_append] at member
    exact member.elim (lowerJson.textKeys key) fun above =>
      json.textKeys key (List.mem_of_mem_filter above)
  · intro entry member
    rw [merge_eq lowerJson.distinct json.distinct, List.mem_append] at member
    rcases member with below | above
    · obtain ⟨entry, inside, rfl⟩ := List.mem_map.mp below
      have entryJson : JsonLike entry.2 := lowerJson.field inside
      rw [entryUnder]
      cases found : upper.get? entry.1 with
      | none => exact entryJson
      | some value =>
        obtain ⟨key, member, _⟩ := mem_of_get? found
        exact overJson _ member _ entryJson
    · exact json.field (List.mem_of_mem_filter above)

/-- A plain value laid over another is plain. -/
theorem JsonLike.over (json : JsonLike v) {below : Option Value}
    (belowJson : ∀ b, below = some b → JsonLike b) : JsonLike (v.over below) := by
  induction json generalizing below with
  | mapping distinct names entriesJson ih =>
    have whole := JsonLike.mapping distinct names entriesJson
    match below with
    | none => simpa using whole
    | some (.scalar c) => simpa using whole
    | some (.list items) => simpa [Value.over] using whole
    | some (.mapping lower) =>
      refine jsonLike_merge (belowJson _ rfl) whole fun entry member b bJson => ?_
      exact ih entry member fun c same => Option.some.inj same ▸ bJson
  | list items => exact .list items
  | _ => constructor

/-- Texts under names, as entries of a mapping. -/
def textMapping (texts : List (Text × Text)) : Mapping :=
  texts.map fun entry => (.text entry.1, .text entry.2)

theorem textMapping_inj {texts others : List (Text × Text)} :
    textMapping texts = textMapping others ↔ texts = others := by
  refine List.map_inj_right fun entry other same => ?_
  simpa [Prod.ext_iff] using same

theorem keys_textMapping (texts : List (Text × Text)) :
    (textMapping texts).keys = (texts.map Prod.fst).map Scalar.text := by
  simp [textMapping, Mapping.keys]

theorem readText_ok_iff (json : JsonLike v) {t : Text} : readText v = .ok t ↔ v = .text t := by
  cases json <;> simp [readText]

private theorem checkEntry_ok_iff {place : List PathStep} {name : Text} (json : JsonLike v)
    {entry : Text × Text} : checkEntry place (.text name, v) = .ok entry ↔
      name = entry.1 ∧ v = .text entry.2 := by
  simp only [checkEntry, both_ok_iff, checkText_ok_iff, readText_ok_iff json,
    readText_ok_iff (.text name), Value.scalar.injEq, Scalar.text.injEq]

private theorem checkEntries_ok_iff {place : List PathStep} {entries : Mapping}
    (names : ∀ key ∈ entries.keys, ∃ t, key = .text t)
    (json : ∀ entry ∈ entries, JsonLike entry.2) {texts : List (Text × Text)} :
    checkEntries place entries = .ok texts ↔ entries = textMapping texts := by
  induction entries generalizing texts with
  | nil => cases texts <;> simp [checkEntries, textMapping]
  | cons entry rest ih =>
    obtain ⟨key, value⟩ := entry
    obtain ⟨⟨name, rfl⟩, restNames⟩ := List.forall_mem_cons.mp names
    obtain ⟨valueJson, restJson⟩ := List.forall_mem_cons.mp json
    have restIff := @ih restNames restJson
    simp only [checkEntries, map_ok_iff, both_ok_iff, checkEntry_ok_iff valueJson, restIff]
    constructor
    · rintro ⟨both, ⟨⟨same, valueSame⟩, restSame⟩, rfl⟩
      simp [textMapping, same, valueSame, restSame]
    · intro same
      cases texts with
      | nil => cases same
      | cons first others =>
        obtain ⟨firstSame, restSame⟩ := List.cons.inj same
        obtain ⟨nameSame, valueSame⟩ := Prod.mk.inj firstSame
        exact ⟨(first, others), ⟨⟨Scalar.text.inj nameSame, valueSame⟩, restSame⟩, rfl⟩

/-- Texts whose names differ are put one behind the other. -/
private theorem foldl_putText {texts known : List (Text × Text)}
    (distinct : ((known ++ texts).map Prod.fst).Nodup) :
    texts.foldl putText known = known ++ texts := by
  induction texts generalizing known with
  | nil => simp
  | cons entry rest ih =>
    have absent : known.lookup entry.1 = none := by
      rw [List.map_append, List.nodup_append] at distinct
      refine List.lookup_eq_none_iff.mpr fun other member => ?_
      have differs := distinct.2.2 other.1 (List.mem_map_of_mem member) entry.1 (by simp)
      simpa using differs.symm
    rw [List.foldl_cons, putText, absent, Option.isSome_none, if_neg (by simp),
      ih (by simpa using distinct), List.append_assoc, List.singleton_append]

/-- The texts of a plain mapping are its entries. -/
theorem checkTexts_ok_iff {place : List PathStep} (json : JsonLike v)
    {texts : List (Text × Text)} :
    checkTexts place v = .ok texts ↔ v = .mapping (textMapping texts) := by
  cases json with
  | mapping distinct names json =>
    rename_i entries
    simp only [checkTexts, Value.mapping?, Option.elim, map_ok_iff,
      checkEntries_ok_iff names json, Value.mapping.injEq]
    have put {found : List (Text × Text)} (same : entries = textMapping found) :
        found.foldl putText [] = found := by
      rw [same, keys_textMapping] at distinct
      exact foldl_putText (distinct.of_map _)
    constructor
    · rintro ⟨found, same, rfl⟩
      rw [put same]
      exact same
    · intro same
      exact ⟨texts, same, put same⟩
  | _ => simp [checkTexts, Value.mapping?]

/-- A field is judged where it is given, and has its default where it is not. -/
theorem checkField_ok_iff {name : String} {default a : α} {judge : Value → Checked α} :
    checkField data name default judge = .ok a ↔
      (data.field? name = none ∧ a = default) ∨
        ∃ v, data.field? name = some v ∧ judge v = .ok a := by
  cases given : data.field? name <;> simp [checkField, given, eq_comm]

/-- What holds of the default and of every value that is judged good holds of
the field. -/
theorem checkField_holds {name : String} {default a : α} {judge : Value → Checked α}
    {P : α → Prop} (found : checkField data name default judge = .ok a) (atDefault : P default)
    (judged : ∀ v, judge v = .ok a → P a) : P a := by
  rcases checkField_ok_iff.mp found with ⟨_, rfl⟩ | ⟨v, _, good⟩
  · exact atDefault
  · exact judged v good

theorem checkFormat_ok_iff {name : Text} :
    Settings.checkFormat v = .ok name ↔ readText v = .ok name ∧ name ∈ Preset.names := by
  simp only [Settings.checkFormat, bind_ok_iff, checkText_ok_iff]
  constructor
  · rintro ⟨found, read, judged⟩
    split at judged
    · rename_i known
      cases judged
      exact ⟨read, List.contains_iff_mem.mp known⟩
    · exact absurd judged problem_ne_ok
  · rintro ⟨read, known⟩
    exact ⟨name, read, if_pos (List.contains_iff_mem.mpr known)⟩

/-- Nothing at all is no custom template, and any other value has to be one. -/
theorem checkCustom_ok_iff {custom : Option Text} :
    Settings.checkCustom v = .ok custom ↔ (v = .null ∧ custom = none) ∨
      ∃ text, readText v = .ok text ∧ Template.accepts text = true ∧ custom = some text := by
  unfold Settings.checkCustom
  split
  · simpa [readText] using eq_comm
  · rename_i other
    simp only [bind_ok_iff, checkText_ok_iff]
    constructor
    · rintro ⟨text, read, judged⟩
      split at judged
      · rename_i accepted
        cases judged
        exact .inr ⟨text, read, accepted, rfl⟩
      · exact absurd judged problem_ne_ok
    · rintro (⟨rfl, _⟩ | ⟨text, read, accepted, rfl⟩)
      · exact absurd rfl other
      · exact ⟨text, read, if_pos accepted⟩

theorem checkTemplates_ok_iff {templates : List (Text × Text)} :
    Settings.checkTemplates v = .ok templates ↔
      checkTexts [.field "templates"] v = .ok templates ∧
        ∀ entry ∈ templates, Template.accepts entry.2 = true := by
  simp only [Settings.checkTemplates, bind_ok_iff]
  constructor
  · rintro ⟨texts, read, judged⟩
    split at judged
    · rename_i none_refused
      cases judged
      exact ⟨read, by simpa using none_refused⟩
    · exact absurd judged problem_ne_ok
  · rintro ⟨read, accepted⟩
    have none_refused : (templates.find? fun entry => !Template.accepts entry.2) = none := by
      simpa using accepted
    exact ⟨templates, read, by rw [none_refused]; rfl⟩

theorem checkPreviewSample_ok_iff {place : List PathStep} {text : Text} :
    EditorSettings.checkPreviewSample place v = .ok text ↔
      readText v = .ok text ∧ ∃ sample, Sample.read text = .ok sample := by
  simp only [EditorSettings.checkPreviewSample, bind_ok_iff, checkText_ok_iff]
  constructor
  · rintro ⟨found, read, judged⟩
    split at judged
    · rename_i sample sampled
      cases judged
      exact ⟨read, sample, sampled⟩
    · exact absurd judged problem_ne_ok
  · rintro ⟨read, sample, sampled⟩
    exact ⟨text, read, by rw [sampled]; rfl⟩

theorem checkEditorFields_ok_iff {place : List PathStep} {editor : EditorSettings} :
    EditorSettings.check place data = .ok editor ↔
      checkField data "preview_sample" ({} : EditorSettings).previewSample
        (EditorSettings.checkPreviewSample (place ++ [.field "preview_sample"])) =
          .ok editor.previewSample ∧
      checkField data "styles" [] (checkTexts (place ++ [.field "styles"])) =
        .ok editor.styles := by
  simp only [EditorSettings.check, map_ok_iff, both_ok_iff, Prod.exists]
  constructor
  · rintro ⟨sample, styles, judged, rfl⟩
    exact judged
  · intro judged
    exact ⟨_, _, judged, rfl⟩

theorem checkEditor_ok_iff {editor : EditorSettings} :
    Settings.checkEditor v = .ok editor ↔
      ∃ entries, v = .mapping entries ∧
        EditorSettings.check [.field "editor"] entries = .ok editor := by
  cases v <;> simp [Settings.checkEditor, Value.mapping?]

theorem clashes_eq_nil_iff {templates : List (Text × Text)} :
    Settings.clashes templates = [] ↔
      ∀ name ∈ Preset.names, templates.lookup name = none := by
  rw [Settings.clashes, ← List.length_eq_zero_iff, List.length_mergeSort,
    List.length_eq_zero_iff, List.filter_eq_nil_iff]
  simp only [Bool.not_eq_true, Option.isSome_eq_false_iff, Option.isNone_iff_eq_none]

/-- No template hides a preset exactly if no entry has the name of one. -/
theorem apart_iff {templates : List (Text × Text)} :
    (∀ name ∈ Preset.names, templates.lookup name = none) ↔
      ∀ entry ∈ templates, entry.1 ∉ Preset.names := by
  simp only [List.lookup_eq_none_iff]
  constructor
  · intro apart entry member known
    simpa using apart entry.1 known entry member
  · intro apart name known entry member
    simpa using fun same : name = entry.1 => apart entry member (same ▸ known)

/-- Settings come from a mapping exactly if each of their fields does, and no
template hides a preset. -/
theorem check_ok_iff {s : Settings} : Settings.check data = .ok s ↔
    checkField data "format" Preset.defaultName Settings.checkFormat = .ok s.format ∧
    checkField data "custom" none Settings.checkCustom = .ok s.custom ∧
    checkField data "templates" [] Settings.checkTemplates = .ok s.templates ∧
    checkField data "editor" {} Settings.checkEditor = .ok s.editor ∧
    ∀ name ∈ Preset.names, s.templates.lookup name = none := by
  simp only [Settings.check, bind_ok_iff, both_ok_iff, Prod.exists]
  constructor
  · rintro ⟨format, custom, templates, editor, ⟨formatOk, customOk, templatesOk, editorOk⟩, judged⟩
    split at judged
    · rename_i apart
      cases judged
      exact ⟨formatOk, customOk, templatesOk, editorOk,
        clashes_eq_nil_iff.mp (List.isEmpty_iff.mp apart)⟩
    · exact absurd judged problem_ne_ok
  · rintro ⟨formatOk, customOk, templatesOk, editorOk, apart⟩
    refine ⟨_, _, _, _, ⟨formatOk, customOk, templatesOk, editorOk⟩, ?_⟩
    rw [clashes_eq_nil_iff.mpr apart]
    rfl

end Swatch.SettingsCheck
