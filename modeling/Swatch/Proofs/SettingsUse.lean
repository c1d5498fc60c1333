import Mathlib
import Swatch.CommandLine.Run
import Swatch.Proofs.SettingsCheck

/-! What settings are good for once they are obtained. A template that is
malformed, a preset that does not exist and a sample that cannot be read are
found when settings are checked, so that nothing of the kind is left for those
who use them. -/
namespace Swatch.SettingsUse
open DocumentMerge SettingsCheck TemplateReading

variable {s : Settings}

/-- The ways in which settings are obtained: from a mapping as it is, from one
laid over the built-in document, from a document text, and from a file. -/
inductive Obtained : Settings → Prop where
  | checked {data : Mapping} {s : Settings} : Settings.check data = .ok s → Obtained s
  | built {source : Text} {data : Mapping} {s : Settings} :
      Settings.build source data = .ok s → Obtained s
  | read {text : Text} {s : Settings} : Settings.ofText text = .ok s → Obtained s
  | loaded {path : Text} {found : FileEntry} {s : Settings} :
      Settings.load path found = .ok s → Obtained s

/-- Settings of which every part is good for its use. -/
structure Sound (s : Settings) : Prop where
  format : s.format ∈ Preset.names
  custom : ∀ text, s.custom = some text → Template.accepts text = true
  templates : ∀ entry ∈ s.templates, Template.accepts entry.2 = true
  apart : ∀ name ∈ Preset.names, s.templates.lookup name = none
  sample : ∃ sample, s.editor.sample = .ok sample

/-- Settings whose formatters can all be had and used. -/
structure Dependable (s : Settings) : Prop where
  custom : ∀ text, s.custom = some text →
    ∃ t, Template.parse text = .ok t ∧ s.formatter none = .ok (.template t)
  preset : s.custom = none →
    ∃ p, Preset.named.lookup s.format = some p ∧ s.formatter none = .ok (.preset p)
  named : ∀ name text, s.templates.lookup name = some text →
    ∃ t, Template.parse text = .ok t ∧ s.formatter (some name) = .ok (.template t)
  unknown : ∀ name, s.templates.lookup name = none →
    s.formatter (some name) = .error (.unknownTemplate name)
  noFormatError : ∀ choice e, s.formatter choice ≠ .error (.format e)
  sample : ∃ sample, s.editor.sample = .ok sample
  apart : ∀ entry ∈ s.templates, entry.1 ∉ Preset.names
  /-- A run that leaves the choice to the settings, or names one of their
  templates, has a line for each sample that it is given, which is what the
  formatter renders of it. -/
  renders : ∀ choice f (r : CommandLine.Request) input samples,
    s.formatter choice = .ok f →
    r.selection = choice.map (fun name => .template (.text name)) →
    (r.colorTexts input).mapM Sample.read = .ok samples →
    r.rendered s input = .ok (samples.map f.render)

private theorem default_sample : ∃ sample, ({} : EditorSettings).sample = .ok sample :=
  ⟨.solid 128 128 128, by decide⟩

theorem sound_of_check {data : Mapping} (checked : Settings.check data = .ok s) : Sound s := by
  obtain ⟨format, custom, templates, editor, apart⟩ := check_ok_iff.mp checked
  refine ⟨?_, ?_, ?_, apart, ?_⟩
  · refine checkField_holds (P := (· ∈ Preset.names)) format (by decide) fun v judged => ?_
    exact (checkFormat_ok_iff.mp judged).2
  · refine checkField_holds (P := fun custom => ∀ text, custom = some text →
      Template.accepts text = true) custom (by simp) fun v judged text given => ?_
    rcases checkCustom_ok_iff.mp judged with ⟨_, absent⟩ | ⟨found, _, accepted, same⟩
    · rw [given] at absent
      cases absent
    · rw [given] at same
      cases same
      exact accepted
  · refine checkField_holds (P := fun templates => ∀ entry ∈ templates,
      Template.accepts entry.2 = true) templates (by simp) fun v judged => ?_
    exact (checkTemplates_ok_iff.mp judged).2
  · refine checkField_holds (P := fun editor => ∃ sample, editor.sample = .ok sample) editor
      default_sample fun v judged => ?_
    obtain ⟨entries, _, fields⟩ := checkEditor_ok_iff.mp judged
    refine checkField_holds (P := fun text => ∃ sample, Sample.read text = .ok sample)
      (checkEditorFields_ok_iff.mp fields).1 default_sample fun v judged => ?_
    exact (checkPreviewSample_ok_iff.mp judged).2

private theorem sound_of_build {source : Text} {data : Mapping}
    (built : Settings.build source data = .ok s) : Sound s := by
  unfold Settings.build at built
  split at built
  · exact sound_of_check (mapError_ok_iff.mp built)
  · cases built

/-- However settings are obtained, a check has passed them. -/
theorem sound_of_obtained (obtained : Obtained s) : Sound s := by
  cases obtained with
  | checked checked => exact sound_of_check checked
  | built built => exact sound_of_build built
  | read read =>
    obtain ⟨data, _, built⟩ := bind_ok_iff.mp read
    exact sound_of_build built
  | loaded loaded =>
    obtain ⟨data, _, built⟩ := bind_ok_iff.mp loaded
    exact sound_of_build built

theorem named_lookup {name : Text} (known : name ∈ Preset.names) :
    ∃ p, Preset.named.lookup name = some p := by
  cases found : Preset.named.lookup name with
  | some p => exact ⟨p, rfl⟩
  | none =>
    obtain ⟨entry, member, rfl⟩ := List.mem_map.mp known
    simpa using List.lookup_eq_none_iff.mp found entry member

/-- The custom template is parsed once more when it is used, as it was for the
check. -/
theorem formatter_custom (sound : Sound s) {text : Text} (given : s.custom = some text) :
    ∃ t, Template.parse text = .ok t ∧ s.formatter none = .ok (.template t) := by
  obtain ⟨t, parsed⟩ := accepts_iff.mp (sound.custom text given)
  exact ⟨t, parsed, by simp [Settings.formatter, given, parsed, Except.map, Except.mapError]⟩

theorem formatter_preset (sound : Sound s) (absent : s.custom = none) :
    ∃ p, Preset.named.lookup s.format = some p ∧ s.formatter none = .ok (.preset p) := by
  obtain ⟨p, found⟩ := named_lookup sound.format
  exact ⟨p, found, by
    simp [Settings.formatter, absent, Preset.ofName, found, Except.map, Except.mapError]⟩

theorem formatter_named (sound : Sound s) {name text : Text}
    (found : s.templates.lookup name = some text) :
    ∃ t, Template.parse text = .ok t ∧ s.formatter (some name) = .ok (.template t) := by
  obtain ⟨t, parsed⟩ := accepts_iff.mp (sound.templates _ (mem_of_lookup found))
  exact ⟨t, parsed, by
    simp [Settings.formatter, Settings.templateText, found, parsed, bind, Except.bind,
      Except.map, Except.mapError]⟩

theorem formatter_unknown {name : Text} (absent : s.templates.lookup name = none) :
    s.formatter (some name) = .error (.unknownTemplate name) := by
  simp [Settings.formatter, Settings.templateText, absent, bind, Except.bind]

/-- Only a name that no template has stands in the way of a formatter. -/
theorem formatter_ne_format (sound : Sound s) (choice : Option Text) (e : FormatError) :
    s.formatter choice ≠ .error (.format e) := by
  cases choice with
  | none =>
    cases given : s.custom with
    | none =>
      obtain ⟨p, _, found⟩ := formatter_preset sound given
      simp [found]
    | some text =>
      obtain ⟨t, _, found⟩ := formatter_custom sound given
      simp [found]
  | some name =>
    cases given : s.templates.lookup name with
    | none => simp [formatter_unknown given]
    | some text =>
      obtain ⟨t, _, found⟩ := formatter_named sound given
      simp [found]

/-- A run whose formatter can be had renders all samples with it. -/
theorem rendered_of_formatter {r : CommandLine.Request} {input : Text} {f : Formatter}
    {samples : List Sample} (chosen : r.formatter s = .ok f)
    (read : (r.colorTexts input).mapM Sample.read = .ok samples) :
    r.rendered s input = .ok (samples.map f.render) := by
  simp [CommandLine.Request.rendered, chosen, read, bind, Except.bind, pure, Except.pure,
    Except.mapError]

/-- Settings that were obtained in any way give a formatter whenever none is
named, and for exactly the names of their templates otherwise. No malformed
template and no unknown preset is ever met, the sample of the editor can be read,
no template hides a preset, and every formatter renders. -/
theorem dependable_of_obtained (obtained : Obtained s) : Dependable s := by
  have sound := sound_of_obtained obtained
  refine ⟨fun _ => formatter_custom sound, formatter_preset sound,
    fun _ _ => formatter_named sound, fun _ => formatter_unknown,
    formatter_ne_format sound, sound.sample, apart_iff.mp sound.apart, ?_⟩
  intro choice f r input samples chosen selected read
  refine rendered_of_formatter ?_ read
  cases choice <;> simp [CommandLine.Request.formatter, selected, chosen, Except.mapError]

/-- A document with a custom template that is empty, which still takes precedence
over the format. -/
def emptyCustom : Mapping := [
  textEntry "format" "rgb",
  textEntry "custom" "",
  sectionEntry "templates" [textEntry "red" "%\x7b02hr\x7d"]]

theorem dependable_of_obtained_emptyCustom : ∃ s, Settings.check emptyCustom = .ok s ∧
    s.custom = some [] ∧ s.formatter none = .ok (.template ⟨[], []⟩) ∧
    (∃ t, s.formatter (some "red".toList) = .ok (.template t) ∧
      t.render (.solid 10 0 0) = "0a".toList) ∧
    s.formatter (some "blue".toList) = .error (.unknownTemplate "blue".toList) := by
  have checked : Settings.check emptyCustom = .ok {
      format := "rgb".toList
      custom := some []
      templates := [("red".toList, "%\x7b02hr\x7d".toList)] } := by cbv
  have dependable := dependable_of_obtained (.checked checked)
  obtain ⟨empty, emptyParsed, custom⟩ := dependable.custom [] rfl
  obtain ⟨red, redParsed, named⟩ := dependable.named "red".toList _ rfl
  have emptySame : empty = ⟨[], []⟩ := Except.ok.inj (emptyParsed.symm.trans (by cbv))
  have redSame : red =
      ⟨[.expansion ⟨.red, .lowerHex, some ⟨'0', 2, by decide⟩⟩], "%\x7b02hr\x7d".toList⟩ :=
    Except.ok.inj (redParsed.symm.trans (by cbv))
  refine ⟨_, checked, rfl, emptySame ▸ custom, ⟨red, named, ?_⟩, dependable.unknown _ rfl⟩
  rw [redSame]
  cbv

end Swatch.SettingsUse
