import Swatch.Proofs.DocumentMerge
import Swatch.Proofs.SettingsCheck
import Swatch.Settings.Loading

/-! Which failures of loading are reported as errors of the configuration. A
document that can be read is either used as settings or reported, unless a key at
its top is no text. Of the files, one that does not exist gives the built-in
settings, and a directory in the place of one is not reported. -/
namespace Swatch.SettingsLoading
open DocumentMerge SettingsCheck

variable {α β : Type} {text path source : Text} {data lower upper : Mapping} {key : Scalar}
  {found : FileEntry} {e failure : LoadError}

/-- Whether loading gives settings or an error of the configuration. -/
def handled : Except LoadError Settings → Bool
  | .ok _ => true
  | .error (.config _) => true
  | .error _ => false

/-- A result that is a failure, and none that is an error of the configuration. -/
def Escapes (result : Except LoadError α) (e : LoadError) : Prop :=
  result = .error e ∧ ∀ c, e ≠ .config c

/-- A text that either holds a document or breaks the rules of the format. -/
def Readable (text : Text) : Prop :=
  (∃ v, Yaml.read text = .ok v) ∨ Yaml.read text = .error .malformed

/-- One of the keys is no text. -/
def HasOtherKey (data : Mapping) : Prop := ∃ key ∈ data.keys, ∀ t, key ≠ .text t

/-- The document of a text is a mapping with a key that is no text. -/
def HasOtherKeyAtTop (text : Text) : Prop :=
  ∃ data, Yaml.read text = .ok (.mapping data) ∧ HasOtherKey data

/-- The failures with a document text that are not reported. -/
inductive TextFault (text : Text) : LoadError → Prop where
  | otherKey : HasOtherKeyAtTop text → TextFault text .nonTextKey
  | tooDeep : Yaml.read text = .error .tooDeep → TextFault text .tooDeep
  | scalar {fault : Yaml.ScalarFault} :
      Yaml.read text = .error (.scalar fault) → TextFault text (.scalar fault)

/-- The failures with what stands at the path of a file that are not reported. -/
inductive EntryFault : FileEntry → LoadError → Prop where
  | directory : EntryFault .directory .directory
  | tooLong : EntryFault .tooLong .pathTooLong
  | text {content : Text} {e : LoadError} :
      TextFault content.withPlainBreaks e → EntryFault (.text content) e

@[simp] theorem not_escapes_ok (a : α) (e : LoadError) : ¬Escapes (.ok a) e := by
  simp [Escapes]

@[simp] theorem not_escapes_config (c : ConfigError) (e : LoadError) :
    ¬Escapes (.error (.config c) : Except LoadError α) e := by
  rintro ⟨same, escapes⟩
  cases same
  exact escapes c rfl

theorem escapes_error_iff (escapes : ∀ c, failure ≠ .config c) :
    Escapes (.error failure : Except LoadError α) e ↔ e = failure := by
  constructor
  · rintro ⟨same, _⟩
    cases same
    rfl
  · rintro rfl
    exact ⟨rfl, escapes⟩

theorem escapes_bind_iff {x : Except LoadError α} {f : α → Except LoadError β} :
    Escapes (x >>= f) e ↔ Escapes x e ∨ ∃ a, x = .ok a ∧ Escapes (f a) e := by
  cases x <;> simp [bind, Except.bind, Escapes]

theorem handled_iff {result : Except LoadError Settings} :
    handled result = true ↔ ∀ e, ¬Escapes result e := by
  cases result with
  | ok s => simp [handled]
  | error e =>
    cases e with
    | config c => simp [handled]
    | _ => simp [handled, escapes_error_iff]

theorem hasTextKeys_iff : data.hasTextKeys = true ↔ ¬HasOtherKey data := by
  rw [Mapping.hasTextKeys, List.all_eq_true, HasOtherKey]
  push Not
  refine forall₂_congr fun key _ => ?_
  cases key <;> simp

theorem hasOtherKey_iff : HasOtherKey data ↔ ∃ form ∈ data.forms, ∀ t, form ≠ .text t := by
  simp [HasOtherKey, Mapping.forms]

/-- The built-in document brings no other keys than texts. -/
theorem completed_hasTextKeys_iff :
    (Settings.completed data).hasTextKeys = true ↔ ¬HasOtherKey data := by
  have builtin : ¬HasOtherKey Settings.builtin := hasTextKeys_iff.mp (by decide)
  rw [hasTextKeys_iff, not_iff_not, hasOtherKey_iff, hasOtherKey_iff, Settings.completed]
  simp only [mem_forms_merge]
  constructor
  · rintro ⟨form, below | above, other⟩
    · exact absurd (hasOtherKey_iff.mpr ⟨form, below, other⟩) builtin
    · exact ⟨form, above, other⟩
  · rintro ⟨form, above, other⟩
    exact ⟨form, .inr above, other⟩

theorem build_escapes_iff :
    Escapes (Settings.build source data) e ↔ HasOtherKey data ∧ e = .nonTextKey := by
  unfold Settings.build
  split
  · rename_i texts
    have none : ¬HasOtherKey data := completed_hasTextKeys_iff.mp texts
    cases Settings.check (Settings.completed data) <;> simp [Except.mapError, none]
  · rename_i other
    have some : HasOtherKey data := not_not.mp (completed_hasTextKeys_iff.not.mp other)
    simp [escapes_error_iff, some]

theorem readMapping_ok_iff : Settings.readMapping source text = .ok data ↔
    Yaml.read text = .ok (.mapping data) ∨ Yaml.read text = .ok .null ∧ data = [] := by
  cases read : Yaml.read text with
  | error fault => cases fault <;> simp [Settings.readMapping, read]
  | ok v =>
    cases v with
    | scalar c => cases c <;> simp [Settings.readMapping, read, eq_comm]
    | list items => simp [Settings.readMapping, read]
    | mapping entries => simp [Settings.readMapping, read]

/-- Whatever is wrong with a document that a text holds is reported. -/
theorem readMapping_escapes_iff : Escapes (Settings.readMapping source text) e ↔
    (Yaml.read text = .error .tooDeep ∧ e = .tooDeep) ∨
      ∃ fault, Yaml.read text = .error (.scalar fault) ∧ e = .scalar fault := by
  cases read : Yaml.read text with
  | error fault => cases fault <;> simp [Settings.readMapping, read, escapes_error_iff]
  | ok v =>
    cases v with
    | scalar c => cases c <;> simp [Settings.readMapping, read]
    | list items => simp [Settings.readMapping, read]
    | mapping entries => simp [Settings.readMapping, read]

/-- What is read from a text escapes for a fault of the text alone, whatever the
sources are called. -/
theorem escapes_iff_textFault {other : Text} :
    Escapes (Settings.readMapping source text >>= Settings.build other) e ↔ TextFault text e := by
  rw [escapes_bind_iff, readMapping_escapes_iff]
  simp only [build_escapes_iff, readMapping_ok_iff]
  constructor
  · rintro ((⟨read, rfl⟩ | ⟨fault, read, rfl⟩) | ⟨data, read | ⟨_, rfl⟩, otherKey, rfl⟩)
    · exact .tooDeep read
    · exact .scalar read
    · exact .otherKey ⟨data, read, otherKey⟩
    · simp [HasOtherKey, Mapping.keys] at otherKey
  · rintro (⟨data, read, otherKey⟩ | read | read)
    · exact .inr ⟨data, .inl read, otherKey, rfl⟩
    · exact .inl (.inl ⟨read, rfl⟩)
    · exact .inl (.inr ⟨_, read, rfl⟩)

theorem ofText_escapes_iff : Escapes (Settings.ofText text) e ↔ TextFault text e :=
  escapes_iff_textFault

/-- A file that does not exist gives the built-in settings. -/
theorem load_absent (path : Text) : ∃ s, Settings.load path .absent = .ok s := by
  have good : (Settings.check (Settings.completed [])).toOption.isSome = true := by decide +kernel
  have texts : (Settings.completed []).hasTextKeys = true := by decide
  cases checked : Settings.check (Settings.completed []) with
  | error problems => simp [checked, Except.toOption] at good
  | ok s =>
    exact ⟨s, by simp [Settings.load, Settings.readFile, Settings.build, texts, checked, bind,
      Except.bind, Except.mapError]⟩

theorem load_escapes_iff : Escapes (Settings.load path found) e ↔ EntryFault found e := by
  cases found with
  | absent =>
    obtain ⟨s, loaded⟩ := load_absent path
    rw [loaded]
    exact iff_of_false (not_escapes_ok s e) nofun
  | directory =>
    refine (escapes_error_iff (by simp)).trans ⟨?_, ?_⟩
    · rintro rfl
      exact .directory
    · rintro ⟨⟩
      rfl
  | tooLong =>
    refine (escapes_error_iff (by simp)).trans ⟨?_, ?_⟩
    · rintro rfl
      exact .tooLong
    · rintro ⟨⟩
      rfl
  | text content =>
    have fault : EntryFault (.text content) e ↔ TextFault content.withPlainBreaks e :=
      ⟨fun | .text fault => fault, .text⟩
    rw [fault]
    exact escapes_iff_textFault

theorem source_of_build {c : ConfigError}
    (failed : Settings.build source data = .error (.config c)) : c.source = source := by
  unfold Settings.build at failed
  split at failed
  · cases checked : Settings.check (Settings.completed data) with
    | ok s => simp [checked, Except.mapError] at failed
    | error problems =>
      simp only [checked, Except.mapError, Except.error.injEq, LoadError.config.injEq] at failed
      rw [← failed]
      rfl
  · cases failed

theorem source_of_readMapping {c : ConfigError}
    (failed : Settings.readMapping source text = .error (.config c)) : c.source = source := by
  unfold Settings.readMapping at failed
  split at failed <;> cases failed <;> rfl

/-- An error of the configuration names the path that was loaded. -/
theorem source_of_load {c : ConfigError} (failed : Settings.load path found = .error (.config c)) :
    c.source = path := by
  unfold Settings.load at failed
  cases read : Settings.readFile path found with
  | error e =>
    rw [read] at failed
    cases failed
    cases found with
    | text content => exact source_of_readMapping read
    | absent | directory | tooLong => cases read
  | ok data =>
    rw [read] at failed
    exact source_of_build failed

/-- A text that holds a document, or breaks the rules of the format, is handled
exactly if its document has no other keys than texts at its top. What stands at a
path is handled unless one of its faults escapes, which are those of a directory,
of a path that is too long, and of a text; then the fault is the failure. -/
theorem handled_exactly (text path : Text) (found : FileEntry) :
    (Readable text → (handled (Settings.ofText text) = true ↔ ¬HasOtherKeyAtTop text)) ∧
    (∀ e, Escapes (Settings.ofText text) e ↔ TextFault text e) ∧
    (handled (Settings.load path found) = true ↔ ∀ e, ¬EntryFault found e) ∧
    (∀ e, Escapes (Settings.load path found) e ↔ EntryFault found e) ∧
    (∀ c, Settings.load path found = .error (.config c) → c.source = path) ∧
    ∃ s, Settings.load path .absent = .ok s := by
  refine ⟨fun readable => ?_, fun e => ofText_escapes_iff, ?_, fun e => load_escapes_iff,
    fun c => source_of_load, load_absent path⟩
  · rw [handled_iff]
    simp only [ofText_escapes_iff]
    constructor
    · exact fun none otherKey => none _ (.otherKey otherKey)
    · rintro texts e (otherKey | read | read)
      · exact texts otherKey
      all_goals
        rcases readable with ⟨v, found⟩ | broken <;> simp_all
  · rw [handled_iff]
    simp only [load_escapes_iff]

/-- A number as a key, and the directory in which the program is started. -/
theorem number_key_not_handled :
    (Readable "1: 2".toList ∧ handled (Settings.ofText "1: 2".toList) = false) ∧
    (Workspace.ofFiles []).find (.ofText ".".toList) = .directory ∧
      handled (Settings.load ".".toList .directory) = false := by
  have some : (Yaml.read "1: 2".toList).toOption.isSome = true := by decide +kernel
  have readable : Readable "1: 2".toList := by
    cases read : Yaml.read "1: 2".toList with
    | ok v => exact .inl ⟨v, read⟩
    | error fault =>
      rw [read] at some
      cases some
  exact ⟨⟨readable, by decide +kernel⟩, by decide, rfl⟩

end Swatch.SettingsLoading
