import Swatch.Proofs.RequestReading
import Swatch.Proofs.SettingsUse

/-! Which formatter a run uses, and with which text an editing session begins.
Both are found in the same order: a text on the command line, a preset, a named
template, and last what the settings prefer. The options that exclude one another
and the check of the settings together leave two ways to fail. -/
namespace Swatch.FormatterChoice
open CommandLine RequestReading SettingsCheck SettingsUse TemplateReading

variable {words : List Text} {r : Request} {s : Settings} {e : RunError}

/-- The texts given to the three options for an output form. -/
structure Options where
  custom : Option Text := none
  preset : Option Text := none
  template : Option Text := none

/-- What the reading of a command line leaves of them: one at most, and of the
presets only those there are. -/
structure Allowed (o : Options) : Prop where
  custom : ∀ text, o.custom = some text → o.preset = none ∧ o.template = none
  preset : ∀ name, o.preset = some name → o.template = none ∧ name ∈ Preset.names

/-- The texts that a selection gives to the options. -/
def selectionOptions : Selection → Options
  | .custom (.text text) => { custom := some text }
  | .preset (.text name) => { preset := some name }
  | .template (.text name) => { template := some name }
  | _ => {}

/-- The texts that a request gives to the options. -/
def optionsOf (r : Request) : Options := r.selection.elim {} selectionOptions

/-- The option for an output form was given nothing. -/
def GivesNothing (r : Request) : Prop :=
  ∃ selection, r.selection = some selection ∧ valueOf selection = .nothing

/-- The choice between all the options at once, of which those that exclude one
another could both be given. -/
def chosen (o : Options) (s : Settings) : Except RunError Formatter :=
  if o.custom.isSome || o.preset.isSome then (Formatter.choose o.preset o.custom).mapError .choice
  else (s.formatter o.template).mapError .formatter

/-- The text to begin with, again from all the options at once. -/
def initial (o : Options) (s : Settings) : Except RunError Text :=
  match o.custom, o.template with
  | some text, _ => .ok text
  | none, some name => (s.templateText name).mapError .formatter
  | none, none => .ok (s.custom.getD [])

/-- What a formatter is made from. -/
inductive Origin where
  | template (text : Text)
  | preset (name : Text)
  | unknown (name : Text)

/-- The formatter made from an origin, if there is one. -/
def Origin.formatter : Origin → Except RunError Formatter
  | template text => ((Template.parse text).map .template).mapError fun e => .choice (.format e)
  | preset name => ((Preset.ofName name).map .preset).mapError fun e => .choice (.format e)
  | unknown name => .error (.formatter (.unknownTemplate name))

/-- The text of an origin. There is none to a preset. -/
def Origin.text : Origin → Except RunError Text
  | template text => .ok text
  | preset _ => .ok []
  | unknown name => .error (.formatter (.unknownTemplate name))

/-- The origin that comes first. Each one stands behind those before it, also if
the text of one of them is empty. -/
inductive Preferred (o : Options) (s : Settings) : Origin → Prop where
  | custom {text : Text} : o.custom = some text → Preferred o s (.template text)
  | preset {name : Text} : o.custom = none → o.preset = some name → Preferred o s (.preset name)
  | named {name text : Text} : o.custom = none → o.preset = none → o.template = some name →
      s.templates.lookup name = some text → Preferred o s (.template text)
  | unknown {name : Text} : o.custom = none → o.preset = none → o.template = some name →
      s.templates.lookup name = none → Preferred o s (.unknown name)
  | ownCustom {text : Text} : o.custom = none → o.preset = none → o.template = none →
      s.custom = some text → Preferred o s (.template text)
  | ownFormat : o.custom = none → o.preset = none → o.template = none → s.custom = none →
      Preferred o s (.preset s.format)

/-- The two ways to fail: a malformed text among the options, and a name that no
template of the settings has. -/
inductive Refused (o : Options) (s : Settings) : RunError → Prop where
  | malformed {text : Text} {position : Nat} : o.custom = some text →
      Template.parse text = .error (.malformed text position) →
      Refused o s (.choice (.format (.malformed text position)))
  | unknown {name : Text} : o.template = some name → s.templates.lookup name = none →
      Refused o s (.formatter (.unknownTemplate name))

theorem exists_preferred (o : Options) (s : Settings) : ∃ origin, Preferred o s origin := by
  cases custom : o.custom with
  | some text => exact ⟨_, .custom custom⟩
  | none =>
    cases preset : o.preset with
    | some name => exact ⟨_, .preset custom preset⟩
    | none =>
      cases template : o.template with
      | some name =>
        cases found : s.templates.lookup name with
        | some text => exact ⟨_, .named custom preset template found⟩
        | none => exact ⟨_, .unknown custom preset template found⟩
      | none =>
        cases own : s.custom with
        | some text => exact ⟨_, .ownCustom custom preset template own⟩
        | none => exact ⟨_, .ownFormat custom preset template own⟩

theorem preferred_unique {o : Options} {origin other : Origin} (first : Preferred o s origin)
    (second : Preferred o s other) : origin = other := by
  cases first <;> cases second <;> simp_all [-List.lookup_eq_none_iff]

/-- What the settings answer is what is made from the origin, for they hold no
malformed template and no unknown preset. -/
theorem formatter_of_preferred {o : Options} {origin : Origin} (sound : Sound s)
    (custom : o.custom = none) (preset : o.preset = none) (preferred : Preferred o s origin) :
    (s.formatter o.template).mapError .formatter = origin.formatter := by
  cases preferred with
  | custom given | preset _ given => simp_all
  | named _ _ given found =>
    obtain ⟨t, parsed, formatter⟩ := formatter_named sound found
    simp [given, formatter, Origin.formatter, parsed, Except.map, Except.mapError]
  | unknown _ _ given absent =>
    simp [given, formatter_unknown absent, Origin.formatter, Except.mapError]
  | ownCustom _ _ given own =>
    obtain ⟨t, parsed, formatter⟩ := formatter_custom sound own
    simp [given, formatter, Origin.formatter, parsed, Except.map, Except.mapError]
  | ownFormat _ _ given own =>
    obtain ⟨p, known, formatter⟩ := formatter_preset sound own
    simp [given, formatter, Origin.formatter, Preset.ofName, known, Except.map, Except.mapError]

theorem chosen_eq {o : Options} {origin : Origin} (allowed : Allowed o) (sound : Sound s)
    (preferred : Preferred o s origin) : chosen o s = origin.formatter := by
  unfold chosen
  cases custom : o.custom with
  | some text =>
    obtain ⟨preset, _⟩ := allowed.custom text custom
    obtain rfl := preferred_unique preferred (.custom custom)
    rw [preset]
    cases parsed : Template.parse text <;>
      simp [Formatter.choose, Origin.formatter, parsed, Except.map, Except.mapError]
  | none =>
    cases preset : o.preset with
    | some name =>
      obtain rfl := preferred_unique preferred (.preset custom preset)
      cases known : Preset.ofName name <;>
        simp [Formatter.choose, Origin.formatter, known, Except.map, Except.mapError]
    | none => simpa using formatter_of_preferred sound custom preset preferred

theorem initial_eq {o : Options} {origin : Origin} (preset : o.preset = none)
    (preferred : Preferred o s origin) : initial o s = origin.text := by
  cases preferred <;>
    simp_all [initial, Origin.text, Settings.templateText, Except.mapError,
      -List.lookup_eq_none_iff]

/-- From an origin a formatter is made, or else it is refused. -/
theorem made_or_refused {o : Options} {origin : Origin} (allowed : Allowed o) (sound : Sound s)
    (preferred : Preferred o s origin) :
    (∃ f, origin.formatter = .ok f) ∨ ∃ e, origin.formatter = .error e ∧ Refused o s e := by
  cases preferred with
  | @custom text given =>
    cases parsed : Template.parse text with
    | ok t =>
      exact .inl ⟨.template t, by simp [Origin.formatter, parsed, Except.map, Except.mapError]⟩
    | error failure =>
      obtain ⟨_, _, rfl⟩ := parse_error_iff.mp parsed
      exact .inr ⟨_, by simp [Origin.formatter, parsed, Except.map, Except.mapError],
        .malformed given parsed⟩
  | preset _ given =>
    obtain ⟨p, known⟩ := named_lookup (allowed.preset _ given).2
    exact .inl ⟨.preset p, by
      simp [Origin.formatter, Preset.ofName, known, Except.map, Except.mapError]⟩
  | named _ _ _ found =>
    obtain ⟨t, parsed, _⟩ := formatter_named sound found
    exact .inl ⟨.template t, by simp [Origin.formatter, parsed, Except.map, Except.mapError]⟩
  | unknown _ _ given absent => exact .inr ⟨_, rfl, .unknown given absent⟩
  | ownCustom _ _ _ own =>
    obtain ⟨t, parsed, _⟩ := formatter_custom sound own
    exact .inl ⟨.template t, by simp [Origin.formatter, parsed, Except.map, Except.mapError]⟩
  | ownFormat _ _ _ own =>
    obtain ⟨p, known, _⟩ := formatter_preset sound own
    exact .inl ⟨.preset p, by
      simp [Origin.formatter, Preset.ofName, known, Except.map, Except.mapError]⟩

/-- A named template is asked for alone. -/
theorem Allowed.alone {o : Options} {name : Text} (allowed : Allowed o)
    (given : o.template = some name) : o.custom = none ∧ o.preset = none := by
  cases custom : o.custom with
  | some text => simp [(allowed.custom text custom).2] at given
  | none =>
    cases preset : o.preset with
    | some other => simp [(allowed.preset other preset).1] at given
    | none => exact ⟨rfl, rfl⟩

theorem chosen_error_iff {o : Options} (allowed : Allowed o) (sound : Sound s) :
    chosen o s = .error e ↔ Refused o s e := by
  constructor
  · intro failed
    obtain ⟨origin, preferred⟩ := exists_preferred o s
    rw [chosen_eq allowed sound preferred] at failed
    rcases made_or_refused allowed sound preferred with ⟨f, made⟩ | ⟨e, refusal, refused⟩
    · rw [made] at failed
      cases failed
    · rw [refusal] at failed
      cases failed
      exact refused
  · rintro (⟨given, parsed⟩ | ⟨given, absent⟩)
    · rw [chosen_eq allowed sound (.custom given)]
      simp [Origin.formatter, parsed, Except.map, Except.mapError]
    · obtain ⟨custom, preset⟩ := allowed.alone given
      rw [chosen_eq allowed sound (.unknown custom preset given absent)]
      rfl

theorem allowed_of_asked (asked : Request.ofTexts words = .ok r) : Allowed (optionsOf r) := by
  have known := (proper_of_asked asked).known
  unfold optionsOf
  cases selected : r.selection with
  | none => exact ⟨nofun, nofun⟩
  | some selection =>
    rw [selected] at known
    cases selection with
    | preset value => 
      cases value with
      | nothing => exact ⟨nofun, nofun⟩
      | text name =>
        refine ⟨nofun, fun other same => ⟨rfl, ?_⟩⟩
        cases same
        exact known name rfl
    | custom value | template value =>
      cases value with
      | nothing => exact ⟨nofun, nofun⟩
      | text t => exact ⟨by simp [selectionOptions], by simp [selectionOptions]⟩

theorem preset_of_edit (asked : Request.ofTexts words = .ok r) (edits : r.edit = true) :
    (optionsOf r).preset = none := by
  have other := editing_ne_preset asked edits
  unfold optionsOf
  cases selected : r.selection with
  | none => rfl
  | some selection =>
    cases selection with
    | preset value => exact absurd selected (other value)
    | custom value | template value => cases value <;> rfl

/-- A request makes the choice between its options. -/
theorem formatter_eq (given : ¬GivesNothing r) : r.formatter s = chosen (optionsOf r) s := by
  unfold Request.formatter chosen optionsOf
  cases selected : r.selection with
  | none => rfl
  | some selection =>
    have something : valueOf selection ≠ .nothing := fun same => given ⟨selection, selected, same⟩
    cases selection with
    | preset value | custom value | template value =>
      cases value with
      | nothing => exact absurd rfl something
      | text t => rfl

theorem initialText_eq (given : ¬GivesNothing r) : r.initialText s = initial (optionsOf r) s := by
  unfold Request.initialText initial optionsOf
  cases selected : r.selection with
  | none => rfl
  | some selection =>
    have something : valueOf selection ≠ .nothing := fun same => given ⟨selection, selected, same⟩
    cases selection with
    | preset value | custom value | template value =>
      cases value with
      | nothing => exact absurd rfl something
      | text t => rfl

theorem initialText_of_opening {text : Text} {sample : Sample}
    (opened : r.opening s = .ok (text, sample)) : r.initialText s = .ok text := by
  obtain ⟨found, begins, opened⟩ := bind_ok_iff.mp opened
  obtain ⟨shown, _, opened⟩ := bind_ok_iff.mp opened
  obtain ⟨_, _, opened⟩ := bind_ok_iff.mp opened
  split at opened
  · cases opened
  · cases opened
    exact begins

/-- An option that was given nothing takes the place of one with a text, and in
the end of none. -/
theorem formatter_of_nothing {selection : Selection} (selected : r.selection = some selection)
    (nothing : valueOf selection = .nothing) : r.formatter s =
      if selection.opt = .custom then .ok (.template ⟨[], []⟩)
      else .error (.givenNothing selection.opt) := by
  unfold Request.formatter
  rw [selected]
  cases selection <;> cases nothing <;> rfl

theorem formatter_error_iff (allowed : Allowed (optionsOf r)) (sound : Sound s) :
    r.formatter s = .error e ↔ (¬GivesNothing r ∧ Refused (optionsOf r) s e) ∨
      ∃ selection, r.selection = some selection ∧ valueOf selection = .nothing ∧
        selection.opt ≠ .custom ∧ e = .givenNothing selection.opt := by
  by_cases given : GivesNothing r
  · obtain ⟨selection, selected, nothing⟩ := given
    rw [formatter_of_nothing selected nothing]
    constructor
    · intro failed
      split at failed
      · cases failed
      · rename_i other
        cases failed
        exact .inr ⟨selection, selected, nothing, other, rfl⟩
    · rintro (⟨none, _⟩ | ⟨found, same, _, other, rfl⟩)
      · exact absurd ⟨selection, selected, nothing⟩ none
      · obtain rfl := Option.some.inj (selected.symm.trans same)
        rw [if_neg other]
  · rw [formatter_eq given, chosen_error_iff allowed sound]
    constructor
    · exact fun refused => .inl ⟨given, refused⟩
    · rintro (⟨_, refused⟩ | ⟨selection, selected, nothing, _⟩)
      · exact refused
      · exact absurd ⟨selection, selected, nothing⟩ given

/-- The options for an output form exclude one another, and where none of them was
given nothing, the formatter of a run is made from the one origin that comes
first. It cannot be made for two reasons only. A session to edit, which selects no
preset, begins with the text of the same origin. An option is given nothing by a
word that ends with the divider. -/
theorem choice_exact (asked : Request.ofTexts words = .ok r) (obtained : Obtained s) :
    Allowed (optionsOf r) ∧
    (¬GivesNothing r →
      (∃ origin, Preferred (optionsOf r) s origin ∧
        (∀ other, Preferred (optionsOf r) s other → other = origin) ∧
        r.formatter s = origin.formatter ∧
        (r.edit = true → (optionsOf r).preset = none ∧ r.initialText s = origin.text ∧
          ∀ text sample, r.opening s = .ok (text, sample) → origin.text = .ok text)) ∧
      ∀ e, r.formatter s = .error e ↔ Refused (optionsOf r) s e) ∧
    (r.edit = true → ∀ value, r.selection ≠ some (.preset value)) ∧
    ∀ selection, r.selection = some selection → valueOf selection = .nothing →
      AttachesDivider words ∧ r.formatter s =
        if selection.opt = .custom then .ok (.template ⟨[], []⟩)
        else .error (.givenNothing selection.opt) := by
  have sound := sound_of_obtained obtained
  have allowed := allowed_of_asked asked
  refine ⟨allowed, fun given => ⟨?_, fun e => ?_⟩, editing_ne_preset asked,
    fun selection selected nothing =>
      ⟨(proper_of_asked asked).selected selection selected nothing,
        formatter_of_nothing selected nothing⟩⟩
  · obtain ⟨origin, preferred⟩ := exists_preferred (optionsOf r) s
    refine ⟨origin, preferred, fun other second => preferred_unique second preferred, ?_,
      fun edits => ?_⟩
    · rw [formatter_eq given, chosen_eq allowed sound preferred]
    · have none := preset_of_edit asked edits
      have begins : r.initialText s = origin.text := by
        rw [initialText_eq given, initial_eq none preferred]
      exact ⟨none, begins, fun text sample opened => begins ▸ initialText_of_opening opened⟩
  · rw [formatter_eq given]
    exact chosen_error_iff allowed sound

/-- Over settings with an empty custom template, a template that is named, one
that there is not, and a malformed text are asked for. -/
theorem choice_exact_emptyCustom : ∃ s, Settings.check emptyCustom = .ok s ∧
    (∃ r, Request.ofTexts (["-e", "-t", "red"].map String.toList) = .ok r ∧
      r.initialText s = .ok "%\x7b02hr\x7d".toList) ∧
    (∃ r, Request.ofTexts (["-t", "blue"].map String.toList) = .ok r ∧
      r.formatter s = .error (.formatter (.unknownTemplate "blue".toList))) ∧
    (∃ r, Request.ofTexts (["-c%", "#fff"].map String.toList) = .ok r ∧
      r.formatter s = .error (.choice (.format (.malformed ['%'] 0)))) ∧
    ∃ r, Request.ofTexts (["#fff"].map String.toList) = .ok r ∧
      r.formatter s = .ok (.template ⟨[], []⟩) := by
  have checked : Settings.check emptyCustom = .ok {
      format := "rgb".toList
      custom := some []
      templates := [("red".toList, "%\x7b02hr\x7d".toList)] } := by cbv
  have editAsked : Request.ofTexts (["-e", "-t", "red"].map String.toList) =
      .ok { selection := some (.template (.text "red".toList)), edit := true } := by cbv
  have blueAsked : Request.ofTexts (["-t", "blue"].map String.toList) =
      .ok { selection := some (.template (.text "blue".toList)) } := by cbv
  have badAsked : Request.ofTexts (["-c%", "#fff"].map String.toList) =
      .ok { selection := some (.custom (.text ['%'])), colors := ["#fff".toList] } := by cbv
  have plainAsked : Request.ofTexts (["#fff"].map String.toList) =
      .ok { colors := ["#fff".toList] } := by cbv
  have malformed : Template.parse ['%'] = .error (.malformed ['%'] 0) := by cbv
  refine ⟨_, checked, ⟨_, editAsked, ?_⟩, ⟨_, blueAsked, ?_⟩, ⟨_, badAsked, ?_⟩, ⟨_, plainAsked, ?_⟩⟩
  · obtain ⟨_, first, _⟩ := choice_exact editAsked (.checked checked)
    obtain ⟨⟨origin, _, unique, _, begins⟩, _⟩ := first (by simp [GivesNothing, valueOf])
    have named := unique _ (.named rfl rfl rfl rfl)
    rw [(begins rfl).2.1, ← named]
    rfl
  · obtain ⟨_, first, _⟩ := choice_exact blueAsked (.checked checked)
    exact ((first (by simp [GivesNothing, valueOf])).2 _).mpr (.unknown rfl rfl)
  · obtain ⟨_, first, _⟩ := choice_exact badAsked (.checked checked)
    exact ((first (by simp [GivesNothing, valueOf])).2 _).mpr (.malformed rfl malformed)
  · obtain ⟨_, first, _⟩ := choice_exact plainAsked (.checked checked)
    obtain ⟨⟨origin, _, unique, makes, _⟩, _⟩ := first (by simp [GivesNothing])
    have own := unique _ (.ownCustom rfl rfl rfl rfl)
    rw [makes, ← own]
    cbv

/-- With only the divider attached, the option for a template fails in a third
way, and the one for a text gives the template without parts. -/
theorem attached_divider_not_text : ∃ s, Settings.check [] = .ok s ∧
    (∃ r, Request.ofTexts (["-t--", "#fff"].map String.toList) = .ok r ∧
      r.formatter s = .error (.givenNothing .template) ∧
      ∀ o, ¬Refused o s (.givenNothing .template)) ∧
    ∃ r, Request.ofTexts (["--custom=--", "#fff"].map String.toList) = .ok r ∧
      r.formatter s = .ok (.template ⟨[], []⟩) ∧
      Template.parse "--".toList = .ok ⟨[.literal "--".toList], "--".toList⟩ := by
  have checked : Settings.check [] = .ok {} := by cbv
  have templateAsked : Request.ofTexts (["-t--", "#fff"].map String.toList) =
      .ok { selection := some (.template .nothing), colors := ["#fff".toList] } := by cbv
  have customAsked : Request.ofTexts (["--custom=--", "#fff"].map String.toList) =
      .ok { selection := some (.custom .nothing), colors := ["#fff".toList] } := by cbv
  have other (o : Options) : ¬Refused o {} (.givenNothing .template) := by
    intro refused
    cases refused
  exact ⟨_, checked, ⟨_, templateAsked, rfl, other⟩, _, customAsked, rfl, by cbv⟩

end Swatch.FormatterChoice
