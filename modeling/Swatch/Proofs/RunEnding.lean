import Swatch.Proofs.ColorOutput
import Swatch.Proofs.EditorSession
import Swatch.Proofs.FormatterChoice
import Swatch.Proofs.SettingsLoading

/-! How a run ends. It exits with one of four codes unless it fails in a way that
it has no message for, or waits for keys. Each of these failures is found in the
step of the run at which it is met, and there are no others. -/
namespace Swatch.RunEnding
open CommandLine ColorOutput EditorSession FormatterChoice RequestReading
open SettingsCheck SettingsLoading SettingsUse
open Editor (State Snapshot)

variable {words : List Text} {s : Surroundings} {r : Request}
  {settings : Settings} {input : Text} {keys : List Key} {sample : Sample} {e why : RunError}
  {takes : Char → Bool} {result : Option (Except RunError (List Text))}

/-- A failure without a message, which is not an interrupt. -/
def Silent (e : RunError) : Prop := e ≠ .interrupted ∧ e.message? = none

/-- A run finds settings at the path of its settings. -/
def Loads (s : Surroundings) (r : Request) (settings : Settings) : Prop :=
  ∃ path, r.settingsPath? s.home = some path ∧
    Settings.load path.text (r.settingsEntry s path) = .ok settings

/-- The failures to show samples that no message is made for. -/
inductive ShowingFault (r : Request) (settings : Settings) (input : Text) : RunError → Prop where
  | selection {selection : Selection} : r.selection = some selection →
      valueOf selection = .nothing → selection.opt ≠ .custom →
      ShowingFault r settings input (.givenNothing selection.opt)
  | color {f : Formatter} {front rest : List Text} {bad : Text} {samples : List Sample}
      {part : Numeral.TooLong} : r.formatter settings = .ok f →
      ColorTexts r input (front ++ bad :: rest) → ReadAs front samples →
      Sample.read bad = .error (.tooLong part) →
      ShowingFault r settings input (.color (.tooLong part))

/-- The failures of an editing session that no message is made for. -/
inductive EditingFault (r : Request) (settings : Settings) (keys : List Key) : RunError → Prop where
  | template : r.selection = some (.template .nothing) →
      EditingFault r settings keys (.givenNothing .template)
  | color {text bad : Text} {rest : List Text} {part : Numeral.TooLong} :
      r.initialText settings = .ok text → r.colors = bad :: rest →
      Sample.read bad = .error (.tooLong part) →
      EditingFault r settings keys (.color (.tooLong part))
  | style {text : Text} {sample : Sample} {e : StyleError} :
      r.initialText settings = .ok text → r.previewSample settings = .ok sample →
      Style.checkAll (StyleClass.table settings.editor.styles) = .error e →
      EditingFault r settings keys (.style e)
  | custom {sample : Sample} : r.previewSample settings = .ok sample →
      Style.checkAll (StyleClass.table settings.editor.styles) = .ok () →
      r.selection = some (.custom .nothing) → EditingFault r settings keys (.givenNothing .custom)
  | closed {text : Text} {sample : Sample} {front rest : List Key} {last : State} :
      r.opening settings = .ok (text, sample) → keys = front ++ .close :: rest →
      after (.start text) front = some last → last.line.text = [] →
      EditingFault r settings keys .inputClosed

/-- The failures to print, which are met at the first line that the output cannot
take. The lines show samples, or there is one with the text that was accepted. -/
inductive PrintingFault (s : Surroundings) (r : Request) (settings : Settings) :
    RunError → Prop where
  | shown {f : Formatter} {texts : List Text} {front rest : List Sample} {sample : Sample} :
      r.edit = false → r.formatter settings = .ok f → ColorTexts r s.input texts →
      ReadAs texts (front ++ sample :: rest) →
      (∀ other ∈ front, Taken s.takes (f.render other)) → ¬Taken s.takes (f.render sample) →
      PrintingFault s r settings (.unencodable (f.render sample))
  | accepted {text : Text} {sample : Sample} {front rest : List Key} {last : State} :
      r.edit = true → r.opening settings = .ok (text, sample) → s.keys = front ++ .enter :: rest →
      after (.start text) front = some last →
      (∃ template, Template.parse last.line.text = .ok template) →
      ¬Taken s.takes last.line.text →
      PrintingFault s r settings (.unencodable last.line.text)

/-- The failures of a run that no message is made for: those to find settings, then
those to show samples or to edit, and those to print what comes of it. -/
inductive Unreported (s : Surroundings) (r : Request) : RunError → Prop where
  | config : r.config = some .nothing → Unreported s r (.givenNothing .config)
  | loading {path : Path} {e : LoadError} : r.settingsPath? s.home = some path →
      EntryFault (r.settingsEntry s path) e → Unreported s r (.loading e)
  | showing {settings : Settings} {e : RunError} : r.edit = false → Loads s r settings →
      ShowingFault r settings s.input e → Unreported s r e
  | editing {settings : Settings} {e : RunError} : r.edit = true → Loads s r settings →
      EditingFault r settings s.keys e → Unreported s r e
  | printing {settings : Settings} {e : RunError} : Loads s r settings →
      PrintingFault s r settings e → Unreported s r e

/-- A result with lines to print, of which the first that the output cannot take is
given. -/
def StopsAt (takes : Char → Bool) (result : Option (Except RunError (List Text))) (line : Text) :
    Prop :=
  ∃ front rest, result = some (.ok (front ++ line :: rest)) ∧
    (∀ other ∈ front, Taken takes other) ∧ ¬Taken takes line

/-- A run whose editing session was not ended by its keys. -/
inductive Waits (s : Surroundings) (r : Request) : Prop where
  | session {settings : Settings} {text : Text} {sample : Sample} {last : State} :
      r.edit = true → Loads s r settings → r.opening settings = .ok (text, sample) →
      after (.start text) s.keys = some last → Waits s r

/-- How a run ends with its result. -/
def endOf (takes : Char → Bool) (result : Option (Except RunError (List Text))) : RunEnd :=
  (Outcome.ofResult takes [] [] result).ending

theorem ending_escaped_iff : e.ending = .escaped why ↔ e = why ∧ Silent e := by
  unfold RunError.ending Silent
  split
  · simp_all
  · split
    · rename_i shown
      simp [Option.isSome_iff_ne_none.mp shown]
    · simp_all

/-- A failure exits with one of two codes, if it does. -/
theorem code_of_ending {code : Nat} (ended : e.ending = .exit code) :
    (code = 130 ∧ e = .interrupted) ∨ (code = 1 ∧ ∃ message, e.message? = some message) := by
  unfold RunError.ending at ended
  split at ended
  · rename_i same
    cases ended
    exact .inl ⟨rfl, same⟩
  · split at ended
    · rename_i shown
      cases ended
      exact .inr ⟨rfl, Option.isSome_iff_exists.mp shown⟩
    · cases ended

theorem endOf_lines (takes : Char → Bool) (lines : List Text) :
    endOf takes (some (.ok lines)) = (printLines takes lines).2.elim (.exit 0) fun line =>
      .escaped (.unencodable line) := rfl

/-- A run is stopped by a failure without a message, or by a line that it prints. -/
theorem endOf_escaped_iff : endOf takes result = .escaped why ↔
    (result = some (.error why) ∧ Silent why) ∨
      ∃ line, StopsAt takes result line ∧ why = .unencodable line := by
  rcases result with _ | e | lines
  · simp [endOf, Outcome.ofResult, StopsAt]
  · have stays : ∀ line, ¬StopsAt takes (some (.error e)) line := by
      rintro line ⟨_, _, same, _⟩
      cases same
    have ended : endOf takes (some (.error e)) = e.ending := rfl
    rw [ended, ending_escaped_iff, Option.some.injEq, Except.error.injEq]
    simp only [stays, false_and, exists_false, or_false]
    exact and_congr_right fun same => by rw [same]
  · have stops (line : Text) : StopsAt takes (some (.ok lines)) line ↔
        (printLines takes lines).2 = some line := by
      rw [printLines_refused_iff, StopsAt]
      simp
    simp only [stops, endOf_lines]
    cases (printLines takes lines).2 <;> simp [eq_comm]

theorem endOf_waiting_iff : endOf takes result = .waiting ↔ result = none := by
  rcases result with _ | e | lines
  · exact iff_of_true rfl rfl
  · have ended : endOf takes (some (.error e)) = e.ending := rfl
    rw [ended, RunError.ending]
    split
    · simp
    · split <;> simp
  · rw [endOf_lines]
    cases (printLines takes lines).2 <;> simp

theorem silent_loading_iff {e : LoadError} : Silent (.loading e) ↔ ∀ c, e ≠ .config c := by
  cases e <;> simp [Silent, RunError.message?]

theorem silent_color_iff {e : ColorError} : Silent (.color e) ↔ ∃ part, e = .tooLong part := by
  cases e <;> simp [Silent, RunError.message?]

theorem not_silent_formatter (e : FormatterError) : ¬Silent (.formatter e) := by
  cases e <;> simp [Silent, RunError.message?]

/-- The end of a run does not depend on what it reports. -/
theorem ending_ofResult (takes : Char → Bool) (reports : Text) (trace : List Snapshot)
    (result : Option (Except RunError (List Text))) :
    (Outcome.ofResult takes reports trace result).ending = endOf takes result := by
  rcases result with _ | e | lines <;> rfl

theorem settingsPath_none_iff {home : Text} :
    r.settingsPath? home = none ↔ r.config = some .nothing := by
  unfold Request.settingsPath?
  split <;> simp_all

theorem readAs_of_mapM {texts : List Text} {samples : List Sample}
    (read : texts.mapM Sample.read = .ok samples) : ReadAs texts samples := by
  induction texts generalizing samples with
  | nil =>
    cases read
    exact .nil
  | cons text texts ih =>
    rw [List.mapM_cons] at read
    obtain ⟨sample, first, read⟩ := bind_ok_iff.mp read
    obtain ⟨others, rest, read⟩ := bind_ok_iff.mp read
    cases read
    exact .cons first (ih rest)

/-- A traversal fails with the first text that is refused. -/
theorem mapM_error_iff {texts : List Text} {e : ColorError} :
    texts.mapM Sample.read = .error e ↔ ∃ front bad rest samples,
      texts = front ++ bad :: rest ∧ ReadAs front samples ∧ Sample.read bad = .error e := by
  constructor
  · intro failed
    induction texts with
    | nil => cases failed
    | cons text texts ih =>
      rw [List.mapM_cons, bind_error_iff] at failed
      rcases failed with refused | ⟨sample, read, failed⟩
      · exact ⟨[], text, texts, [], rfl, .nil, refused⟩
      · rw [bind_error_iff] at failed
        rcases failed with later | ⟨_, _, done⟩
        · obtain ⟨front, bad, rest, samples, rfl, frontRead, refused⟩ := ih later
          exact ⟨text :: front, bad, rest, _, rfl, .cons read frontRead, refused⟩
        · cases done
  · rintro ⟨front, bad, rest, samples, rfl, read, refused⟩
    exact mapM_of_refused read refused

theorem not_silent_of_refused {o : Options} (refused : Refused o settings e) : ¬Silent e := by
  cases refused <;> simp [Silent, RunError.message?]

/-- A formatter that is refused is reported. Not reported is one that was given
nothing. -/
theorem formatter_silent_iff (allowed : Allowed (optionsOf r)) (sound : Sound settings) :
    r.formatter settings = .error e ∧ Silent e ↔ ∃ selection, r.selection = some selection ∧
      valueOf selection = .nothing ∧ selection.opt ≠ .custom ∧ e = .givenNothing selection.opt := by
  rw [formatter_error_iff allowed sound]
  constructor
  · rintro ⟨⟨_, refused⟩ | given, silent⟩
    · exact absurd silent (not_silent_of_refused refused)
    · exact given
  · intro given
    obtain ⟨_, _, _, _, rfl⟩ := id given
    exact ⟨.inr given, nofun, rfl⟩

theorem initialText_silent_iff : r.initialText settings = .error e ∧ Silent e ↔
    r.selection = some (.template .nothing) ∧ e = .givenNothing .template := by
  unfold Request.initialText
  split
  · simp_all
  · rename_i name selected
    constructor
    · rintro ⟨failed, silent⟩
      obtain ⟨inner, _, rfl⟩ := mapError_error_iff.mp failed
      exact absurd silent (not_silent_formatter inner)
    · rintro ⟨same, _⟩
      rw [selected] at same
      cases same
  · rename_i selected
    constructor
    · rintro ⟨same, _⟩
      cases same
      exact ⟨selected, rfl⟩
    · rintro ⟨_, rfl⟩
      exact ⟨rfl, nofun, rfl⟩
  · rename_i other _
    simp_all

/-- The sample of the settings can be read, so that only a color given fails. -/
theorem previewSample_silent_iff (sound : Sound settings) :
    r.previewSample settings = .error e ∧ Silent e ↔ ∃ bad rest part, r.colors = bad :: rest ∧
      Sample.read bad = .error (.tooLong part) ∧ e = .color (.tooLong part) := by
  unfold Request.previewSample
  rw [mapError_error_iff]
  cases colors : r.colors with
  | nil =>
    obtain ⟨sample, read⟩ := sound.sample
    simp [read]
  | cons bad rest =>
    constructor
    · rintro ⟨⟨inner, refused, rfl⟩, silent⟩
      obtain ⟨part, rfl⟩ := silent_color_iff.mp silent
      exact ⟨bad, rest, part, rfl, refused, rfl⟩
    · rintro ⟨_, _, part, same, refused, rfl⟩
      cases same
      exact ⟨⟨_, refused, rfl⟩, silent_color_iff.mpr ⟨part, rfl⟩⟩

theorem rendered_silent_iff (allowed : Allowed (optionsOf r)) (sound : Sound settings) :
    r.rendered settings input = .error e ∧ Silent e ↔ ShowingFault r settings input e := by
  unfold Request.rendered
  rw [bind_error_iff]
  constructor
  · rintro ⟨failed | ⟨f, formatter, failed⟩, silent⟩
    · obtain ⟨selection, selected, nothing, other, rfl⟩ :=
        (formatter_silent_iff allowed sound).mp ⟨failed, silent⟩
      exact .selection selected nothing other
    · rcases bind_error_iff.mp failed with failed | ⟨_, _, done⟩
      · obtain ⟨inner, stopped, rfl⟩ := mapError_error_iff.mp failed
        obtain ⟨part, rfl⟩ := silent_color_iff.mp silent
        obtain ⟨front, bad, rest, samples, split, read, refused⟩ := mapM_error_iff.mp stopped
        obtain ⟨texts, named⟩ := exists_colorTexts r input
        have same := (colorTexts_of_named named).symm.trans split
        exact .color formatter (same ▸ named) read refused
      · cases done
  · rintro (⟨selected, nothing, other⟩ | ⟨formatter, named, read, refused⟩)
    · obtain ⟨failed, silent⟩ := (formatter_silent_iff allowed sound).mpr
        ⟨_, selected, nothing, other, rfl⟩
      exact ⟨.inl failed, silent⟩
    · refine ⟨.inr ⟨_, formatter, ?_⟩, silent_color_iff.mpr ⟨_, rfl⟩⟩
      rw [colorTexts_of_named named, mapM_of_refused read refused]
      rfl

/-- The failures to begin a session are those of it that come without any key. -/
theorem opening_silent_iff (sound : Sound settings) : r.opening settings = .error e ∧ Silent e ↔
    EditingFault r settings keys e ∧ e ≠ .inputClosed := by
  unfold Request.opening
  simp only [bind_error_iff]
  constructor
  · rintro ⟨failed | ⟨text, begins, failed | ⟨sample, shown, failed⟩⟩, silent⟩
    · obtain ⟨selected, rfl⟩ := initialText_silent_iff.mp ⟨failed, silent⟩
      exact ⟨.template selected, nofun⟩
    · obtain ⟨bad, rest, part, colors, refused, rfl⟩ :=
        (previewSample_silent_iff sound).mp ⟨failed, silent⟩
      exact ⟨.color begins colors refused, nofun⟩
    · rcases failed with failed | ⟨_, usable, failed⟩
      · obtain ⟨style, unusable, rfl⟩ := mapError_error_iff.mp failed
        exact ⟨.style begins shown unusable, nofun⟩
      · split at failed
        · rename_i selected
          cases failed
          exact ⟨.custom shown (mapError_ok_iff.mp usable) selected, nofun⟩
        · cases failed
  · rintro ⟨fault, notClosed⟩
    cases fault with
    | template selected =>
      obtain ⟨failed, silent⟩ : r.initialText settings = .error _ ∧ _ :=
        initialText_silent_iff.mpr ⟨selected, rfl⟩
      exact ⟨.inl failed, silent⟩
    | color begins colors refused =>
      obtain ⟨failed, silent⟩ := (previewSample_silent_iff sound).mpr
        ⟨_, _, _, colors, refused, rfl⟩
      exact ⟨.inr ⟨_, begins, .inl failed⟩, silent⟩
    | style begins shown failed =>
      exact ⟨.inr ⟨_, begins, .inr ⟨_, shown, .inl (by rw [failed]; rfl)⟩⟩, nofun, rfl⟩
    | custom shown usable selected =>
      refine ⟨.inr ⟨settings.custom.getD [], ?_, .inr ⟨_, shown, .inr ⟨(), ?_, ?_⟩⟩⟩, nofun, rfl⟩
      · simp [Request.initialText, selected]
      · rw [usable]
        rfl
      · rw [if_pos selected]
        rfl
    | closed => exact absurd rfl notClosed

/-- A session that was begun fails in two ways. -/
theorem edited_error_iff {text : Text} (opened : r.opening settings = .ok (text, sample)) :
    (r.edited settings keys).2 = some (.error e) ↔
      ((Editor.run sample (.start text) keys).2 = some .interrupted ∧ e = .interrupted) ∨
        ((Editor.run sample (.start text) keys).2 = some .closed ∧ e = .inputClosed) := by
  rw [edited_of_opened opened]
  rcases (Editor.run sample (.start text) keys).2 with _ | ending
  · simp
  · cases ending <;> simp [Request.printed, eq_comm]

theorem edited_silent_iff (sound : Sound settings) :
    (r.edited settings keys).2 = some (.error e) ∧ Silent e ↔ EditingFault r settings keys e := by
  have atOpening : r.opening settings = .error e ∧ Silent e ↔
      EditingFault r settings keys e ∧ e ≠ .inputClosed := opening_silent_iff sound
  cases opened : r.opening settings with
  | error failure =>
    rw [opened, Except.error.injEq] at atOpening
    rw [edited_of_error opened, Option.some.injEq, Except.error.injEq, atOpening]
    refine ⟨And.left, fun fault => ⟨fault, ?_⟩⟩
    rintro rfl
    cases fault with
    | closed other => simp [opened] at other
  | ok begun =>
    obtain ⟨text, sample⟩ := begun
    rw [opened] at atOpening
    rw [edited_error_iff opened]
    constructor
    · rintro ⟨⟨_, rfl⟩ | ⟨ended, rfl⟩, silent⟩
      · exact absurd rfl silent.1
      · obtain ⟨front, rest, last, whole, reached, empty⟩ := closed_iff.mp ended
        exact .closed opened whole reached empty
    · intro fault
      by_cases atEnd : e = .inputClosed
      · subst atEnd
        cases fault with
        | closed same whole reached empty =>
          rw [opened] at same
          cases same
          exact ⟨.inr ⟨closed_iff.mpr ⟨_, _, _, whole, reached, empty⟩, rfl⟩, nofun, rfl⟩
      · cases (atOpening.mpr ⟨fault, atEnd⟩).1

theorem obtained_of_loads (loads : Loads s r settings) : Obtained settings := by
  obtain ⟨path, _, loaded⟩ := loads
  exact .loaded loaded

theorem loads_unique {other : Settings} (loads : Loads s r settings) (others : Loads s r other) :
    settings = other := by
  obtain ⟨path, located, loaded⟩ := loads
  obtain ⟨found, same, otherLoaded⟩ := others
  obtain rfl : path = found := Option.some.inj (located.symm.trans same)
  exact Except.ok.inj (loaded.symm.trans otherLoaded)

theorem ending_of_located {path : Path} (located : r.settingsPath? s.home = some path) :
    (r.run s).ending =
      endOf s.takes (r.result s (Settings.load path.text (r.settingsEntry s path))).2 := by
  rw [Request.run, located]
  exact ending_ofResult _ _ _ _

/-- What comes of the work of a run, once its settings are loaded. -/
def workOf (s : Surroundings) (r : Request) (settings : Settings) :
    Option (Except RunError (List Text)) :=
  if r.edit then (r.edited settings s.keys).2 else some (r.rendered settings s.input)

theorem ending_of_loads (loads : Loads s r settings) :
    (r.run s).ending = endOf s.takes (workOf s r settings) := by
  obtain ⟨path, located, loaded⟩ := loads
  rw [ending_of_located located, loaded, Request.result, workOf]
  split <;> rfl

theorem rendered_ok_iff {lines : List Text} : r.rendered settings input = .ok lines ↔
    ∃ f texts samples, r.formatter settings = .ok f ∧ ColorTexts r input texts ∧
      ReadAs texts samples ∧ lines = samples.map f.render := by
  constructor
  · intro done
    obtain ⟨f, chosen, done⟩ := bind_ok_iff.mp done
    obtain ⟨samples, read, done⟩ := bind_ok_iff.mp done
    obtain ⟨texts, named⟩ := exists_colorTexts r input
    rw [mapError_ok_iff, colorTexts_of_named named] at read
    exact ⟨f, texts, samples, chosen, named, readAs_of_mapM read, (Except.ok.inj done).symm⟩
  · rintro ⟨f, texts, samples, chosen, named, read, rfl⟩
    rw [rendered_eq chosen, colorTexts_of_named named, mapM_of_readAs read]
    rfl

/-- What stops a run that prints is a line for a sample, or the accepted text. -/
theorem printingFault_iff : PrintingFault s r settings why ↔
    ∃ line, StopsAt s.takes (workOf s r settings) line ∧ why = .unencodable line := by
  constructor
  · rintro (@⟨f, texts, front, rest, sample, unedited, chosen, named, read, taken, refused⟩ |
      ⟨edits, opened, whole, reached, parsed, refused⟩)
    · have done : r.rendered settings s.input = .ok ((front ++ sample :: rest).map f.render) :=
        rendered_ok_iff.mpr ⟨f, texts, _, chosen, named, read, rfl⟩
      have lead := List.forall_mem_map.mpr taken
      refine ⟨_, ⟨front.map f.render, rest.map f.render, ?_, lead, refused⟩, rfl⟩
      rw [workOf, unedited, if_neg (by simp), done, List.map_append, List.map_cons]
    · obtain ⟨template, parsed⟩ := parsed
      have pressed := enter_template reached parsed
      refine ⟨_, ⟨[], [], ?_, by simp, refused⟩, rfl⟩
      rw [workOf, if_pos edits]
      refine (edited_ok_iff opened).mpr ⟨_, rfl, run_ends_iff.mpr ?_⟩
      exact ⟨_, _, _, _, whole, reached, congrArg Prod.snd pressed⟩
  · rintro ⟨line, ⟨front, rest, done, taken, refused⟩, rfl⟩
    rw [workOf] at done
    split at done
    · rename_i edits
      cases opened : r.opening settings with
      | error e =>
        rw [edited_of_error opened] at done
        cases done
      | ok begun =>
        obtain ⟨t, single, ended⟩ := (edited_ok_iff opened).mp done
        obtain ⟨rfl, rfl, rfl⟩ : front = [] ∧ line = t ∧ rest = [] := by
          cases front <;> simp_all
        obtain ⟨_, _, _, whole, reached, rfl, valid⟩ := accepted_at_enter ended
        exact .accepted edits opened whole reached (validate_ok_iff.mp valid) refused
    · rename_i unedited
      obtain ⟨f, texts, samples, chosen, named, read, lines⟩ :=
        rendered_ok_iff.mp (Option.some.inj done)
      obtain ⟨before, others, rfl, rfl, behind⟩ := List.map_eq_append_iff.mp lines.symm
      obtain ⟨sample, after, rfl, rfl, rfl⟩ := List.map_eq_cons_iff.mp behind
      have lead := List.forall_mem_map.mp taken
      exact .shown (by simpa using unedited) chosen named read lead refused

/-- Once settings are loaded, what is left to fail is the work of the run, and to
print what comes of it. -/
theorem unreported_of_loads (loads : Loads s r settings) : Unreported s r why ↔
    (r.edit = false ∧ ShowingFault r settings s.input why) ∨
      (r.edit = true ∧ EditingFault r settings s.keys why) ∨ PrintingFault s r settings why := by
  constructor
  · obtain ⟨path, located, loaded⟩ := loads
    rintro (nothing | ⟨found, fault⟩ | ⟨unedited, others, fault⟩ | ⟨edits, others, fault⟩ |
      ⟨others, fault⟩)
    · rw [settingsPath_none_iff.mpr nothing] at located
      cases located
    · cases located.symm.trans found
      obtain ⟨failed, _⟩ := load_escapes_iff.mpr fault
      rw [loaded] at failed
      cases failed
    · exact .inl ⟨unedited, loads_unique ⟨path, located, loaded⟩ others ▸ fault⟩
    · exact .inr (.inl ⟨edits, loads_unique ⟨path, located, loaded⟩ others ▸ fault⟩)
    · exact .inr (.inr (loads_unique ⟨path, located, loaded⟩ others ▸ fault))
  · rintro (⟨unedited, fault⟩ | ⟨edits, fault⟩ | fault)
    · exact .showing unedited loads fault
    · exact .editing edits loads fault
    · exact .printing loads fault

/-- A run has no path to its settings, or fails to load them, or has them. -/
theorem loading_cases (s : Surroundings) (r : Request) :
    (r.config = some .nothing ∧ (∀ settings, ¬Loads s r settings) ∧
      (r.run s).ending = .escaped (.givenNothing .config)) ∨
    (∃ path e, r.settingsPath? s.home = some path ∧
      Settings.load path.text (r.settingsEntry s path) = .error e ∧
      (∀ settings, ¬Loads s r settings) ∧ (r.run s).ending = (RunError.loading e).ending) ∨
    ∃ settings, Loads s r settings := by
  cases located : r.settingsPath? s.home with
  | none =>
    refine .inl ⟨settingsPath_none_iff.mp located, ?_, by rw [Request.run, located]; rfl⟩
    rintro settings ⟨path, found, _⟩
    rw [located] at found
    cases found
  | some path =>
    cases loaded : Settings.load path.text (r.settingsEntry s path) with
    | ok settings => exact .inr (.inr ⟨settings, path, located, loaded⟩)
    | error e =>
      refine .inr (.inl ⟨path, e, rfl, loaded, ?_, ?_⟩)
      · rintro settings ⟨other, found, succeeds⟩
        cases located.symm.trans found
        rw [loaded] at succeeds
        cases succeeds
      · rw [ending_of_located located, loaded]
        rfl

/-- A run fails without a message exactly where one of the failures is met for
which there is none. -/
theorem escaped_iff (allowed : Allowed (optionsOf r)) :
    (r.run s).ending = .escaped why ↔ Unreported s r why := by
  rcases loading_cases s r with ⟨nothing, unloaded, ended⟩ |
    ⟨path, e, located, failed, unloaded, ended⟩ | ⟨settings, loads⟩
  · have unlocated : r.settingsPath? s.home = none := settingsPath_none_iff.mpr nothing
    rw [ended, RunEnd.escaped.injEq]
    constructor
    · rintro rfl
      exact .config nothing
    · rintro (_ | ⟨found, _⟩ | ⟨_, loads, _⟩ | ⟨_, loads, _⟩ | ⟨loads, _⟩)
      · rfl
      · rw [unlocated] at found
        cases found
      all_goals exact absurd loads (unloaded _)
  · rw [ended, ending_escaped_iff]
    constructor
    · rintro ⟨rfl, silent⟩
      exact .loading located (load_escapes_iff.mp ⟨failed, silent_loading_iff.mp silent⟩)
    · rintro (nothing | ⟨found, fault⟩ | ⟨_, loads, _⟩ | ⟨_, loads, _⟩ | ⟨loads, _⟩)
      · rw [settingsPath_none_iff.mpr nothing] at located
        cases located
      · cases located.symm.trans found
        obtain ⟨same, escapes⟩ := load_escapes_iff.mpr fault
        rw [failed] at same
        cases same
        exact ⟨rfl, silent_loading_iff.mpr escapes⟩
      all_goals exact absurd loads (unloaded _)
  · have sound := sound_of_obtained (obtained_of_loads loads)
    rw [ending_of_loads loads, unreported_of_loads loads, endOf_escaped_iff, ← printingFault_iff,
      ← or_assoc, workOf]
    refine or_congr_left ?_
    cases r.edit with
    | false => simpa using rendered_silent_iff allowed sound
    | true => simpa using edited_silent_iff sound

/-- Only a session can be interrupted. -/
theorem formatter_ne_interrupted (allowed : Allowed (optionsOf r)) (sound : Sound settings) :
    r.formatter settings ≠ .error .interrupted := by
  intro failed
  rcases (formatter_error_iff allowed sound).mp failed with ⟨_, refused⟩ | ⟨_, _, _, _, same⟩
  · cases refused
  · cases same

theorem rendered_ne_interrupted (allowed : Allowed (optionsOf r)) (sound : Sound settings) :
    r.rendered settings input ≠ .error .interrupted := by
  unfold Request.rendered
  rw [Ne, bind_error_iff]
  rintro (failed | ⟨f, _, failed⟩)
  · exact formatter_ne_interrupted allowed sound failed
  · rcases bind_error_iff.mp failed with failed | ⟨_, _, done⟩
    · obtain ⟨_, _, same⟩ := mapError_error_iff.mp failed
      cases same
    · cases done

theorem opening_ne_interrupted : r.opening settings ≠ .error .interrupted := by
  unfold Request.opening
  simp only [Ne, bind_error_iff]
  rintro (failed | ⟨text, _, failed | ⟨sample, _, failed | ⟨_, _, failed⟩⟩⟩)
  · unfold Request.initialText at failed
    split at failed
    · cases failed
    · obtain ⟨_, _, same⟩ := mapError_error_iff.mp failed
      cases same
    · cases failed
    · cases failed
  · obtain ⟨_, _, same⟩ := mapError_error_iff.mp failed
    cases same
  · obtain ⟨_, _, same⟩ := mapError_error_iff.mp failed
    cases same
  · split at failed <;> cases failed

theorem edited_interrupted_iff : (r.edited settings keys).2 = some (.error .interrupted) ↔
    ∃ text sample, r.opening settings = .ok (text, sample) ∧ Interrupts text keys := by
  cases opened : r.opening settings with
  | error failure =>
    rw [edited_of_error opened, Option.some.injEq, Except.error.injEq]
    constructor
    · rintro rfl
      exact absurd opened opening_ne_interrupted
    · rintro ⟨_, _, same, _⟩
      cases same
  | ok begun =>
    obtain ⟨text, sample⟩ := begun
    rw [edited_error_iff opened]
    simp [interrupted_iff]

/-- A run that is interrupted is an editing session that keys interrupt. -/
inductive Interrupted (s : Surroundings) (r : Request) : Prop where
  | session {settings : Settings} {text : Text} {sample : Sample} : r.edit = true →
      Loads s r settings → r.opening settings = .ok (text, sample) → Interrupts text s.keys →
      Interrupted s r

theorem ending_interrupt_iff : e.ending = .exit 130 ↔ e = .interrupted := by
  constructor
  · intro ended
    rcases code_of_ending ended with ⟨_, same⟩ | ⟨other, _⟩
    · exact same
    · cases other
  · rintro rfl
    rfl

theorem endOf_interrupt_iff :
    endOf takes result = .exit 130 ↔ result = some (.error .interrupted) := by
  rcases result with _ | e | lines
  · simp [endOf, Outcome.ofResult]
  · simp [endOf, Outcome.ofResult, ending_interrupt_iff]
  · rw [endOf_lines]
    cases (printLines takes lines).2 <;> simp

theorem interrupted_of_loads (loads : Loads s r settings) : Interrupted s r ↔
    r.edit = true ∧ (r.edited settings s.keys).2 = some (.error .interrupted) := by
  rw [edited_interrupted_iff]
  constructor
  · rintro ⟨edits, others, opened, interrupts⟩
    obtain rfl := loads_unique loads others
    exact ⟨edits, _, _, opened, interrupts⟩
  · rintro ⟨edits, _, _, opened, interrupts⟩
    exact .session edits loads opened interrupts

/-- A session that was begun prints nothing only while it waits. -/
theorem waits_of_loads (loads : Loads s r settings) :
    Waits s r ↔ workOf s r settings = none := by
  constructor
  · rintro ⟨edits, others, opened, reached⟩
    obtain rfl := loads_unique loads others
    rw [workOf, if_pos edits, edited_of_opened opened, run_waits_iff.mpr ⟨_, reached⟩]
    rfl
  · intro none
    rw [workOf] at none
    split at none
    · rename_i edits
      cases opened : r.opening settings with
      | error e =>
        rw [edited_of_error opened] at none
        cases none
      | ok begun =>
        rw [edited_of_opened opened, Option.map_eq_none_iff] at none
        obtain ⟨last, reached⟩ := run_waits_iff.mp none
        exact .session edits loads opened reached
    · cases none

theorem waiting_run_iff : (r.run s).ending = .waiting ↔ Waits s r := by
  have loadsFirst (unloaded : ∀ settings, ¬Loads s r settings) : ¬Waits s r := by
    rintro ⟨_, loads, _⟩
    exact unloaded _ loads
  rcases loading_cases s r with ⟨_, unloaded, ended⟩ | ⟨_, e, _, _, unloaded, ended⟩ |
    ⟨settings, loads⟩
  · rw [ended]
    exact iff_of_false nofun (loadsFirst unloaded)
  · have fails : endOf s.takes (some (.error (.loading e))) = (RunError.loading e).ending := rfl
    rw [ended, ← fails, endOf_waiting_iff]
    exact iff_of_false nofun (loadsFirst unloaded)
  · rw [ending_of_loads loads, waits_of_loads loads, endOf_waiting_iff]

theorem interrupted_run_iff (allowed : Allowed (optionsOf r)) :
    (r.run s).ending = .exit 130 ↔ Interrupted s r := by
  have loadsFirst (unloaded : ∀ settings, ¬Loads s r settings) : ¬Interrupted s r := by
    rintro ⟨_, loads, _⟩
    exact unloaded _ loads
  rcases loading_cases s r with ⟨_, unloaded, ended⟩ | ⟨_, _, _, _, unloaded, ended⟩ |
    ⟨settings, loads⟩
  · rw [ended]
    exact iff_of_false nofun (loadsFirst unloaded)
  · rw [ended, ending_interrupt_iff]
    exact iff_of_false nofun (loadsFirst unloaded)
  · have sound := sound_of_obtained (obtained_of_loads loads)
    rw [ending_of_loads loads, interrupted_of_loads loads, endOf_interrupt_iff, workOf]
    cases r.edit with
    | false => simpa using rendered_ne_interrupted allowed sound
    | true => simp

/-- Every run is the outcome of a result. -/
theorem run_eq_ofResult (r : Request) (s : Surroundings) :
    ∃ reports trace result, r.run s = .ofResult s.takes reports trace result := by
  unfold Request.run
  split
  · exact ⟨_, _, _, rfl⟩
  · exact ⟨_, _, _, rfl⟩

theorem error_of_message {message : Text} (told : e.message? = some message) :
    "Error".toList <+: message := by
  unfold RunError.message? at told
  split at told <;> cases told <;> exact ⟨_, rfl⟩

/-- What a run leaves behind when it exits with a code: output only with the code
of a success, and with that of a failure a message. -/
structure ExitsAs (outcome : Outcome) (code : Nat) : Prop where
  known : code = 0 ∨ code = 1 ∨ code = 130
  failure : code ≠ 0 → outcome.output = []
  message : code = 1 → ∃ reports message, outcome.diagnostics = reports ++ message ++ ['\n'] ∧
    "Error".toList <+: message

theorem exits_of_run {code : Nat} (ended : (r.run s).ending = .exit code) :
    ExitsAs (r.run s) code := by
  obtain ⟨reports, trace, result, outcome⟩ := run_eq_ofResult r s
  rw [outcome, ending_ofResult] at ended
  rw [outcome]
  rcases result with _ | e | lines
  · cases ended
  · rcases code_of_ending ended with ⟨rfl, _⟩ | ⟨rfl, message, told⟩
    · exact ⟨.inr (.inr rfl), fun _ => rfl, fun failed => absurd failed (by decide)⟩
    · refine ⟨.inr (.inl rfl), fun _ => rfl, fun _ => ⟨reports, message, ?_, error_of_message told⟩⟩
      simp [Outcome.ofResult, RunError.line, told]
  · rw [endOf_lines] at ended
    cases stopped : (printLines s.takes lines).2 with
    | none =>
      rw [stopped] at ended
      cases ended
      exact ⟨.inl rfl, absurd rfl, fun failed => absurd failed (by decide)⟩
    | some line =>
      rw [stopped] at ended
      cases ended

/-- A command line that is wrong exits with a code of its own, and one that asks
about the program as a success. Every other one exits as a success, with a
message, or because its session is interrupted, unless it meets one of the
failures that no message is made for. Each of those ends the run. Only a session
that is waiting for keys has not ended. -/
theorem endings_exact (words : List Text) (s : Surroundings) :
    (∀ code, (run words s).ending = .exit code → code ∈ [0, 1, 2, 130]) ∧
    ((run words s).ending = .exit 2 ↔ ∃ e, Request.ofTexts words = .error (.usage e)) ∧
    ((Request.ofTexts words = .error .help ∨ Request.ofTexts words = .error .version) →
      (run words s).ending = .exit 0) ∧
    (∀ r code, Request.ofTexts words = .ok r → (run words s).ending = .exit code →
      ExitsAs (run words s) code) ∧
    ((run words s).ending = .exit 130 ↔
      ∃ r, Request.ofTexts words = .ok r ∧ Interrupted s r) ∧
    ((run words s).ending = .waiting ↔ ∃ r, Request.ofTexts words = .ok r ∧ Waits s r) ∧
    ∀ why, (run words s).ending = .escaped why ↔
      ∃ r, Request.ofTexts words = .ok r ∧ Unreported s r why := by
  cases asked : Request.ofTexts words with
  | error stop =>
    have outcome : run words s = .ofStop stop := by rw [run, asked]
    rw [outcome]
    cases stop <;> simp [Outcome.ofStop]
  | ok r =>
    have allowed := allowed_of_asked asked
    rw [run_of_asked asked]
    have exits {code : Nat} : (r.run s).ending = .exit code → ExitsAs (r.run s) code := exits_of_run
    refine ⟨fun code ended => ?_, ?_, by simp, fun _ code _ => exits, ?_, ?_, fun why => ?_⟩
    · rcases (exits ended).known with rfl | rfl | rfl <;> simp
    · refine iff_of_false (fun ended => ?_) (by simp)
      simpa using (exits ended).known
    · simpa using interrupted_run_iff allowed
    · simpa using waiting_run_iff
    · simpa using escaped_iff allowed

/-- A place with two settings files, in which a run is started without any input. Its
output takes every character, but no half of a surrogate pair. -/
def started (keys : List Key) : Surroundings := {
  home := "/home".toList
  homeSettings := .absent
  find := (Workspace.ofFiles [
    ("numbers".toList, "1: 2".toList), ("half".toList, "custom: \"\\ud800\"".toList)]).find
  keys := keys
  takes := fun c => (halfCode? c).isNone }

theorem endings_exact_interrupt : ∃ r, Request.ofTexts (["-e"].map String.toList) = .ok r ∧
    Interrupted (started [.typed '%', .enter, .interrupt]) r :=
  (endings_exact _ _).2.2.2.2.1.mp (by decide +kernel)

/-- A directory in the place of a file, a number as a key, a session whose input is
closed, and a template with a half of a surrogate pair, which no encoding has. -/
theorem directory_escapes :
    (run (["--config", ".", "#fff"].map String.toList) (started [])).ending =
      .escaped (.loading .directory) ∧
    (run (["--config", "numbers", "#fff"].map String.toList) (started [])).ending =
      .escaped (.loading .nonTextKey) ∧
    (run (["-e"].map String.toList) (started [.typed 'a', .backspace, .close])).ending =
      .escaped .inputClosed ∧
    (run (["--config", "half", "#fff"].map String.toList) (started [])).ending =
      .escaped (.unencodable [halfStand 0xD800]) := by
  refine ⟨?_, ?_, ?_, ?_⟩
  · cbv
  · decide +kernel
  · decide +kernel
  · decide +kernel

end Swatch.RunEnding
