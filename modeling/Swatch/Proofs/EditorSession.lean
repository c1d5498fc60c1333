import Swatch.CommandLine.Run
import Swatch.Proofs.TemplateBreakdown

/-! A session of the editor, key by key. The mark that a text was refused says
something about the text: it is set exactly while the text is the one at which
enter was last pressed in vain. Enter therefore ends a session wherever the
preview shows no error, and no session ends with a text that is no template. -/
namespace Swatch.EditorSession
open Editor TemplateBreakdown

variable {s s' : State} {text : Text} {key : Key} {keys : List Key} {sample : Sample}

/-- The state that keys lead to, unless the session ends before the last of
them. -/
def after (s : State) : List Key → Option State
  | [] => some s
  | key :: rest =>
    match s.press key with
    | (next, none) => after next rest
    | (_, some _) => none

/-- Enter was pressed on a text that is no template, and every key since then
has left the text as it was. -/
def UnchangedSinceRefusal (text : Text) (keys : List Key) : Prop :=
  ∃ front back s refusal, keys = front ++ .enter :: back ∧
    after (.start text) front = some s ∧ validate s.line.text = .error refusal ∧
    ∀ more later, more <+: back → after (.start text) (front ++ .enter :: more) = some later →
      later.line.text = s.line.text

/-- The keys interrupt a session that begins with the text. -/
def Interrupts (text : Text) (keys : List Key) : Prop :=
  ∃ front rest last, keys = front ++ .interrupt :: rest ∧ after (.start text) front = some last

/-- The toolbar shows an error. -/
def ShowsError (toolbar : List Fragment) : Prop :=
  ∃ message, toolbar = [StyleClass.error.on message]

theorem validate_ok_iff :
    validate text = .ok () ↔ ∃ template, Template.parse text = .ok template := by
  cases parsed : Template.parse text <;> simp [validate, parsed]

theorem validate_error_iff {refusal : Rejection} : validate text = .error refusal ↔
    ∃ e, Template.parse text = .error e ∧ refusal = ⟨e.position, e.message⟩ := by
  cases parsed : Template.parse text <;> simp [validate, parsed, eq_comm]

theorem showsError_iff (sample : Sample) (text : Text) :
    ShowsError (preview sample text) ↔ ∃ e, Template.parse text = .error e := by
  cases parsed : Template.parse text <;> simp [ShowsError, preview, parsed]

/-- A key that does not end the session: enter on a text that is refused for the
first time, or a key under which the mark of a refusal stays as long as the text
does. -/
theorem press_continues (pressed : s.press key = (s', none)) :
    (key = .enter ∧ ∃ refusal, validate s.line.text = .error refusal ∧
      s' = ⟨s.line.moveTo refusal.cursor, true⟩) ∨
    ((key = .enter → s.refused = true) ∧
      s'.refused = (s.refused && s'.line.text == s.line.text)) := by
  cases key with
  | enter =>
    simp only [State.press, State.enter] at pressed
    split at pressed
    · rename_i refused
      cases pressed
      exact .inr ⟨fun _ => refused, by simp⟩
    · split at pressed
      · cases pressed
      · rename_i refusal failed
        cases pressed
        exact .inl ⟨rfl, refusal, failed, rfl⟩
  | close =>
    simp only [State.press] at pressed
    split at pressed
    · cases pressed
    · cases pressed
      exact .inr ⟨by simp, rfl⟩
  | interrupt => cases pressed
  | left | right | toStart | toEnd =>
    cases pressed
    exact .inr ⟨by simp, by simp [State.move]⟩
  | typed | backspace | delete | kill | discard =>
    cases pressed
    exact .inr ⟨by simp, rfl⟩

/-- A key that ends the session leaves the line as it was. Only enter accepts a
text, and only one that is not marked and is a template. -/
theorem press_ends {ending : SessionEnd} (pressed : s.press key = (s', some ending)) :
    s' = s ∧ ∀ t, ending = .accepted t →
      key = .enter ∧ t = s.line.text ∧ s.refused = false ∧ validate t = .ok () := by
  cases key with
  | enter =>
    simp only [State.press, State.enter] at pressed
    split at pressed
    · cases pressed
    · rename_i clear
      split at pressed
      · rename_i valid
        cases pressed
        refine ⟨rfl, fun t accepted => ?_⟩
        cases accepted
        exact ⟨rfl, rfl, by simpa using clear, valid⟩
      · cases pressed
  | close =>
    simp only [State.press] at pressed
    split at pressed
    · cases pressed
      exact ⟨rfl, by simp⟩
    · cases pressed
  | interrupt =>
    cases pressed
    exact ⟨rfl, by simp⟩
  | typed | backspace | delete | left | right | toStart | toEnd | kill | discard => cases pressed

theorem after_append (s : State) (front back : List Key) :
    after s (front ++ back) = (after s front).bind (after · back) := by
  induction front generalizing s with
  | nil => rfl
  | cons key rest ih =>
    simp only [List.cons_append, after]
    split
    · exact ih _
    · rfl

/-- The last key of a session that goes on was pressed in the state before it. -/
theorem after_snoc_iff : after s (keys ++ [key]) = some s' ↔
    ∃ last, after s keys = some last ∧ last.press key = (s', none) := by
  rw [after_append, Option.bind_eq_some_iff]
  refine exists_congr fun last => and_congr_right fun _ => ?_
  simp only [after]
  split <;> simp_all

/-- A text is unchanged since a refusal if enter has just been pressed on it in
vain, or if it was unchanged before the last key and that key changed nothing. -/
theorem unchanged_snoc_iff (reached : after (.start text) keys = some s)
    (pressed : s.press key = (s', none)) : UnchangedSinceRefusal text (keys ++ [key]) ↔
      ((key = .enter ∧ ∃ refusal, validate s.line.text = .error refusal) ∨
        UnchangedSinceRefusal text keys) ∧ s'.line.text = s.line.text := by
  have last : after (.start text) (keys ++ [key]) = some s' :=
    after_snoc_iff.mpr ⟨s, reached, pressed⟩
  constructor
  · rintro ⟨front, back, atEnter, refusal, split, frontReached, failed, same⟩
    rcases List.eq_nil_or_concat' back with rfl | ⟨back, final, rfl⟩
    · obtain ⟨rfl, rfl⟩ : keys = front ∧ key = .enter := by simpa using split
      obtain rfl : s = atEnter := Option.some.inj (reached.symm.trans frontReached)
      exact ⟨.inl ⟨rfl, refusal, failed⟩, same [] s' (List.prefix_refl _) last⟩
    · obtain ⟨rfl, rfl⟩ : keys = front ++ .enter :: back ∧ key = final := by
        rw [← List.cons_append, ← List.append_assoc] at split
        simpa using List.append_inj' split rfl
      have before := same back s (List.prefix_append _ _) reached
      have behind := same (back ++ [key]) s' (List.prefix_refl _) (by simpa using last)
      refine ⟨.inr ⟨front, back, atEnter, refusal, rfl, frontReached, failed, ?_⟩,
        behind.trans before.symm⟩
      intro more later start
      exact same more later (start.trans (List.prefix_append _ _))
  · rintro ⟨⟨rfl, refusal, failed⟩ |
      ⟨front, back, atEnter, refusal, rfl, frontReached, failed, same⟩, kept⟩
    · refine ⟨keys, [], s, refusal, rfl, reached, failed, ?_⟩
      intro more later start laterReached
      obtain rfl := List.prefix_nil.mp start
      obtain rfl : s' = later := Option.some.inj (last.symm.trans laterReached)
      exact kept
    · refine ⟨front, back ++ [key], atEnter, refusal, by simp, frontReached, failed, ?_⟩
      intro more later start laterReached
      rcases List.prefix_concat_iff.mp start with rfl | start
      · obtain rfl : s' = later := by
          rw [← List.cons_append, ← List.append_assoc] at laterReached
          exact Option.some.inj (last.symm.trans laterReached)
        exact kept.trans (same back s (List.prefix_refl _) reached)
      · exact same more later start laterReached

/-- The mark of a refusal is set exactly while the text is unchanged since
one. -/
theorem refused_iff (reached : after (.start text) keys = some s) :
    s.refused = true ↔ UnchangedSinceRefusal text keys := by
  induction keys using List.reverseRecOn generalizing s with
  | nil =>
    cases reached
    simp [State.start, UnchangedSinceRefusal]
  | append_singleton keys key ih =>
    obtain ⟨last, lastReached, pressed⟩ := after_snoc_iff.mp reached
    rw [unchanged_snoc_iff lastReached pressed, ← ih lastReached]
    rcases press_continues pressed with ⟨rfl, refusal, failed, rfl⟩ | ⟨marked, kept⟩
    · simp [failed]
    · rw [kept, Bool.and_eq_true, beq_iff_eq]
      refine and_congr_left fun _ => ⟨.inr, ?_⟩
      rintro (⟨enter, _⟩ | marked)
      · exact marked enter
      · exact marked

/-- A marked text is no template. -/
theorem malformed_of_unchanged (reached : after (.start text) keys = some s)
    (unchanged : UnchangedSinceRefusal text keys) :
    ∃ refusal, validate s.line.text = .error refusal := by
  obtain ⟨front, back, atEnter, refusal, rfl, _, failed, same⟩ := unchanged
  exact ⟨refusal, by rw [same back s (List.prefix_refl _) reached, failed]⟩

/-- Enter accepts every template, since no template is marked. -/
theorem enter_template (reached : after (.start text) keys = some s) {template : Template}
    (parsed : Template.parse s.line.text = .ok template) :
    s.press .enter = (s, some (.accepted s.line.text)) := by
  have valid : validate s.line.text = .ok () := validate_ok_iff.mpr ⟨template, parsed⟩
  have clear : s.refused = false := by
    rw [← Bool.not_eq_true, refused_iff reached]
    intro unchanged
    obtain ⟨refusal, failed⟩ := malformed_of_unchanged reached unchanged
    rw [valid] at failed
    cases failed
  simp [State.press, State.enter, clear, valid]

/-- Enter on any other text ends no session and leaves the text alone. It moves
the cursor to the end of the longest template in front, unless the text is
unchanged since a refusal. -/
theorem enter_malformed (reached : after (.start text) keys = some s) {e : FormatError}
    (failed : Template.parse s.line.text = .error e) :
    ∃ next, s.press .enter = (next, none) ∧ next.line.text = s.line.text ∧
      (UnchangedSinceRefusal text keys → next.line.cursor = s.line.cursor) ∧
      (¬UnchangedSinceRefusal text keys → LongestTemplate s.line.text next.line.cursor) := by
  by_cases unchanged : UnchangedSinceRefusal text keys
  · have marked := (refused_iff reached).mpr unchanged
    exact ⟨s, by simp [State.press, State.enter, marked], rfl, fun _ => rfl, absurd unchanged⟩
  · have clear : s.refused = false := by
      rw [← Bool.not_eq_true, refused_iff reached]
      exact unchanged
    have refusal := validate_error_iff.mpr ⟨e, failed, rfl⟩
    refine ⟨⟨s.line.moveTo e.position, true⟩, by simp [State.press, State.enter, clear, refusal],
      EditLine.text_moveTo _ _, (absurd · unchanged), fun _ => ?_⟩
    obtain ⟨_, front, _, _, _, breaks, rfl⟩ := breaksAt_of_parse failed
    have longest := longest_of_breaksAt breaks
    rwa [EditLine.cursor_moveTo, FormatError.position, Nat.min_eq_left longest.inside]

/-- Everything that is seen of a session is seen of a state it reached. -/
theorem mem_trace {snapshot : Snapshot} (member : snapshot ∈ (Editor.run sample s keys).1) :
    ∃ front last, front <+: keys ∧ after s front = some last ∧
      snapshot = last.snapshot sample := by
  induction keys generalizing s with
  | nil => cases member
  | cons key rest ih =>
    simp only [Editor.run] at member
    split at member
    · rename_i next ending pressed
      obtain ⟨rfl, _⟩ := press_ends pressed
      exact ⟨[], _, List.nil_prefix, rfl, List.mem_singleton.mp member⟩
    · rename_i next pressed
      rcases List.mem_cons.mp member with rfl | member
      · exact ⟨[key], next, List.prefix_append [key] rest, by simp [after, pressed], rfl⟩
      · obtain ⟨front, last, start, reached, shown⟩ := ih member
        exact ⟨key :: front, last, List.prefix_cons_inj _ |>.mpr start,
          by simp [after, pressed, reached], shown⟩

/-- A session goes on from a state that it reached as it would from there. -/
theorem run_append {front : List Key} (back : List Key) (reached : after s front = some s') :
    (Editor.run sample s (front ++ back)).2 = (Editor.run sample s' back).2 := by
  induction front generalizing s with
  | nil =>
    cases reached
    rfl
  | cons key rest ih =>
    simp only [after] at reached
    split at reached
    · rename_i next pressed
      simp only [List.cons_append, Editor.run, pressed]
      exact ih reached
    · cases reached

/-- A session ends with the first key that ends it. -/
theorem run_ends_iff {ending : SessionEnd} : (Editor.run sample s keys).2 = some ending ↔
    ∃ front key rest last, keys = front ++ key :: rest ∧ after s front = some last ∧
      (last.press key).2 = some ending := by
  induction keys generalizing s with
  | nil => simp [Editor.run]
  | cons key rest ih =>
    rw [Editor.run]
    cases pressed : s.press key with
    | mk next found =>
      cases found with
      | none =>
        simp only [ih]
        constructor
        · rintro ⟨front, final, others, last, rfl, reached, stops⟩
          exact ⟨key :: front, final, others, last, rfl, by simp [after, pressed, reached], stops⟩
        · rintro ⟨front, final, others, last, whole, reached, stops⟩
          cases front with
          | nil =>
            cases reached
            cases whole
            simp [pressed] at stops
          | cons first front =>
            obtain ⟨rfl, behind⟩ := List.cons.inj whole
            simp only [after, pressed] at reached
            exact ⟨front, final, others, last, behind, reached, stops⟩
      | some found =>
        constructor
        · intro ended
          exact ⟨[], key, rest, s, rfl, rfl, by rw [pressed]; exact ended⟩
        · rintro ⟨front, final, others, last, whole, reached, stops⟩
          cases front with
          | nil =>
            cases reached
            cases whole
            simpa [pressed] using stops
          | cons first front =>
            obtain ⟨rfl, _⟩ := List.cons.inj whole
            simp [after, pressed] at reached

/-- A session waits for more keys while none has ended it. -/
theorem run_waits_iff :
    (Editor.run sample s keys).2 = none ↔ ∃ last, after s keys = some last := by
  induction keys generalizing s with
  | nil => simp [Editor.run, after]
  | cons key rest ih =>
    rw [Editor.run, after]
    rcases s.press key with ⟨next, _ | ending⟩
    · exact ih
    · simp

/-- A session that ends with a text ends at an enter that accepted it. -/
theorem accepted_at_enter {t : Text} (ended : (Editor.run sample s keys).2 = some (.accepted t)) :
    ∃ front rest last, keys = front ++ .enter :: rest ∧ after s front = some last ∧
      t = last.line.text ∧ validate t = .ok () := by
  obtain ⟨front, key, rest, last, whole, reached, stops⟩ := run_ends_iff.mp ended
  have pressed : last.press key = ((last.press key).1, some (.accepted t)) := by rw [← stops]
  obtain ⟨rfl, same, _, valid⟩ := (press_ends pressed).2 t rfl
  exact ⟨front, rest, last, whole, reached, same, valid⟩

/-- Without a text a session is ended by two keys only. -/
theorem press_stops_iff {ending : SessionEnd}
    (unaccepted : ∀ text, ending ≠ .accepted text) : (s.press key).2 = some ending ↔
      (key = .interrupt ∧ ending = .interrupted) ∨
        (key = .close ∧ s.line.text = [] ∧ ending = .closed) := by
  cases key with
  | enter =>
    have accepts := unaccepted s.line.text
    simp only [State.press, State.enter]
    split
    · simp
    · split <;> simp [accepts.symm]
  | close =>
    simp only [State.press]
    split <;> simp_all [@eq_comm _ ending]
  | interrupt => simp [State.press, @eq_comm _ ending]
  | _ => simp [State.press]

theorem closed_iff : (Editor.run sample s keys).2 = some .closed ↔
    ∃ front rest last, keys = front ++ .close :: rest ∧ after s front = some last ∧
      last.line.text = [] := by
  rw [run_ends_iff]
  constructor
  · rintro ⟨front, key, rest, last, whole, reached, stops⟩
    rcases (press_stops_iff (by simp)).mp stops with ⟨_, same⟩ | ⟨rfl, empty, _⟩
    · cases same
    · exact ⟨front, rest, last, whole, reached, empty⟩
  · rintro ⟨front, rest, last, whole, reached, empty⟩
    exact ⟨front, _, rest, last, whole, reached,
      (press_stops_iff (by simp)).mpr (.inr ⟨rfl, empty, rfl⟩)⟩

theorem interrupted_iff :
    (Editor.run sample (.start text) keys).2 = some .interrupted ↔ Interrupts text keys := by
  rw [run_ends_iff]
  constructor
  · rintro ⟨front, key, rest, last, whole, reached, stops⟩
    rcases (press_stops_iff (by simp)).mp stops with ⟨rfl, _⟩ | ⟨_, _, same⟩
    · exact ⟨front, rest, last, whole, reached⟩
    · cases same
  · rintro ⟨front, rest, last, whole, reached⟩
    exact ⟨front, _, rest, last, whole, reached, (press_stops_iff (by simp)).mpr (.inl ⟨rfl, rfl⟩)⟩

section Edited
variable {r : CommandLine.Request} {settings : Settings}

theorem edited_of_error {e : CommandLine.RunError} (failed : r.opening settings = .error e) :
    (r.edited settings keys).2 = some (.error e) := by
  rw [CommandLine.Request.edited, failed]

theorem edited_of_opened (opened : r.opening settings = .ok (text, sample)) :
    (r.edited settings keys).2 =
      (Editor.run sample (.start text) keys).2.map CommandLine.Request.printed := by
  rw [CommandLine.Request.edited, opened]

/-- What an editing run prints is the text with which its session ends. -/
theorem edited_ok_iff {printed : List Text} (opened : r.opening settings = .ok (text, sample)) :
    (r.edited settings keys).2 = some (.ok printed) ↔
      ∃ t, printed = [t] ∧ (Editor.run sample (.start text) keys).2 = some (.accepted t) := by
  rw [edited_of_opened opened, Option.map_eq_some_iff]
  constructor
  · rintro ⟨ending, ended, shown⟩
    cases ending with
    | accepted t => exact ⟨t, (Except.ok.inj shown).symm, ended⟩
    | interrupted | closed => cases shown
  · rintro ⟨t, rfl, ended⟩
    exact ⟨_, ended, rfl⟩

/-- What an editing run prints is a template. -/
theorem edited_template {printed : List Text}
    (done : (r.edited settings keys).2 = some (.ok printed)) :
    ∃ t template, printed = [t] ∧ Template.parse t = .ok template := by
  cases opened : r.opening settings with
  | error e =>
    rw [edited_of_error opened] at done
    cases done
  | ok begun =>
    obtain ⟨t, rfl, ended⟩ := (edited_ok_iff opened).mp done
    obtain ⟨_, _, _, _, _, _, valid⟩ := accepted_at_enter ended
    obtain ⟨template, parsed⟩ := validate_ok_iff.mp valid
    exact ⟨t, template, rfl, parsed⟩

end Edited

/-- In every state that a session reaches, the cursor is in the text, the toolbar
is the preview of the text, and enter ends the session exactly if the toolbar shows
no error, which is to say that the text is a template. It is then the text that is
accepted. Otherwise enter leaves the text as it is and moves the cursor to the end
of the longest template in front, or leaves it where it is when the text is
unchanged since a refusal. A session ends with a text exactly if enter is pressed
on it and it is a template, and so an editing run prints templates only. -/
theorem session_sound (sample : Sample) (text : Text) (keys : List Key) :
    (∀ snapshot ∈ (State.start text).snapshot sample :: (Editor.run sample (.start text) keys).1,
      snapshot.cursor ≤ snapshot.text.length ∧
        snapshot.toolbar = preview sample snapshot.text) ∧
    (∀ s, after (.start text) keys = some s →
      s.line.cursor ≤ s.line.text.length ∧
      ((s.press .enter).2 ≠ none ↔ ¬ShowsError (preview sample s.line.text)) ∧
      (¬ShowsError (preview sample s.line.text) ↔
        ∃ template, Template.parse s.line.text = .ok template) ∧
      (∀ ending, (s.press .enter).2 = some ending → ending = .accepted s.line.text) ∧
      (∀ next, s.press .enter = (next, none) → next.line.text = s.line.text ∧
        (UnchangedSinceRefusal text keys → next.line.cursor = s.line.cursor) ∧
        (¬UnchangedSinceRefusal text keys → LongestTemplate s.line.text next.line.cursor))) ∧
    (∀ t, (Editor.run sample (.start text) keys).2 = some (.accepted t) ↔
      ∃ front rest s, keys = front ++ .enter :: rest ∧ after (.start text) front = some s ∧
        t = s.line.text ∧ ∃ template, Template.parse t = .ok template) ∧
    (∀ (r : CommandLine.Request) settings printed, (r.edited settings keys).2 = some (.ok printed) →
      ∃ t template, printed = [t] ∧ Template.parse t = .ok template) := by
  refine ⟨?_, ?_, ?_, fun r settings printed => edited_template⟩
  · intro snapshot member
    rcases List.mem_cons.mp member with rfl | member
    · exact ⟨(State.start text).line.cursor_le, rfl⟩
    · obtain ⟨_, last, _, _, rfl⟩ := mem_trace member
      exact ⟨last.line.cursor_le, rfl⟩
  · intro s reached
    rw [showsError_iff]
    refine ⟨s.line.cursor_le, ?_⟩
    cases parsed : Template.parse s.line.text with
    | ok template => simp [enter_template reached parsed]
    | error e =>
      obtain ⟨next, pressed, kept⟩ := enter_malformed reached parsed
      simpa [pressed] using kept
  · intro t
    constructor
    · intro ended
      obtain ⟨front, rest, s, split, reached, same, valid⟩ := accepted_at_enter ended
      exact ⟨front, rest, s, split, reached, same, validate_ok_iff.mp valid⟩
    · rintro ⟨front, rest, s, rfl, reached, rfl, template, parsed⟩
      rw [run_append _ reached, Editor.run, enter_template reached parsed]

/-- Enter on a lone `%` moves the cursor in front of it. Back at the end, the
cursor stays under a second enter, and with one more `%` a third is accepted. -/
theorem session_sound_lone_percent :
    let text : Text := ['a', '%']
    let refused : List Key := [.enter, .toEnd]
    (∃ next, (State.start text).press .enter = (next, none) ∧
      LongestTemplate text next.line.cursor) ∧
    UnchangedSinceRefusal text refused ∧
    (∃ s next, after (.start text) refused = some s ∧ s.press .enter = (next, none) ∧
      next.line.cursor = 2) ∧
    (Editor.run .white (.start text) (refused ++ [.enter, .typed '%', .enter])).2 =
      some (.accepted ['a', '%', '%']) := by
  intro text refused
  have failed : Template.parse ['a', '%'] = .error (.malformed ['a', '%'] 1) := by cbv
  have parsed : Template.parse ['a', '%', '%'] =
      .ok ⟨[.literal ['a'], .literal ['%']], ['a', '%', '%']⟩ := by cbv
  have refusal := validate_error_iff.mpr ⟨_, failed, rfl⟩
  have first : (State.start text).press .enter = (⟨⟨['a'], ['%']⟩, true⟩, none) := by
    simp [State.press, State.enter, State.start, text, refusal, FormatError.position,
      EditLine.moveTo]
  have reached : after (.start text) refused = some ⟨⟨['a', '%'], []⟩, true⟩ := by
    rw [after, first]
    rfl
  have second : State.press ⟨⟨['a', '%'], []⟩, true⟩ .enter =
      (⟨⟨['a', '%'], []⟩, true⟩, none) := rfl
  have mended : after (.start text) (refused ++ [.enter, .typed '%']) =
      some ⟨⟨['a', '%', '%'], []⟩, false⟩ := by
    rw [after_append, reached]
    rfl
  have fresh : ¬UnchangedSinceRefusal text [] := by simp [UnchangedSinceRefusal]
  have unchanged := (refused_iff reached).mp rfl
  have atStart := (session_sound .white text []).2.1 _ rfl
  have atEnd := (session_sound .white text refused).2.1 _ reached
  refine ⟨⟨_, first, (atStart.2.2.2.2 _ first).2.2 fresh⟩, unchanged,
    ⟨_, _, reached, second, (atEnd.2.2.2.2 _ second).2.1 unchanged⟩, ?_⟩
  exact ((session_sound .white text _).2.2.1 _).mpr ⟨_, [], _, rfl, mended, rfl, _, parsed⟩

end Swatch.EditorSession
