import Mathlib.Data.List.Infix
import Swatch.CommandLine.Request
import Swatch.Proofs.SettingsCheck

/-! What can be said of every request that is read from a command line. It is the
outcome of options that take effect one behind the other, each without a value or
with one that stands in a word. What holds of the empty request and is kept by
every such effect therefore holds of the request that is read. -/
namespace Swatch.RequestReading
open CommandLine SettingsCheck

variable {texts : List Text} {words rest : List Word} {text : Text} {o : Opt} {attached : Attached}

/-- The text that stands alone as the divider. -/
abbrev dividerText : Text := ['-', '-']

/-- The values that options are given by words: a flag is given nothing, and any
other option a text with which a word ends that is not the divider. -/
inductive GivenBy (texts : List Text) : Opt → Given → Prop where
  | flag {o : Opt} : o.takesValue = false → GivenBy texts o .nothing
  | value {o : Opt} {word text : Text} : o.takesValue = true → word ∈ texts →
      word ≠ dividerText → text <:+ word → GivenBy texts o (.ofText text)

/-- Something that every effect of an option keeps, and that does not depend on
the colors. -/
structure Kept (texts : List Text) (P : Request → Prop) : Prop where
  given : ∀ r o value r', P r → GivenBy texts o value → r.give o value = .ok r' → P r'
  colored : ∀ (r : Request) colors, P r → P { r with colors := colors }

/-- What is attached to an option is a text with this end. -/
inductive Carries (text : Text) : Attached → Prop where
  | assigned {whole : Text} : text <:+ whole → Carries text (.assigned whole)
  | joined {whole : Text} : text <:+ whole → Carries text (.joined whole)

/-- Words of which every value that an option may take from them stands in one of
the texts. -/
structure Standing (texts : List Text) (words : List Word) : Prop where
  attached : ∀ o attached, .option o attached ∈ words →
    ∃ word ∈ texts, word ≠ dividerText ∧ ∀ text, Carries text attached → text <:+ word
  behind : ∀ front o attached text rest,
    words = front ++ .option o attached :: .operand text :: rest → text ∈ texts ∧ text ≠ dividerText

theorem Standing.of_suffix (standing : Standing texts words) (ends : rest <:+ words) :
    Standing texts rest := by
  obtain ⟨front, rfl⟩ := ends
  refine ⟨fun o attached member => standing.attached o attached (by simp [member]), ?_⟩
  rintro lead o attached text others rfl
  exact standing.behind (front ++ lead) o attached text others (by simp)

theorem Standing.mono {more : List Text} (standing : Standing texts words)
    (subset : ∀ text ∈ texts, text ∈ more) : Standing more words := by
  refine ⟨fun o attached member => ?_, fun front o attached text rest split => ?_⟩
  · obtain ⟨word, inside, rest⟩ := standing.attached o attached member
    exact ⟨word, subset word inside, rest⟩
  · obtain ⟨inside, other⟩ := standing.behind front o attached text rest split
    exact ⟨subset text inside, other⟩

theorem cutAtEquals_suffix {value : Text} (cut : (cutAtEquals text).2 = some value) :
    value <:+ text := by
  have ends := List.dropWhile_suffix (l := text) (· != '=')
  unfold cutAtEquals at cut
  split at cut
  · cases cut
  · rename_i c found dropped
    rw [dropped] at ends
    exact Option.some.inj cut ▸ (List.suffix_cons c found).trans ends

theorem carries_ofValue {value : Option Text} (carries : Carries text (.ofValue value)) :
    ∃ whole, value = some whole ∧ text <:+ whole := by
  cases value with
  | none => cases carries
  | some whole =>
    cases carries with
    | assigned ends => exact ⟨whole, rfl, ends⟩

theorem carries_behind {lead : Text} {value : Option Text}
    (carries : Carries text (.behind lead value)) : ∃ whole, value = some whole ∧ text <:+ whole := by
  unfold Attached.behind at carries
  split at carries
  · exact carries_ofValue carries
  · cases value with
    | none => cases carries
    | some whole =>
      cases carries with
      | joined ends => exact ⟨whole, rfl, ends⟩

theorem carries_attachment {word : Text} (carries : Carries text (Word.attachment word)) :
    text <:+ word := by
  unfold Word.attachment at carries
  split at carries
  · rename_i rest
    obtain ⟨whole, cut, ends⟩ := carries_ofValue carries
    have inside := (ends.trans (cutAtEquals_suffix cut)).trans (List.suffix_cons '-' rest)
    exact inside.trans (List.suffix_cons '-' ('-' :: rest))
  · cases carries with
    | joined ends => exact ends.trans (List.drop_suffix 2 word)

theorem withoutOption_ne_option (word : Text) : Word.withoutOption word ≠ .option o attached := by
  unfold Word.withoutOption
  split <;> simp

/-- A word attaches to its option what it ends with. -/
theorem suffix_of_ofOptionText {word : Text}
    (read : Word.ofOptionText word = .ok (.option o attached)) (carries : Carries text attached) :
    text <:+ word := by
  unfold Word.ofOptionText at read
  split at read
  rename_i lead value cut
  split at read
  · cases read
    cases carries
  · cases read
    obtain ⟨whole, found, ends⟩ := carries_behind carries
    exact ends.trans (cutAtEquals_suffix (by rw [cut, found]))
  · split at read
    · exact absurd (Except.ok.inj read) (withoutOption_ne_option word)
    · cases read
      exact carries_attachment carries
    · cases read

theorem option_of_ofText {word : Text} (read : Word.ofText word = .ok (.option o attached)) :
    word ≠ dividerText ∧ ∀ text, Carries text attached → text <:+ word := by
  constructor
  · rintro rfl
    cases read
  · intro text carries
    unfold Word.ofText at read
    split at read
    · cases read
    · exact suffix_of_ofOptionText read carries
    · cases read

theorem operand_of_ofOptionText {word : Text}
    (read : Word.ofOptionText word = .ok (.operand text)) : text = word := by
  unfold Word.ofOptionText at read
  split at read
  split at read
  · cases read
  · cases read
  · split at read
    · unfold Word.withoutOption at read
      split at read <;> cases read
      rfl
    · cases read
    · cases read

theorem operand_of_ofText {word : Text} (read : Word.ofText word = .ok (.operand text)) :
    text = word ∧ word ≠ dividerText := by
  constructor
  · unfold Word.ofText at read
    split at read
    · cases read
    · exact operand_of_ofOptionText read
    · cases read
      rfl
  · rintro rfl
    cases read

/-- The words of a command line begin with that of its first text. Behind the
divider there are operands only. -/
theorem of_ofTexts_cons {first : Text} (read : Word.ofTexts (first :: texts) = .ok words) :
    words = .divider :: texts.map .operand ∨
      ∃ word rest, Word.ofText first = .ok word ∧ Word.ofTexts texts = .ok rest ∧
        words = word :: rest := by
  rw [Word.ofTexts] at read
  obtain ⟨word, firstRead, read⟩ := bind_ok_iff.mp read
  split at read
  · cases read
    exact .inl rfl
  · obtain ⟨rest, restRead, done⟩ := bind_ok_iff.mp read
    cases done
    exact .inr ⟨word, rest, firstRead, restRead, rfl⟩

/-- An operand in front is that of the first text, which is no divider. -/
theorem of_ofTexts_operand (read : Word.ofTexts texts = .ok (.operand text :: rest)) :
    text ∈ texts ∧ text ≠ dividerText := by
  cases texts with
  | nil => cases read
  | cons first texts =>
    rcases of_ofTexts_cons read with same | ⟨word, others, firstRead, _, same⟩
    · cases same
    · obtain ⟨rfl, _⟩ := List.cons.inj same
      obtain ⟨rfl, other⟩ := operand_of_ofText firstRead
      exact ⟨by simp, other⟩

theorem standing_of_ofTexts (read : Word.ofTexts texts = .ok words) : Standing texts words := by
  induction texts generalizing words with
  | nil =>
    cases read
    exact ⟨by simp, by simp⟩
  | cons first texts ih =>
    rcases of_ofTexts_cons read with rfl | ⟨word, rest, firstRead, restRead, rfl⟩
    · refine ⟨by simp, fun front o attached text others split => ?_⟩
      have member : Word.option o attached ∈ Word.divider :: texts.map Word.operand := by
        simp [split]
      simp at member
    · have later := (ih restRead).mono fun text member => List.mem_cons_of_mem first member
      refine ⟨fun o attached member => ?_, fun front o attached text others split => ?_⟩
      · rcases List.mem_cons.mp member with rfl | member
        · exact ⟨first, by simp, option_of_ofText firstRead⟩
        · exact later.attached o attached member
      · cases front with
        | nil =>
          obtain ⟨_, rfl⟩ := List.cons.inj split
          obtain ⟨member, other⟩ := of_ofTexts_operand restRead
          exact ⟨List.mem_cons_of_mem first member, other⟩
        | cons w front =>
          obtain ⟨_, split⟩ := List.cons.inj split
          exact later.behind front o attached text others split

/-- The flags of a word of options take no value. A value at its end stands in
what is attached, and whoever takes it or waits for one is no flag. -/
structure SoundEnding (attached : Attached) (found : List Opt × Ending) : Prop where
  flags : ∀ o ∈ found.1, o.takesValue = false
  value : ∀ o text, found.2 = .value o text → o.takesValue = true ∧ Carries text attached
  awaiting : ∀ o, found.2 = .awaiting o → o.takesValue = true

theorem soundEnding_plain (o : Opt) (attached : Attached) :
    SoundEnding attached (plainEnding o) := by
  unfold plainEnding
  split
  · rename_i takes
    exact ⟨by simp, by simp, by simpa using takes⟩
  · rename_i flag
    exact ⟨by simpa using flag, by simp, by simp⟩

private theorem soundEnding_value {whole : Text} (takes : o.takesValue = true)
    (carries : Carries whole attached) : SoundEnding attached ([], .value o whole) := by
  refine ⟨by simp, fun o' text same => ?_, by simp⟩
  cases same
  exact ⟨takes, carries⟩

/-- One more flag in front of a word of options. -/
private theorem SoundEnding.cons {c : Char} {found : List Opt × Ending}
    (sound : SoundEnding (.joined text) found) (flag : o.takesValue = false) :
    SoundEnding (.joined (c :: text)) (o :: found.1, found.2) := by
  refine ⟨List.forall_mem_cons.mpr ⟨flag, sound.flags⟩, fun o' value same => ?_, sound.awaiting⟩
  obtain ⟨takes, carries⟩ := sound.value o' value same
  cases carries with
  | joined ends => exact ⟨takes, .joined (ends.trans (List.suffix_cons c text))⟩

theorem soundEnding_joined {found : List Opt × Ending} (read : joinedEnding o text = .ok found) :
    SoundEnding (.joined text) found := by
  induction text generalizing o found with
  | nil =>
    unfold joinedEnding at read
    split at read
    · rename_i takes
      cases read
      exact soundEnding_value takes (.joined (List.suffix_refl _))
    · cases read
  | cons c rest ih =>
    unfold joinedEnding at read
    split at read
    · rename_i takes
      cases read
      exact soundEnding_value takes (.joined (List.suffix_refl _))
    · rename_i flag
      cases letter : Opt.ofLetter? c with
      | none => simp [letter] at read
      | some next =>
        simp only [letter] at read
        split at read
        · cases read
          exact (soundEnding_plain next _).cons (by simpa using flag)
        · obtain ⟨inner, innerRead, done⟩ := bind_ok_iff.mp read
          cases done
          exact (ih innerRead).cons (by simpa using flag)

theorem soundEnding_of_endingOf {found : List Opt × Ending}
    (read : endingOf o attached = .ok found) : SoundEnding attached found := by
  cases attached with
  | nothing =>
    cases read
    exact soundEnding_plain o _
  | assigned whole =>
    simp only [endingOf, assignedEnding] at read
    split at read
    · rename_i takes
      cases read
      exact soundEnding_value takes (.assigned (List.suffix_refl _))
    · cases read
  | joined whole => exact soundEnding_joined read

variable {P : Request → Prop} {r r' : Request} {flags : List Opt} {p p' : Progress}

theorem kept_flag (kept : Kept texts P) (holds : P r) (valid : ∀ o ∈ flags, o.takesValue = false)
    (done : r.flag flags = .ok r') : P r' := by
  induction flags generalizing r with
  | nil =>
    cases done
    exact holds
  | cons o flags ih =>
    obtain ⟨first, rest⟩ := List.forall_mem_cons.mp valid
    simp only [Request.flag, List.foldlM_cons] at done
    obtain ⟨next, given, done⟩ := bind_ok_iff.mp done
    exact ih (kept.given _ _ _ _ holds (.flag first) given) rest done

theorem kept_give {value : Text} (kept : Kept texts P) (holds : P p.request)
    (valid : ∀ o ∈ flags, o.takesValue = false) (given : GivenBy texts o (.ofText value))
    (done : p.give flags o value = .ok p') : P p'.request := by
  obtain ⟨r, flagged, done⟩ := bind_ok_iff.mp done
  obtain ⟨r', taken, done⟩ := bind_ok_iff.mp done
  cases done
  exact kept.given _ _ _ _ (kept_flag kept holds valid flagged) given taken

theorem kept_finish (kept : Kept texts P) (holds : P p.request)
    (valid : ∀ o ∈ flags, o.takesValue = false) (done : p.finish flags = .ok p') :
    P p'.request := by
  obtain ⟨r, flagged, done⟩ := bind_ok_iff.mp done
  cases done
  exact kept_flag kept holds valid flagged

theorem kept_operands {colors : List Text} (kept : Kept texts P) (holds : P p.request) :
    P (p.operands colors).request := by
  unfold Progress.operands
  split
  · exact holds
  · exact kept.colored _ _ holds

/-- What the words keep one by one they keep as a whole. -/
theorem kept_read (kept : Kept texts P) (standing : Standing texts words) (holds : P p.request)
    (done : p.read words = .ok p') : P p'.request := by
  induction words using WellFounded.induction (measure List.length).wf generalizing p with
  | _ words ih =>
    cases words with
    | nil =>
      rw [Progress.read] at done
      cases done
      exact holds
    | cons word rest =>
      have later {q : Progress} {back : List Word} (ends : back <:+ rest) (still : P q.request)
          (done : q.read back = .ok p') : P p'.request :=
        ih back (Nat.lt_succ_of_le ends.length_le)
          (standing.of_suffix (ends.trans (List.suffix_cons word rest))) still done
      cases word with
      | unknown text =>
        rw [Progress.read] at done
        exact later (q := { p with unrecognized := p.unrecognized ++ [text] })
          (List.suffix_refl rest) holds done
      | operand | divider =>
        rw [Progress.read] at done
        · exact later (List.drop_suffix _ rest) (kept_operands kept holds) done
        · simp
        · simp
      | option o attached =>
        rw [Progress.read] at done
        obtain ⟨⟨flags, ending⟩, found, done⟩ := bind_ok_iff.mp done
        have sound := soundEnding_of_endingOf (mapError_ok_iff.mp found)
        cases ending with
        | flags =>
          obtain ⟨q, finished, done⟩ := bind_ok_iff.mp done
          exact later (List.suffix_refl rest) (kept_finish kept holds sound.flags finished) done
        | value o' value =>
          obtain ⟨q, taken, done⟩ := bind_ok_iff.mp done
          obtain ⟨takes, carries⟩ := sound.value o' value rfl
          obtain ⟨word, inside, other, ends⟩ := standing.attached o attached (by simp)
          have given := GivenBy.value takes inside other (ends value carries)
          exact later (List.suffix_refl rest) (kept_give kept holds sound.flags given taken) done
        | awaiting o' =>
          have takes := sound.awaiting o' rfl
          cases rest with
          | nil => cases done
          | cons next back =>
            cases next with
            | operand value =>
              obtain ⟨q, taken, done⟩ := bind_ok_iff.mp done
              obtain ⟨inside, other⟩ := standing.behind [] o attached value back rfl
              have given := GivenBy.value takes inside other (List.suffix_refl value)
              exact later (List.suffix_cons _ back) (kept_give kept holds sound.flags given taken)
                done
            | divider | option | unknown => cases done

/-- What holds of the empty request and is kept by every effect holds of the
request of a command line. -/
theorem kept_ofTexts (kept : Kept texts P) (empty : P {}) (asked : Request.ofTexts texts = .ok r) :
    P r := by
  obtain ⟨words, cut, asked⟩ := bind_ok_iff.mp asked
  obtain ⟨p, read, completed⟩ := bind_ok_iff.mp asked
  have holds := kept_read (p := {}) kept (standing_of_ofTexts (mapError_ok_iff.mp cut)) empty read
  unfold Request.complete at completed
  split at completed
  · cases completed
  · split at completed
    · split at completed <;> cases completed
      exact holds
    · cases completed
      exact holds

/-- The value given to the option that makes a selection. -/
def valueOf : Selection → Given
  | .preset value => value
  | .custom value => value
  | .template value => value

/-- A word other than the divider ends with it. -/
def AttachesDivider (texts : List Text) : Prop :=
  ∃ word ∈ texts, word ≠ dividerText ∧ dividerText <:+ word

/-- A request whose options were given what words can give them. -/
structure Proper (texts : List Text) (r : Request) : Prop where
  known : ∀ name, r.selection = some (.preset (.text name)) → name ∈ Preset.names
  selected : ∀ selection, r.selection = some selection → valueOf selection = .nothing →
    AttachesDivider texts
  config : r.config = some .nothing → AttachesDivider texts

theorem attaches_of_given (given : GivenBy texts o .nothing) (takes : o.takesValue = true) :
    AttachesDivider texts := by
  generalize same : Given.nothing = value at given
  cases given with
  | flag flag =>
    rw [takes] at flag
    cases flag
  | value _ inside other ends =>
    unfold Given.ofText at same
    split at same
    · rename_i divider
      rw [divider] at ends
      exact ⟨_, inside, other, ends⟩
    · cases same

theorem select_ok {selection : Selection} (done : r.select selection = .ok r') :
    r' = { r with selection := some selection } := by
  unfold Request.select at done
  split at done
  · split at done <;> cases done
    rfl
  · cases done
    rfl

theorem proper_select (selection : Selection) (proper : Proper texts r)
    (known : ∀ name, selection = .preset (.text name) → name ∈ Preset.names)
    (attached : valueOf selection = .nothing → AttachesDivider texts)
    (done : r.select selection = .ok r') : Proper texts r' := by
  rw [select_ok done]
  refine ⟨fun name same => known name (Option.some.inj same), fun found same nothing => ?_,
    proper.config⟩
  cases same
  exact attached nothing

theorem proper_kept (texts : List Text) : Kept texts (Proper texts) := by
  refine ⟨fun r o value r' proper given done => ?_,
    fun r colors proper => ⟨proper.known, proper.selected, proper.config⟩⟩
  have attached (takes : o.takesValue = true) (same : value = .nothing) : AttachesDivider texts :=
    attaches_of_given (same ▸ given) takes
  cases o with
  | help | version => cases done
  | edit | verbose =>
    cases done
    exact ⟨proper.known, proper.selected, proper.config⟩
  | config =>
    cases done
    exact ⟨proper.known, proper.selected, fun same => attached rfl (Option.some.inj same)⟩
  | custom => exact proper_select (.custom value) proper (by simp) (attached rfl) done
  | template => exact proper_select (.template value) proper (by simp) (attached rfl) done
  | format =>
    simp only [Request.give, Request.selectPreset] at done
    split at done
    · exact proper_select (.preset .nothing) proper (by simp) (attached rfl) done
    · split at done
      · rename_i name known
        refine proper_select _ proper (fun other same => ?_) (by simp [valueOf]) done
        cases same
        exact List.contains_iff_mem.mp known
      · cases done

theorem proper_of_asked (asked : Request.ofTexts texts = .ok r) : Proper texts r :=
  kept_ofTexts (proper_kept texts) ⟨nofun, nofun, nofun⟩ asked

/-- No request to edit selects a preset. -/
theorem editing_ne_preset (asked : Request.ofTexts texts = .ok r) (edits : r.edit = true)
    (value : Given) : r.selection ≠ some (.preset value) := by
  intro selected
  obtain ⟨words, _, asked⟩ := bind_ok_iff.mp asked
  obtain ⟨p, _, completed⟩ := bind_ok_iff.mp asked
  unfold Request.complete at completed
  split at completed
  · cases completed
  · split at completed
    · split at completed
      · cases completed
      · rename_i unedited
        cases completed
        exact unedited edits
    · rename_i other
      cases completed
      exact other value selected

end Swatch.RequestReading
