import Mathlib
import Swatch.Proofs.InputLines
import Swatch.Proofs.SampleSpelling

/-! The lines that a run prints are those of all its colors, or there are none.
Which text is refused first decides what is reported, and it does not matter
whether the texts are given as arguments or as the lines of the input. Printing
itself can fail, at the first line that holds a character which the output has no
encoding for; the lines in front of it stay printed. -/
namespace Swatch.ColorOutput
open CommandLine InputLines SampleSpelling TextCutting

variable {words : List Text} {s : Surroundings} {r : Request} {f : Formatter}
  {texts lines front rest : List Text} {line : Text} {samples : List Sample} {takes : Char → Bool}

/-- A request to show samples, for which settings load and give a formatter. -/
structure Shows (s : Surroundings) (r : Request) (f : Formatter) : Prop where
  unedited : r.edit = false
  chosen : ∃ path settings, r.settingsPath? s.home = some path ∧
    Settings.load path.text (r.settingsEntry s path) = .ok settings ∧ r.formatter settings = .ok f

/-- The texts that name colors: the arguments if there are any, and otherwise the
lines of the input that are not blank, without the blanks around them. -/
inductive ColorTexts (r : Request) (input : Text) : List Text → Prop where
  | arguments : r.colors ≠ [] → ColorTexts r input r.colors
  | lines {lines : List Text} : r.colors = [] → Lines input lines →
      ColorTexts r input ((lines.filter fun line => ¬Blank line).map Text.trim)

/-- The samples that texts are read as, one by one. -/
def ReadAs (texts : List Text) (samples : List Sample) : Prop :=
  List.Forall₂ (fun text sample => Sample.read text = .ok sample) texts samples

/-- Every character of a line can be printed. -/
def Taken (takes : Char → Bool) (line : Text) : Prop := ∀ c ∈ line, takes c = true

instance (takes : Char → Bool) (line : Text) : Decidable (Taken takes line) :=
  inferInstanceAs (Decidable (∀ c ∈ line, takes c = true))

theorem all_eq_true_iff : line.all takes = true ↔ Taken takes line := List.all_eq_true

theorem printLines_taken (taken : ∀ line ∈ lines, Taken takes line) :
    printLines takes lines = (lines.flatMap fun line => line ++ ['\n'], none) := by
  induction lines with
  | nil => rfl
  | cons line lines ih =>
    obtain ⟨first, others⟩ := List.forall_mem_cons.mp taken
    rw [printLines, if_pos (all_eq_true_iff.mpr first), ih others]
    simp

/-- Printing stops at the first line that is not taken. -/
theorem printLines_refused (taken : ∀ line ∈ front, Taken takes line)
    (refused : ¬Taken takes line) : printLines takes (front ++ line :: rest) =
      (front.flatMap fun line => line ++ ['\n'], some line) := by
  induction front with
  | nil => rw [List.nil_append, printLines, if_neg (all_eq_true_iff.not.mpr refused)]; rfl
  | cons first front ih =>
    obtain ⟨firstTaken, others⟩ := List.forall_mem_cons.mp taken
    rw [List.cons_append, printLines, if_pos (all_eq_true_iff.mpr firstTaken), ih others]
    simp

theorem taken_or_refused (takes : Char → Bool) (lines : List Text) :
    (∀ line ∈ lines, Taken takes line) ∨ ∃ front line rest, lines = front ++ line :: rest ∧
      (∀ other ∈ front, Taken takes other) ∧ ¬Taken takes line := by
  induction lines with
  | nil => exact .inl (by simp)
  | cons line lines ih =>
    by_cases taken : Taken takes line
    · rcases ih with all | ⟨front, refused, rest, rfl, others, stops⟩
      · exact .inl (List.forall_mem_cons.mpr ⟨taken, all⟩)
      · have both := List.forall_mem_cons.mpr ⟨taken, others⟩
        exact .inr ⟨line :: front, refused, rest, rfl, both, stops⟩
    · exact .inr ⟨[], line, lines, rfl, by simp, taken⟩

theorem printLines_refused_iff : (printLines takes lines).2 = some line ↔
    ∃ front rest, lines = front ++ line :: rest ∧
      (∀ other ∈ front, Taken takes other) ∧ ¬Taken takes line := by
  constructor
  · intro refused
    rcases taken_or_refused takes lines with all | ⟨front, first, rest, rfl, taken, stops⟩
    · rw [printLines_taken all] at refused
      cases refused
    · rw [printLines_refused taken stops] at refused
      cases refused
      exact ⟨front, rest, rfl, taken, stops⟩
  · rintro ⟨front, rest, rfl, taken, stops⟩
    rw [printLines_refused taken stops]

theorem colorTexts_of_named {input : Text} (named : ColorTexts r input texts) :
    r.colorTexts input = texts := by
  cases named with
  | arguments given => simp [Request.colorTexts, given]
  | lines none cut =>
    rw [Request.colorTexts, none, inputColors_eq cut]
    rfl

theorem exists_colorTexts (r : Request) (input : Text) : ∃ texts, ColorTexts r input texts := by
  by_cases given : r.colors = []
  · obtain ⟨lines, cut⟩ := exists_lines input
    exact ⟨_, .lines given cut⟩
  · exact ⟨_, .arguments given⟩

theorem mapM_of_readAs (read : ReadAs texts samples) : texts.mapM Sample.read = .ok samples := by
  induction read with
  | nil => rfl
  | cons first _ ih => simp [first, ih, bind, Except.bind, pure, Except.pure]

/-- The first text that is refused is the one whose error is met. -/
theorem mapM_of_refused {front rest : List Text} {bad : Text} {e : ColorError}
    (read : ReadAs front samples) (refused : Sample.read bad = .error e) :
    (front ++ bad :: rest).mapM Sample.read = .error e := by
  rw [List.mapM_append, mapM_of_readAs read, List.mapM_cons, refused]
  rfl

theorem rendered_eq {settings : Settings} (chosen : r.formatter settings = .ok f) (input : Text) :
    r.rendered settings input = (((r.colorTexts input).mapM Sample.read).map
      (List.map f.render)).mapError .color := by
  rw [Request.rendered, chosen]
  cases (r.colorTexts input).mapM Sample.read <;> rfl

/-- How a run ends with the error that is met, if there is one. -/
def endingOf {α : Type} (read : Except ColorError α) : Except RunEnd α :=
  read.mapError fun e => (RunError.color e).ending

theorem run_of_asked (asked : Request.ofTexts words = .ok r) (s : Surroundings) :
    run words s = r.run s := by
  rw [run, asked]

/-- Surroundings without a settings file and without an input. -/
def bare : Surroundings := {
  home := "/home".toList
  homeSettings := .absent
  find := fun _ => .absent }

end Swatch.ColorOutput
