import Swatch.CommandLine.Run
import Swatch.Proofs.TextCutting

/-! The lines of an input. A line ends at a line feed, and the last one may be left
open. A carriage return ends no line, but at the end of one it is a blank. The
colors of an input are its lines that are not blank. -/
namespace Swatch.InputLines
open CommandLine TextCutting

variable {text line rest input : Text} {lines : List Text}

/-- A text within one line. -/
def Unbroken (text : Text) : Prop := '\n' ∉ text

instance (text : Text) : Decidable (Unbroken text) :=
  inferInstanceAs (Decidable ('\n' ∉ text))

/-- The lines of an input, without what ends them. -/
inductive Lines : Text → List Text → Prop where
  | nil : Lines [] []
  | last {line : Text} : line ≠ [] → Unbroken line → Lines line [line]
  | cons {line rest : Text} {lines : List Text} : Unbroken line → Lines rest lines →
      Lines (line ++ '\n' :: rest) (line :: lines)

theorem unbroken_nil : Unbroken [] := List.not_mem_nil

theorem unbroken_cons {c : Char} (other : c ≠ '\n') (unbroken : Unbroken line) :
    Unbroken (c :: line) :=
  List.not_mem_cons_of_ne_of_not_mem (Ne.symm other) unbroken

/-- A character that ends no line belongs to the first line of what follows. -/
theorem exists_lines_cons {c : Char} (other : c ≠ '\n') (cut : Lines rest lines) :
    ∃ lines, Lines (c :: rest) lines := by
  cases cut with
  | nil => exact ⟨[[c]], .last (by simp) (unbroken_cons other unbroken_nil)⟩
  | last _ unbroken => exact ⟨_, .last (by simp) (unbroken_cons other unbroken)⟩
  | cons unbroken cut => exact ⟨_, .cons (unbroken_cons other unbroken) cut⟩

/-- Every input has lines. -/
theorem exists_lines (input : Text) : ∃ lines, Lines input lines := by
  induction input with
  | nil => exact ⟨[], .nil⟩
  | cons c rest ih =>
    obtain ⟨lines, cut⟩ := ih
    by_cases feed : c = '\n'
    · subst feed
      exact ⟨_, .cons unbroken_nil cut⟩
    · exact exists_lines_cons feed cut

/-- The pieces between line feeds are the lines, but for an empty one behind the
last line feed. -/
theorem pieces_of_lines (cut : Lines input lines) :
    input.pieces '\n' = lines ∨ input.pieces '\n' = lines ++ [[]] := by
  induction cut with
  | nil => exact .inr rfl
  | last _ unbroken => exact .inl (pieces_of_notMem unbroken)
  | cons unbroken _ ih =>
    rw [pieces_append unbroken]
    exact ih.imp (congrArg (_ :: ·)) (congrArg (_ :: ·))

/-- The colors of an input are its lines that are not blank, freed of the blanks
around them. -/
theorem inputColors_eq (cut : Lines input lines) :
    inputColors input = (lines.filter fun line => ¬Blank line).map Text.trim := by
  have kept : ∀ line : Text, (!line.trim.isEmpty) = decide ¬Blank line := by
    intro line
    rw [Bool.eq_iff_iff, Bool.not_eq_true', ← Bool.not_eq_true, List.isEmpty_iff, trim_eq_nil_iff,
      decide_eq_true_iff]
  have colors : inputColors input = ((lines.map Text.trim).filter fun line => !line.isEmpty) := by
    rcases pieces_of_lines cut with pieces | pieces
    · rw [inputColors, pieces]
    · rw [inputColors, pieces]
      simp [Text.trim]
  rw [colors, List.filter_map]
  apply congrArg (List.map Text.trim)
  apply List.filter_congr
  intro line _
  exact kept line

end Swatch.InputLines
