import Swatch.Editor.Session
import Swatch.Proofs.SpanHighlighting

/-! The validator, the preview and the highlighting of the editor judge every
text as the template parser does. Where it is refused, all of them point at the
one position at which its longest template ends. -/
namespace Swatch.EditorAgreement
open SpanHighlighting TemplateBreakdown TemplateReading

variable {text : Text}

/-- The fragments of a text that is at fault from a position on: those that are
found for the front, without any error, and then the rest in one piece. -/
structure FaultFrom (text : Text) (position : Nat) (fragments front : List Fragment) : Prop where
  found : highlighted (text.take position) = .ok front
  split : fragments = front ++ [StyleClass.error.on (text.drop position)]
  clean : ∀ f ∈ front, f.style ≠ some .error
  length : (front.flatMap Fragment.text).length = position

/-- No part of an element is shown as an error. -/
theorem element_not_error {e : Element} {f : Fragment} (member : f ∈ e.fragments) :
    f.style ≠ some .error := by
  cases e with
  | run text =>
    rw [Element.fragments, List.mem_singleton] at member
    simp [member]
  | percent =>
    rw [Element.fragments, List.mem_singleton] at member
    simp [member]
  | expansion pad base channel =>
    simp only [Element.fragments, List.mem_append, List.mem_cons, List.not_mem_nil,
      or_false] at member
    rcases member with ((rfl | padding) | designator) | rfl | rfl
    · simp
    · cases pad with
      | none => simp at padding
      | some pad =>
        rw [Option.elim, List.mem_singleton] at padding
        simp [padding]
    · cases base with
      | none => simp at designator
      | some base =>
        rw [Option.elim, List.mem_singleton] at designator
        simp [designator]
    · simp
    · simp

/-- A template is shown without any error. -/
theorem fragments_clean {template : Template} (parsed : Template.parse text = .ok template) :
    ∀ f ∈ Highlight.fragments text, f.style ≠ some .error := by
  intro f member
  rw [fragments_of_leads (leads_of_parse parsed)] at member
  obtain ⟨e, _, part⟩ := List.mem_flatMap.mp member
  exact element_not_error part

/-- A refused text is highlighted as at fault from the position of its error. -/
theorem faultFrom_of_parse {e : FormatError} (failed : Template.parse text = .error e) :
    FaultFrom text e.position (Highlight.fragments text)
      (Highlight.fragments (text.take e.position)) := by
  obtain ⟨_, front, _, _, _, breaks, same⟩ := breaksAt_of_parse failed
  have longest := longest_of_breaksAt breaks
  rw [show front.length = e.position by rw [same, FormatError.position]] at longest
  obtain ⟨template, accepted⟩ := longest.accepted
  have whole := (fragments_whole (text.take e.position)).2
  refine ⟨highlighted_eq _, fragments_of_error failed, fragments_clean accepted, ?_⟩
  rw [whole, List.length_take, Nat.min_eq_left longest.inside]

/-- The template parser, the validator, the preview and the highlighting agree
on which texts are refused. The validator then puts the cursor at the position
of the error, where the one fragment of class error begins that the highlighting
ends with; the fragments before it are those of the text in front of the cursor.
The preview of any other text is its rendering between two spaces. -/
theorem consumers_agree (sample : Sample) (text : Text) :
    ((∃ e, Template.parse text = .error e) ↔ ∃ r, Editor.validate text = .error r) ∧
    ((∃ e, Template.parse text = .error e) ↔
      Editor.preview sample text = [StyleClass.error.on " invalid format string ".toList]) ∧
    (∀ template, Template.parse text = .ok template →
      Editor.preview sample text = [⟨none, ' ' :: template.render sample ++ [' ']⟩]) ∧
    ∃ fragments, highlighted text = .ok fragments ∧ Highlight.fragments text = fragments ∧
      ((∃ e, Template.parse text = .error e) ↔ ∃ f ∈ fragments, f.style = some .error) ∧
      ∀ e r, Template.parse text = .error e → Editor.validate text = .error r →
        r.cursor = e.position ∧ ∃ front, FaultFrom text r.cursor fragments front := by
  cases parsed : Template.parse text with
  | ok template =>
    have clean := fragments_clean parsed
    refine ⟨?_, ?_, ?_, _, highlighted_eq text, rfl, ?_, ?_⟩
    · simp [Editor.validate, parsed]
    · simp [Editor.preview, parsed]
    · intro other same
      cases same
      simp [Editor.preview, parsed]
    · simpa using clean
    · intro e r failed
      cases failed
  | error e =>
    have fault := faultFrom_of_parse parsed
    have wording : ' ' :: e.message ++ [' '] = " invalid format string ".toList := by
      obtain ⟨_, _, rfl⟩ := parse_error_iff.mp parsed
      rfl
    have shown : StyleClass.error.on (text.drop e.position) ∈ Highlight.fragments text := by
      rw [fault.split]
      simp
    refine ⟨?_, ?_, ?_, _, highlighted_eq text, rfl, ?_, ?_⟩
    · simp [Editor.validate, parsed]
    · simp [Editor.preview, parsed, ← wording]
    · intro template impossible
      cases impossible
    · exact ⟨fun _ => ⟨_, shown, rfl⟩, fun _ => ⟨e, rfl⟩⟩
    · intro e' r same refused
      cases same
      simp only [Editor.validate, parsed, Except.error.injEq] at refused
      subst refused
      exact ⟨rfl, _, fault⟩

/-- An expansion that ends too early, behind a run and an expansion that is
filled with `%`. -/
def unclosed : Text := "a%\x7b%2hg\x7d%\x7br".toList

theorem consumers_agree_unclosed :
    Template.parse unclosed = .error (.malformed unclosed 8) ∧
    Editor.validate unclosed = .error ⟨8, "invalid format string".toList⟩ ∧
    ∃ fragments front, highlighted unclosed = .ok fragments ∧
      FaultFrom unclosed 8 fragments front := by
  have failed : Template.parse unclosed = .error (.malformed unclosed 8) := by cbv
  have refused : Editor.validate unclosed = .error ⟨8, "invalid format string".toList⟩ := by
    rw [Editor.validate, failed]
    rfl
  obtain ⟨_, _, _, fragments, found, _, _, agreed⟩ := consumers_agree .white unclosed
  obtain ⟨_, front, fault⟩ := agreed _ _ failed refused
  exact ⟨failed, refused, fragments, front, found, fault⟩

end Swatch.EditorAgreement
