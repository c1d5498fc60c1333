import Swatch.Proofs.CursorReading

/-! A malformed template text is cut at the position of its error into a front
that is a template and a tail at which no element can be read. Cutting the tail
short does not help it, so that the front is the longest template with which
the text begins. -/
namespace Swatch.TemplateBreakdown
open CursorReading TemplateReading

/-- A text whose reading gives up behind these elements, where nothing can be
read from a `%`. -/
structure BreaksAt (text front rest : Text) (elements : List Element) : Prop where
  whole : text = front ++ '%' :: rest
  leads : Leads [] elements front
  stuck : ∃ unread, Element.read '%' rest = .error unread

/-- No element can be read from a text that is cut shorter, if none can be read
from the whole. -/
theorem stuck_truncated {rest : Text} (n : Nat)
    (stuck : ∃ unread, Element.read '%' rest = .error unread) :
    ∃ unread, Element.read '%' (rest.take n) = .error unread := by
  obtain ⟨unread, failed⟩ := stuck
  cases read : Element.read '%' (rest.take n) with
  | error left => exact ⟨left, rfl⟩
  | ok found =>
    -- Its spelling begins with `%`, so the element would stop before any text.
    obtain ⟨e, after⟩ := found
    obtain ⟨well, _, spelled⟩ := read_eq_ok_iff.mp read
    have percent : '%' ∈ e.source := by
      obtain ⟨c, source, shape⟩ := List.exists_cons_of_ne_nil (source_ne_nil well)
      rw [shape, List.cons_append] at spelled
      simp [shape, (List.cons.inj spelled).1]
    have whole : e.source ++ (after ++ rest.drop n) = '%' :: rest := by
      rw [← List.append_assoc, spelled, List.cons_append, List.take_append_drop]
    rw [read_eq_ok_iff.mpr ⟨well, .inl percent, whole⟩] at failed
    cases failed

theorem breaksAt_of_breakdown {text : Text} {b : Breakdown}
    (broken : (Reading.of text).breakdown = some b) :
    ∃ front rest, BreaksAt text front rest (Reading.of text).elements ∧ b.tail = '%' :: rest := by
  obtain ⟨rest, tail, failed⟩ := breakdown_percent text broken
  have leads := leads_of_reading text
  simp only [Leftover, broken, Option.elim, tail] at leads
  exact ⟨_, rest, ⟨(leads_whole leads).symm,
    leads_nil_iff.mpr ⟨arranged_of_leads leads, rfl⟩, _, failed⟩, tail⟩

/-- The elements in front of the tail are found however short the tail is cut,
and reading gives up behind them. -/
theorem reading_truncated {text front rest : Text} {elements : List Element} (n : Nat)
    (breaks : BreaksAt text front rest elements) :
    ∃ b, Reading.of (front ++ '%' :: rest.take n) = ⟨elements, some b⟩ := by
  obtain ⟨unread, failed⟩ := stuck_truncated n breaks.stuck
  obtain ⟨arranged, spelled⟩ := leads_nil_iff.mp breaks.leads
  have leads := leads_of_arranged arranged (boundary_percent (rest.take n))
  rw [spelled] at leads
  exact ⟨_, by rw [reading_of_leads leads, reading_of_error failed, List.append_nil]⟩

theorem reading_front {text front rest : Text} {elements : List Element}
    (breaks : BreaksAt text front rest elements) : Reading.of front = ⟨elements, none⟩ := by
  rw [reading_of_leads breaks.leads, reading_nil, List.append_nil]

/-- A text is refused where its reading gives up, with the length of the front
as the position. -/
theorem breaksAt_of_parse {text : Text} {e : FormatError}
    (failed : Template.parse text = .error e) :
    ∃ b front rest, (Reading.of text).breakdown = some b ∧ b.tail = '%' :: rest ∧
      BreaksAt text front rest (Reading.of text).elements ∧ e = .malformed text front.length := by
  obtain ⟨b, broken, rfl⟩ := parse_error_iff.mp failed
  obtain ⟨front, rest, breaks, tail⟩ := breaksAt_of_breakdown broken
  have length := congrArg List.length breaks.whole
  rw [List.length_append, ← tail] at length
  exact ⟨b, front, rest, broken, tail, breaks, by rw [length, Nat.add_sub_cancel]⟩

/-- A length at which a text can be cut to leave a template, and the greatest
one. -/
structure LongestTemplate (text : Text) (length : Nat) : Prop where
  inside : length ≤ text.length
  accepted : ∃ template, Template.parse (text.take length) = .ok template
  greatest : ∀ q, length < q → q ≤ text.length →
    ∃ e, Template.parse (text.take q) = .error e

/-- A text that breaks down behind a front has no longer template in front. -/
theorem longest_of_breaksAt {text front rest : Text} {elements : List Element}
    (breaks : BreaksAt text front rest elements) : LongestTemplate text front.length := by
  have taken : text.take front.length = front := by rw [breaks.whole, List.take_left]
  refine ⟨?_, ?_, ?_⟩
  · rw [breaks.whole, List.length_append]
    exact Nat.le_add_right _ _
  · exact ⟨_, by rw [taken, Template.parse, reading_front breaks]⟩
  · intro q beyond _
    obtain ⟨n, rfl⟩ : ∃ n, q = front.length + (n + 1) := ⟨q - front.length - 1, by omega⟩
    obtain ⟨b, truncated⟩ := reading_truncated n breaks
    have cut : text.take (front.length + (n + 1)) = front ++ '%' :: rest.take n := by
      rw [breaks.whole, List.take_length_add_append, List.take_succ_cons]
    exact ⟨_, parse_error_iff.mpr ⟨b, by rw [cut, truncated], rfl⟩⟩

/-- The position of an error is the length of the longest template with which
the text begins. A `%` stands there. The loop over the elements of the text ends
at a failure of the one that begins there, and the scan of that template has
exactly the spans that were complete by then. -/
theorem error_position_longest {text : Text} {e : FormatError}
    (failed : Template.parse text = .error e) :
    e.position < text.length ∧ text[e.position]? = some '%' ∧
    (∃ template, Template.parse (text.take e.position) = .ok template) ∧
    (∀ q, e.position < q → q ≤ text.length → ∃ e', Template.parse (text.take q) = .error e') ∧
    Template.scan text = .error e ∧
    (∃ last, (course [] (fresh text)).ending = .failed last ∧ last.start = e.position) ∧
    Template.scan (text.take e.position) = .ok (course [] (fresh text)).spans := by
  have scanned : Template.scan text = .error e := by
    obtain ⟨b, broken, rfl⟩ := parse_error_iff.mp failed
    simp [Template.scan, broken]
  obtain ⟨complete, ends⟩ := course_of_error failed
  obtain ⟨_, front, rest, _, _, breaks, rfl⟩ := breaksAt_of_parse failed
  have front_taken : text.take front.length = front := by
    rw [breaks.whole, List.take_left]
  have longest := longest_of_breaksAt breaks
  refine ⟨?_, ?_, longest.accepted, longest.greatest, scanned, ends, ?_⟩
  · rw [FormatError.position]
    have length := congrArg List.length breaks.whole
    simp only [List.length_append, List.length_cons] at length
    omega
  · simp [FormatError.position, breaks.whole]
  · simp [complete, FormatError.position, front_taken, Template.scan, reading_front breaks]

/-- A width that is too great stops the reading behind a run and a doubled `%`,
and the digits that would be a width if they were cut short do not count. -/
theorem error_position_wide_padding :
    let text := "ab%%%\x7b-99999r\x7d".toList
    Template.parse text = .error (.malformed text 4) ∧ text[4]? = some '%' ∧
    (∀ q, 4 < q → q ≤ text.length → ∃ e', Template.parse (text.take q) = .error e') ∧
    Template.scan (text.take 4) = .ok [⟨.literal ['a', 'b'], 0, 2⟩, ⟨.literal ['%'], 2, 4⟩] := by
  have failed : Template.parse "ab%%%\x7b-99999r\x7d".toList =
      .error (.malformed "ab%%%\x7b-99999r\x7d".toList 4) := by cbv
  have found : Element.spans 0 (Reading.of "ab%%%\x7b-99999r\x7d".toList).elements =
      [⟨.literal ['a', 'b'], 0, 2⟩, ⟨.literal ['%'], 2, 4⟩] := by cbv
  obtain ⟨_, percent, _, longest, _, _, spans⟩ := error_position_longest failed
  rw [(course_of_error failed).1, found] at spans
  exact ⟨failed, percent, longest, spans⟩

end Swatch.TemplateBreakdown
