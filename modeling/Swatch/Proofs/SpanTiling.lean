import Swatch.Proofs.CursorReading
import Swatch.Proofs.SpanHighlighting

/-! The spans of a template text lie end to end from the first character to the
last, and none of them is empty. Each is what it is by its own characters: a scan
of these alone finds it again, whatever stood around them. -/
namespace Swatch.SpanTiling
open CursorReading SpanHighlighting TemplateReading

variable {text : Text} {elements : List Element} {start stop : Nat} {span : Span}
  {spans : List Span}

/-- Spans that fill the positions from one to another without a gap and without
an overlap. There are none only if there is nothing to fill. -/
structure Tiles (start stop : Nat) (spans : List Span) : Prop where
  first : ∀ span ∈ spans.head?, span.start = start
  meet : spans.IsChain fun span next => span.stop = next.start
  last : ∀ span ∈ spans.getLast?, span.stop = stop
  forward : ∀ span ∈ spans, span.start < span.stop
  bare : spans = [] → start = stop

/-- The scan of a text finds these spans, whether it takes the text apart or moves
a cursor through it. -/
structure Scanned (text : Text) (spans : List Span) : Prop where
  whole : Template.scan text = .ok spans
  byPositions : ∃ last, CursorReading.scan (fresh text) = .ok (.ok spans, last)

theorem tiles_nil (position : Nat) : Tiles position position [] :=
  ⟨by simp, .nil, by simp, by simp, by simp⟩

theorem tiles_cons (starts : span.start = start) (forward : span.start < span.stop)
    (behind : Tiles span.stop stop spans) : Tiles start stop (span :: spans) := by
  refine ⟨by simpa using starts, ?_, ?_, ?_, by simp⟩
  · exact List.isChain_cons.mpr ⟨fun next leads => (behind.first next leads).symm, behind.meet⟩
  · intro last ends
    rw [List.getLast?_cons] at ends
    cases found : spans.getLast? with
    | none =>
      rw [found] at ends
      cases ends
      exact behind.bare (List.getLast?_eq_none_iff.mp found)
    | some other =>
      rw [found] at ends
      cases ends
      exact behind.last other found
  · exact List.forall_mem_cons.mpr ⟨forward, behind.forward⟩

/-- The spans of elements fill as many positions as the elements have
characters. -/
theorem tiles_spans (position : Nat) (well : ∀ e ∈ elements, WellSpelled e) :
    Tiles position (position + (elements.flatMap Element.source).length)
      (Element.spans position elements) := by
  induction elements generalizing position with
  | nil => exact tiles_nil position
  | cons e elements ih =>
    obtain ⟨eWell, restWell⟩ := List.forall_mem_cons.mp well
    have some : 0 < e.source.length := List.length_pos_iff.mpr (source_ne_nil eWell)
    have behind := ih (position + e.source.length) restWell
    rw [Nat.add_assoc, ← List.length_append, ← List.flatMap_cons] at behind
    exact tiles_cons rfl (Nat.lt_add_of_pos_right some) behind

/-- A cursor in front of a text finds what is found when the text is taken
apart. -/
theorem scanned_of_leads (leads : Leads [] elements text) :
    Scanned text (Element.spans 0 elements) := by
  have whole := scan_of_leads leads
  refine ⟨whole, (fresh text).scan.2, ?_⟩
  rw [scan_eq (Nat.zero_le _), ← whole, ← scan_fresh]

theorem scanned_slice {e : Element} (well : WellSpelled e) (spanOf : SpanOf text span e) :
    (slice text span).length = span.stop - span.start ∧
      Scanned (slice text span) [⟨span.node, 0, span.stop - span.start⟩] := by
  have length : e.source.length = span.stop - span.start := by
    rw [← spanOf.length, Nat.add_sub_cancel_left]
  have alone := scanned_of_leads (leads_alone well)
  simp only [Element.spans, Nat.zero_add, length] at alone
  rw [spanOf.cut, spanOf.node]
  exact ⟨length, alone⟩

/-- A template text is filled by the spans of its scan, end to end, with one span
for each part of the template, and none if there is no text. The characters of
every span are on their own a template text of one span, with the same part. -/
theorem spans_tile {template : Template} (parsed : Template.parse text = .ok template) :
    ∃ spans, Scanned text spans ∧ Tiles 0 text.length spans ∧ (spans = [] ↔ text = []) ∧
      spans.map Span.node = template.nodes ∧
      ∀ span ∈ spans, (slice text span).length = span.stop - span.start ∧
        Scanned (slice text span) [⟨span.node, 0, span.stop - span.start⟩] := by
  have leads := leads_of_parse parsed
  obtain ⟨arranged, whole⟩ := leads_nil_iff.mp leads
  have tiles := tiles_spans 0 arranged.wellSpelled
  rw [whole, Nat.zero_add] at tiles
  refine ⟨_, scanned_of_leads leads, tiles, ⟨fun none => ?_, ?_⟩, ?_, ?_⟩
  · exact List.length_eq_zero_iff.mp (tiles.bare none).symm
  · rintro rfl
    rw [reading_nil, Element.spans]
  · rw [nodes_of_spans, template_of_parse parsed]
  · intro span member
    have framed : text = [] ++ ((Reading.of text).elements.flatMap Element.source ++ []) := by
      rw [whole, List.append_nil, List.nil_append]
    have cuts := spansOf_elements framed
    obtain ⟨sameLength, spanOf⟩ := List.forall₂_iff_get.mp cuts
    obtain ⟨⟨n, inside⟩, rfl⟩ := List.mem_iff_get.mp member
    have found := spanOf n inside (sameLength ▸ inside)
    exact scanned_slice (arranged.wellSpelled _ (List.get_mem _ _)) found

/-- A run and a doubled `%` in front of an expansion that is filled with `%`, and
a brace that stands for itself. -/
def braced : Text := "a%%%\x7b%07Hg\x7d\x7d".toList

theorem spans_tile_braced :
    let expansion : Node := .expansion ⟨.green, .upperHex, some ⟨'%', 7, by decide⟩⟩
    Template.parse braced = .ok
      ⟨[.literal ['a'], .literal ['%'], expansion, .literal ['\x7d']], braced⟩ ∧
    Tiles 0 12 [⟨.literal ['a'], 0, 1⟩, ⟨.literal ['%'], 1, 3⟩, ⟨expansion, 3, 11⟩,
      ⟨.literal ['\x7d'], 11, 12⟩] ∧
    Scanned "%\x7b%07Hg\x7d".toList [⟨expansion, 0, 8⟩] := by
  intro expansion
  have parsed : Template.parse braced = .ok
      ⟨[.literal ['a'], .literal ['%'], expansion, .literal ['\x7d']], braced⟩ := by cbv
  have found : Template.scan braced = .ok [⟨.literal ['a'], 0, 1⟩, ⟨.literal ['%'], 1, 3⟩,
      ⟨expansion, 3, 11⟩, ⟨.literal ['\x7d'], 11, 12⟩] := by cbv
  obtain ⟨spans, scanned, tiles, _, _, alone⟩ := spans_tile parsed
  have same := Except.ok.inj (scanned.whole.symm.trans found)
  subst same
  exact ⟨parsed, tiles, (alone ⟨expansion, 3, 11⟩ (by simp)).2⟩

end Swatch.SpanTiling
