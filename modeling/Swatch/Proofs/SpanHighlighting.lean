import Swatch.Editor.Highlight
import Swatch.Proofs.SettingsCheck
import Swatch.Proofs.TemplateBreakdown
import Swatch.Proofs.TemplateGrammar

/-! Highlighting by the spans of a scan. The text of a span is cut out of the
whole and taken apart once more, with a search of its own for the end of a
padding, and a text at fault is scanned a second time up to the fault. Nothing of
this can fail, and the parts are those that the reader found. -/
namespace Swatch.SpanHighlighting
open CursorReading SettingsCheck TemplateBreakdown TemplateGrammar TemplateReading

variable {text front rest : Text} {elements : List Element}

/-- Why a highlighting by spans would be given up: the text in front of a fault
is itself at fault, or an expansion has no character to show as its channel. -/
inductive Obstacle where
  | format (e : FormatError)
  | noChannel
  deriving DecidableEq

/-- The text that a span stands for. -/
def slice (text : Text) (span : Span) : Text := (text.take span.stop).drop span.start

/-- Where the digits end that stand in the body of an expansion from a position
on. The last character of the body is its channel and no digit of a width, and a
padding has no more than six characters. -/
def padStop (body : Text) (position : Nat) : Nat :=
  if inside : position + 1 < body.length ∧ position ≤ 5 then
    if Numeral.isDecimal body[position] then padStop body (position + 1) else position
  else position
termination_by body.length - position

/-- The fragments of a text that is shown in a class, of which there are none if
it is empty. -/
def shown (c : StyleClass) (part : Text) : List Fragment := if part = [] then [] else [c.on part]

/-- The fragments of the text of an expansion. That the node has a padding is
taken from the node, and how far it goes from the text. -/
def expansionFragments (raw : Text) (e : Expansion) : Except Obstacle (List Fragment) :=
  let body := (raw.drop 2).dropLast
  let stop := if e.pad.isSome then padStop body 1 else 0
  match body.getLast? with
  | none => .error .noChannel
  | some letter => .ok ([StyleClass.expansion.on ['%', '\x7b']] ++
      (if stop = 0 then [] else [StyleClass.pad.on (body.take stop)]) ++
      (if stop + 1 < body.length then [StyleClass.base.on (body.drop stop).dropLast] else []) ++
      [StyleClass.channel.on [letter], StyleClass.expansion.on ['\x7d']])

def spanFragments (text : Text) (span : Span) : Except Obstacle (List Fragment) :=
  match span.node with
  | .expansion e => expansionFragments (slice text span) e
  | .literal _ =>
    if slice text span = ['%', '%'] then .ok [StyleClass.escape.on (slice text span)]
    else .ok [StyleClass.literal.on (slice text span)]

def spansFragments (text : Text) (spans : List Span) : Except Obstacle (List Fragment) :=
  (spans.mapM (spanFragments text)).map List.flatten

/-- The fragments of a text by its spans. Where the scan of the whole fails, the
text is scanned again up to the position of the failure. -/
def highlighted (text : Text) : Except Obstacle (List Fragment) :=
  match Template.scan text with
  | .ok spans => spansFragments text spans
  | .error e => do
    let spans ← (Template.scan (text.take e.position)).mapError .format
    let fragments ← spansFragments text spans
    return fragments ++ [StyleClass.error.on (text.drop e.position)]

/-- The fragments that the text of a span should have. The text of an expansion
is spelled with a padding and a base, each of which has a fragment exactly if
something is spelled for it. -/
inductive Shows (text : Text) : Span → List Fragment → Prop where
  | run {span : Span} {part : Text} :
      span.node = .literal part → slice text span = part → part ≠ [] → '%' ∉ part →
      Shows text span [StyleClass.literal.on part]
  | percent {span : Span} :
      span.node = .literal ['%'] → slice text span = ['%', '%'] →
      Shows text span [StyleClass.escape.on ['%', '%']]
  | expansion {span : Span} {e : Expansion} {pad base : Text} :
      span.node = .expansion e → SpellsPadding pad e.pad → SpellsBase base e.base →
      slice text span = '%' :: '\x7b' :: (pad ++ base ++ [e.channel.letter, '\x7d']) →
      Shows text span ([StyleClass.expansion.on ['%', '\x7b']] ++ shown .pad pad ++
        shown .base base ++ [StyleClass.channel.on [e.channel.letter],
          StyleClass.expansion.on ['\x7d']])

/-- The fragments of an element are its spelling in order. -/
theorem element_fragments_text (e : Element) :
    e.fragments.flatMap Fragment.text = e.source := by
  cases e with
  | run text => simp [Element.fragments, Element.source]
  | percent => simp [Element.fragments, Element.source]
  | expansion pad base channel =>
    cases pad <;> cases base <;> simp [Element.fragments, Element.source]

/-- The fragments of a template are those of its elements. -/
theorem fragments_of_leads (leads : Leads [] elements text) :
    Highlight.fragments text = elements.flatMap Element.fragments := by
  simp [Highlight.fragments, reading_of_leads leads, reading_nil]

/-- The search ends behind the digits it starts at, if they are not too many and
something else than a digit follows. -/
theorem padStop_digits {lead digits ending : Text}
    (valid : ∀ c ∈ digits, Numeral.isDecimal c = true) (room : lead.length + digits.length ≤ 6)
    (other : ∀ c ∈ ending.head?, Numeral.isDecimal c = false) (nonempty : ending ≠ []) :
    padStop (lead ++ (digits ++ ending)) lead.length = lead.length + digits.length := by
  induction digits generalizing lead with
  | nil =>
    obtain ⟨c, after, rfl⟩ := List.exists_cons_of_ne_nil nonempty
    have noDigit : Numeral.isDecimal c = false := other c rfl
    rw [padStop]
    split
    · simp [noDigit]
    · rfl
  | cons digit digits ih =>
    have more : 0 < ending.length := List.length_pos_iff.mpr nonempty
    obtain ⟨first, validRest⟩ := List.forall_mem_cons.mp valid
    rw [List.length_cons] at room
    have inside : lead.length + 1 < (lead ++ (digit :: digits ++ ending)).length ∧
        lead.length ≤ 5 := by
      simp only [List.length_append, List.length_cons]
      omega
    have bound : lead.length < (lead ++ (digit :: digits ++ ending)).length := by omega
    have here : (lead ++ (digit :: digits ++ ending))[lead.length] = digit := by simp
    have next := @ih (lead ++ [digit]) validRest (by simp; omega)
    rw [padStop, dif_pos inside, here, if_pos first]
    simpa [Nat.add_assoc, Nat.add_comm 1] using next

/-- The spelling of a padding, and of a base. -/
private abbrev padText (pad : Option PadSpelling) : Text := pad.elim [] PadSpelling.source

private abbrev baseText (base : Option Base) : Text := base.elim [] fun b => [b.letter]

private theorem ending_not_digit (base : Option Base) (channel : Channel) :
    ∀ c ∈ (baseText base ++ [channel.letter]).head?, Numeral.isDecimal c = false := by
  cases base with
  | none =>
    have letter : Numeral.isDecimal channel.letter = false := by cases channel <;> decide
    simpa using letter
  | some base =>
    have letter : Numeral.isDecimal base.letter = false := by cases base <;> decide
    simpa using letter

/-- The search agrees with the reader on where the padding ends. -/
theorem padStop_body (pad : PadSpelling) (base : Option Base) (channel : Channel) :
    padStop (pad.source ++ (baseText base ++ [channel.letter])) 1 = pad.source.length := by
  obtain ⟨_, short, digits, _⟩ := isPadWidth_iff.mp pad.isWidth
  have room : [pad.fill].length + pad.digits.length ≤ 6 := by
    rw [List.length_singleton]
    omega
  have found := padStop_digits digits room (ending_not_digit base channel) (by simp)
  simpa [PadSpelling.source, Nat.add_comm] using found

theorem expansionFragments_source (pad : Option PadSpelling) (base : Option Base)
    (channel : Channel) :
    expansionFragments (Element.expansion pad base channel).source
        ⟨channel, base.getD .decimal, pad.map PadSpelling.padding⟩ =
      .ok (Element.expansion pad base channel).fragments := by
  have body : ((Element.expansion pad base channel).source.drop 2).dropLast =
      padText pad ++ (baseText base ++ [channel.letter]) := by
    have split : padText pad ++ baseText base ++ [channel.letter, '\x7d'] =
        padText pad ++ (baseText base ++ [channel.letter]) ++ ['\x7d'] := by simp
    rw [Element.source, List.drop_succ_cons, List.drop_succ_cons, List.drop_zero]
    exact (congrArg List.dropLast split).trans List.dropLast_concat
  have last : (padText pad ++ (baseText base ++ [channel.letter])).getLast? =
      some channel.letter := by
    rw [← List.append_assoc, List.getLast?_concat]
  have stop : (if (pad.map PadSpelling.padding).isSome then
      padStop (padText pad ++ (baseText base ++ [channel.letter])) 1 else 0) =
        (padText pad).length := by
    cases pad with
    | none => rfl
    | some pad => exact padStop_body pad base channel
  simp only [expansionFragments, body, last, stop, List.take_left, List.drop_left,
    List.dropLast_concat]
  cases pad <;> cases base <;> simp [Element.fragments, PadSpelling.source]

theorem slice_source (e : Element) :
    slice (front ++ (e.source ++ rest)) ⟨e.node, front.length, front.length + e.source.length⟩ =
      e.source := by
  rw [slice, ← List.append_assoc, ← List.length_append, List.take_left, List.drop_left]

/-- A span with the node of an element, which cuts the spelling of the element
out of the text. -/
structure SpanOf (text : Text) (span : Span) (e : Element) : Prop where
  node : span.node = e.node
  cut : slice text span = e.source
  length : span.start + e.source.length = span.stop

/-- Elements that stand in a text one behind the other have their spans there. -/
theorem spansOf_elements (whole : text = front ++ (elements.flatMap Element.source ++ rest)) :
    List.Forall₂ (SpanOf text) (Element.spans front.length elements) elements := by
  induction elements generalizing front with
  | nil => exact .nil
  | cons e elements ih =>
    have here : text = front ++ (e.source ++ (elements.flatMap Element.source ++ rest)) := by
      rw [whole, List.flatMap_cons, List.append_assoc]
    have cut : slice text ⟨e.node, front.length, front.length + e.source.length⟩ = e.source := by
      rw [here, slice_source]
    have behind := @ih (front ++ e.source) (by rw [here, List.append_assoc])
    rw [List.length_append] at behind
    exact .cons ⟨rfl, cut, rfl⟩ behind

/-- The span of an element is highlighted as the element is. -/
theorem spanFragments_of_slice {e : Element} {span : Span} (well : WellSpelled e)
    (node : span.node = e.node) (cut : slice text span = e.source) :
    spanFragments text span = .ok e.fragments := by
  cases e with
  | run part =>
    have other : part ≠ ['%', '%'] := fun same => well.2 (by simp [same])
    simp [spanFragments, node, cut, Element.node, Element.source, Element.fragments, other]
  | percent => simp [spanFragments, node, cut, Element.node, Element.source, Element.fragments]
  | expansion pad base channel =>
    simp only [spanFragments, node, cut, Element.node]
    exact expansionFragments_source pad base channel

/-- What is shown of a span is what the grammar says of its text. -/
theorem shows_of_slice {e : Element} {span : Span} (well : WellSpelled e)
    (node : span.node = e.node) (cut : slice text span = e.source) :
    Shows text span e.fragments := by
  cases e with
  | run part => exact .run node cut well.1 well.2
  | percent => exact .percent node cut
  | expansion pad base channel =>
    have fragments : (Element.expansion pad base channel).fragments =
        [StyleClass.expansion.on ['%', '\x7b']] ++ shown .pad (padText pad) ++
          shown .base (baseText base) ++
          [StyleClass.channel.on [channel.letter], StyleClass.expansion.on ['\x7d']] := by
      cases pad <;> cases base <;> simp [Element.fragments, shown, PadSpelling.source]
    rw [fragments]
    exact .expansion node (spells_padding pad) (spells_base base) cut

theorem spansFragments_cons {span : Span} {spans : List Span} {first others : List Fragment}
    (head : spanFragments text span = .ok first) (tail : spansFragments text spans = .ok others) :
    spansFragments text (span :: spans) = .ok (first ++ others) := by
  obtain ⟨groups, found, rfl⟩ := map_ok_iff.mp tail
  simp [spansFragments, head, found, bind, Except.bind, pure, Except.pure, Except.map]

/-- The spans of elements that stand in a text one behind the other are
highlighted as the elements are, in their order. -/
theorem spansFragments_of_elements (well : ∀ e ∈ elements, WellSpelled e)
    (whole : text = front ++ (elements.flatMap Element.source ++ rest)) :
    spansFragments text (Element.spans front.length elements) =
        .ok (elements.flatMap Element.fragments) ∧
      List.Forall₂ (Shows text) (Element.spans front.length elements)
        (elements.map Element.fragments) := by
  have spans := spansOf_elements whole
  generalize Element.spans front.length elements = found at spans ⊢
  clear whole
  induction spans with
  | nil => exact ⟨rfl, .nil⟩
  | cons span _ ih =>
    obtain ⟨eWell, restWell⟩ := List.forall_mem_cons.mp well
    obtain ⟨behind, shows⟩ := ih restWell
    have first := spanFragments_of_slice eWell span.node span.cut
    exact ⟨spansFragments_cons first behind, .cons (shows_of_slice eWell span.node span.cut) shows⟩

theorem scan_of_leads (leads : Leads [] elements text) :
    Template.scan text = .ok (Element.spans 0 elements) := by
  simp [Template.scan, reading_of_leads leads, reading_nil]

theorem scan_of_parse_error {e : FormatError} (failed : Template.parse text = .error e) :
    Template.scan text = .error e := by
  obtain ⟨b, broken, rfl⟩ := parse_error_iff.mp failed
  simp [Template.scan, broken]

/-- A template is highlighted by its spans as by its elements, whatever stands
behind it. -/
theorem spansFragments_of_leads (leads : Leads [] elements text) (behind : Text) :
    spansFragments (text ++ behind) (Element.spans 0 elements) =
        .ok (Highlight.fragments text) ∧
      List.Forall₂ (Shows (text ++ behind)) (Element.spans 0 elements)
        (elements.map Element.fragments) := by
  obtain ⟨arranged, whole⟩ := leads_nil_iff.mp leads
  rw [fragments_of_leads leads]
  have placed : text ++ behind = [] ++ (elements.flatMap Element.source ++ behind) := by
    rw [whole, List.nil_append]
  exact spansFragments_of_elements arranged.wellSpelled placed

/-- A refused text is highlighted as the template in front of the error, and then
in one piece. -/
theorem fragments_of_error {e : FormatError} (failed : Template.parse text = .error e) :
    Highlight.fragments text = Highlight.fragments (text.take e.position) ++
      [StyleClass.error.on (text.drop e.position)] := by
  obtain ⟨b, front, rest, broken, tail, breaks, rfl⟩ := breaksAt_of_parse failed
  have taken : text.take front.length = front := by rw [breaks.whole, List.take_left]
  have left : text.drop front.length = '%' :: rest := by rw [breaks.whole, List.drop_left]
  rw [FormatError.position, taken, left, ← tail, fragments_of_leads breaks.leads]
  simp [Highlight.fragments, broken]

/-- Highlighting by spans always succeeds, and finds what the reader finds. -/
theorem highlighted_eq (text : Text) : highlighted text = .ok (Highlight.fragments text) := by
  cases parsed : Template.parse text with
  | ok template =>
    have leads := leads_of_parse parsed
    simpa [highlighted, scan_of_leads leads] using (spansFragments_of_leads leads []).1
  | error e =>
    -- The second scan stops where the first one failed, so it finds a template.
    obtain ⟨_, front, rest, _, _, breaks, rfl⟩ := breaksAt_of_parse parsed
    have split := fragments_of_error parsed
    simp only [FormatError.position] at split
    have taken : text.take front.length = front := by rw [breaks.whole, List.take_left]
    have found := (spansFragments_of_leads breaks.leads ('%' :: rest)).1
    rw [← breaks.whole] at found
    rw [split, highlighted, scan_of_parse_error parsed]
    simp [FormatError.position, taken, scan_of_leads breaks.leads, found, bind, Except.bind,
      Except.mapError, pure, Except.pure]

theorem fragment_ne_nil {e : Element} (well : WellSpelled e) : ∀ f ∈ e.fragments, f.text ≠ [] := by
  cases e with
  | run part => simpa [Element.fragments] using well.1
  | percent => simp [Element.fragments]
  | expansion pad base channel =>
    cases pad <;> cases base <;> simp [Element.fragments, PadSpelling.source]

/-- No fragment of a text is empty, and together they are the text. -/
theorem fragments_whole (text : Text) :
    (∀ f ∈ Highlight.fragments text, f.text ≠ []) ∧
      (Highlight.fragments text).flatMap Fragment.text = text := by
  have leads := leads_of_reading text
  have whole := leads_whole leads
  have found : ∀ f ∈ (Reading.of text).elements.flatMap Element.fragments, f.text ≠ [] := by
    intro f member
    obtain ⟨e, inside, part⟩ := List.mem_flatMap.mp member
    exact fragment_ne_nil ((arranged_of_leads leads).wellSpelled e inside) f part
  have spelled : ((Reading.of text).elements.flatMap Element.fragments).flatMap Fragment.text =
      (Reading.of text).elements.flatMap Element.source := by
    simp only [List.flatMap_assoc, element_fragments_text]
  unfold Highlight.fragments
  cases broken : (Reading.of text).breakdown with
  | none =>
    rw [Leftover, broken] at whole
    exact ⟨by simpa [broken] using found, by simpa [broken, spelled] using whole⟩
  | some b =>
    obtain ⟨rest, tail, _⟩ := breakdown_percent text broken
    rw [Leftover, broken] at whole
    refine ⟨fun f member => ?_, by simpa [broken, spelled] using whole⟩
    rcases List.mem_append.mp member with inside | last
    · exact found f inside
    · simp only [broken, Option.elim, List.mem_singleton] at last
      simp [last, tail]

/-- Highlighting by spans succeeds on every text, with fragments that are not
empty and make up the text. On a template, they are those that the grammar asks
for, span by span. -/
theorem highlighted_exact (text : Text) :
    ∃ fragments, highlighted text = .ok fragments ∧ Highlight.fragments text = fragments ∧
      (∀ f ∈ fragments, f.text ≠ []) ∧ fragments.flatMap Fragment.text = text ∧
      ∀ template, Template.parse text = .ok template →
        ∃ spans groups, Template.scan text = .ok spans ∧
          spans.map Span.node = template.nodes ∧ fragments = groups.flatten ∧
          List.Forall₂ (Shows text) spans groups := by
  obtain ⟨nonempty, whole⟩ := fragments_whole text
  refine ⟨_, highlighted_eq text, rfl, nonempty, whole, fun template parsed => ?_⟩
  have leads := leads_of_parse parsed
  have same : template = ⟨(Reading.of text).elements.map Element.node, text⟩ :=
    Except.ok.inj (parsed.symm.trans (parse_of_leads leads))
  have shows := (spansFragments_of_leads leads []).2
  rw [List.append_nil] at shows
  refine ⟨_, _, scan_of_leads leads, ?_, ?_, shows⟩
  · rw [nodes_of_spans, same]
  · rw [fragments_of_leads leads, List.flatMap_def]

/-- A text with a digit and a base letter as fills, where one base is spelled and
the other is not. -/
def filledText : Text := "%%%\x7b502Hg\x7d%\x7bd1r\x7d".toList

theorem highlighted_exact_filledText :
    highlighted filledText = .ok [
      StyleClass.escape.on ['%', '%'],
      StyleClass.expansion.on ['%', '\x7b'], StyleClass.pad.on ['5', '0', '2'],
      StyleClass.base.on ['H'], StyleClass.channel.on ['g'], StyleClass.expansion.on ['\x7d'],
      StyleClass.expansion.on ['%', '\x7b'], StyleClass.pad.on ['d', '1'],
      StyleClass.channel.on ['r'], StyleClass.expansion.on ['\x7d']] ∧
    ∃ spans groups, Template.scan filledText = .ok spans ∧
      highlighted filledText = .ok groups.flatten ∧
      List.Forall₂ (Shows filledText) spans groups := by
  have accepted : Template.accepts filledText = true := by decide +kernel
  obtain ⟨template, parsed⟩ := accepts_iff.mp accepted
  obtain ⟨fragments, found, same, _, _, exact⟩ := highlighted_exact filledText
  obtain ⟨spans, groups, scanned, _, split, shows⟩ := exact template parsed
  refine ⟨?_, spans, groups, scanned, split ▸ found, shows⟩
  rw [found, ← same]
  cbv

end Swatch.SpanHighlighting
