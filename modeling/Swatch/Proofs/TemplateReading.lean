import Mathlib.Data.List.Chain
import Swatch.Template.Reading

/-! Reading a template text splits it into well-spelled elements, each of which
ends where its own spelling says. The judgement `Leads` keeps the text that
follows the elements present, so that no run can be cut short and no element
can be completed by what stands behind it. -/
namespace Swatch.TemplateReading

/-- A run is not empty and holds no `%`. The parts of every other element
already fix its spelling. -/
def WellSpelled : Element → Prop
  | .run text => text ≠ [] ∧ '%' ∉ text
  | .percent => True
  | .expansion _ _ _ => True

/-- A text in front of which a run may end: the empty one, or one with a `%`. -/
def Boundary (after : Text) : Prop := ∀ c ∈ after.head?, c = '%'

/-- An element with a `%` of its own ends where its spelling ends. A run goes on
to the next boundary. -/
def StopsBefore (e : Element) (after : Text) : Prop := '%' ∈ e.source ∨ Boundary after

/-- A text that begins with these elements, one read behind the other, and ends
with the tail. -/
inductive Leads (tail : Text) : List Element → Text → Prop where
  | nil : Leads tail [] tail
  | cons {e : Element} {elements : List Element} {after : Text} :
      WellSpelled e → StopsBefore e after → Leads tail elements after →
      Leads tail (e :: elements) (e.source ++ after)

/-- Well-spelled elements in an order in which they could be read: of two
neighbours, one has a `%`, so that every run is as long as it can be. -/
structure Arranged (elements : List Element) : Prop where
  wellSpelled : ∀ e ∈ elements, WellSpelled e
  apart : elements.IsChain fun e next => '%' ∈ e.source ∨ '%' ∈ next.source

theorem boundary_nil : Boundary [] := by simp [Boundary]

theorem boundary_percent (rest : Text) : Boundary ('%' :: rest) := by simp [Boundary]

theorem source_ne_nil {e : Element} (well : WellSpelled e) : e.source ≠ [] := by
  cases e with
  | run text => exact well.1
  | percent => simp [Element.source]
  | expansion pad base channel => simp [Element.source]

/-- An element that holds a `%` begins with one. -/
theorem percent_first {e : Element} (well : WellSpelled e) (percent : '%' ∈ e.source) :
    ∃ rest, e.source = '%' :: rest := by
  cases e with
  | run text => exact absurd percent well.2
  | percent => exact ⟨['%'], rfl⟩
  | expansion pad base channel => exact ⟨_, rfl⟩

/-- In front of a further element, an element ends exactly if one of the two has
a `%`. -/
theorem stopsBefore_source_iff {e next : Element} (well : WellSpelled next) (after : Text) :
    StopsBefore e (next.source ++ after) ↔ '%' ∈ e.source ∨ '%' ∈ next.source := by
  refine or_congr Iff.rfl ⟨fun boundary => ?_, fun percent => ?_⟩
  · obtain ⟨c, rest, spelled⟩ := List.exists_cons_of_ne_nil (source_ne_nil well)
    have first : c = '%' := boundary c (by simp [spelled])
    simp [spelled, first]
  · obtain ⟨rest, spelled⟩ := percent_first well percent
    rw [spelled]
    exact boundary_percent (rest ++ after)

/-- The width of a padding is spelled by one to five digits, and is not greater
than the greatest width. -/
theorem isPadWidth_iff {digits : Text} : isPadWidth digits = true ↔
    digits ≠ [] ∧ digits.length ≤ 5 ∧ (∀ c ∈ digits, Numeral.isDecimal c = true) ∧
      Numeral.decimalValue digits ≤ greatestPadWidth := by
  simp [isPadWidth, and_assoc]

private theorem takeWhile_front {p : Char → Bool} {front after : Text}
    (holds : ∀ c ∈ front, p c = true) (ends : ∀ c ∈ after.head?, p c = false) :
    (front ++ after).takeWhile p = front := by
  rw [List.takeWhile_append_of_pos holds]
  cases after with
  | nil => simp
  | cons c rest => simp [ends c rfl]

private theorem dropWhile_front {p : Char → Bool} {front after : Text}
    (holds : ∀ c ∈ front, p c = true) (ends : ∀ c ∈ after.head?, p c = false) :
    (front ++ after).dropWhile p = after := by
  have split := List.takeWhile_append_dropWhile (p := p) (l := front ++ after)
  rw [takeWhile_front holds ends] at split
  exact List.append_cancel_left split

/-- A spelled padding is read back where no further digit follows it; where the
first two characters are no digits, there is none to read. -/
theorem read_padding (pad : Option PadSpelling) {after : Text}
    (first : ∀ c ∈ after.head?, Numeral.isDecimal c = false)
    (second : ∀ c ∈ after[1]?, Numeral.isDecimal c = false) :
    PadSpelling.read (pad.elim [] PadSpelling.source ++ after) = .ok (pad, after) := by
  cases pad with
  | none =>
    match after with
    | [] => rfl
    | [fill] => rfl
    | fill :: c :: rest =>
      have noDigit : Numeral.isDecimal c = false := second c rfl
      simp [PadSpelling.read, noDigit]
  | some pad =>
    obtain ⟨nonempty, short, digits, _⟩ := isPadWidth_iff.mp pad.isWidth
    have taken : ((pad.digits ++ after).take 5).takeWhile Numeral.isDecimal = pad.digits := by
      rw [List.take_append, List.take_of_length_le short]
      apply takeWhile_front digits
      intro c leads
      apply first c
      cases after with
      | nil => simp at leads
      | cons head rest =>
        cases room : 5 - pad.digits.length with
        | zero => simp [room] at leads
        | succ n => simpa [room] using leads
    simp [PadSpelling.read, PadSpelling.source, taken, nonempty, pad.isWidth]

private theorem letters_not_digits (base : Option Base) (channel : Channel) (rest : Text) :
    let ending := (base.elim [] fun b => [b.letter]) ++ channel.letter :: '\x7d' :: rest
    (∀ c ∈ ending.head?, Numeral.isDecimal c = false) ∧
      ∀ c ∈ ending[1]?, Numeral.isDecimal c = false := by
  have brace : Numeral.isDecimal '\x7d' = false := by decide
  have channels : Numeral.isDecimal channel.letter = false := by cases channel <;> decide
  cases base with
  | none => simp [brace, channels]
  | some base =>
    have bases : Numeral.isDecimal base.letter = false := by cases base <;> decide
    simp [bases, channels]

private theorem read_base (base : Option Base) (channel : Channel) (rest : Text) :
    Element.readBase ((base.elim [] fun b => [b.letter]) ++ channel.letter :: rest) =
      (base, channel.letter :: rest) := by
  cases base with
  | none => cases channel <;> rfl
  | some base => simp [Element.readBase]

private theorem read_channel (channel : Channel) (after : Text) :
    Element.readChannel (channel.letter :: '\x7d' :: after) = .ok (channel, after) := by
  simp [Element.readChannel]

/-- The body of an expansion is read back, whatever follows its closing brace. -/
theorem read_body (pad : Option PadSpelling) (base : Option Base) (channel : Channel)
    (after : Text) :
    Element.readBody (pad.elim [] PadSpelling.source ++
      ((base.elim [] fun b => [b.letter]) ++ channel.letter :: '\x7d' :: after)) =
        .ok (.expansion pad base channel, after) := by
  obtain ⟨first, second⟩ := letters_not_digits base channel after
  simp [Element.readBody, read_padding pad first second, read_base, read_channel, bind,
    Except.bind, pure, Except.pure]

/-- An element can be read wherever it is spelled in front of a text that it
stops before. -/
theorem read_spelled {e : Element} {after : Text} (well : WellSpelled e)
    (stops : StopsBefore e after) :
    ∃ first rest, e.source ++ after = first :: rest ∧ Element.read first rest = .ok (e, after) := by
  cases e with
  | run text =>
    obtain ⟨nonempty, plain⟩ := well
    have ends : ∀ c ∈ after.head?, decide (c ≠ '%') = false := by
      intro c leads
      simpa using (stops.resolve_left plain) c leads
    have holds : ∀ c ∈ text, decide (c ≠ '%') = true := by
      intro c member
      simpa using fun same : c = '%' => plain (same ▸ member)
    cases text with
    | nil => exact absurd rfl nonempty
    | cons first text =>
      have other : first ≠ '%' := by simpa using holds first (by simp)
      have rest := fun c member => holds c (List.mem_cons_of_mem first member)
      refine ⟨first, text ++ after, rfl, ?_⟩
      simp only [Element.read, if_neg other]
      rw [takeWhile_front rest ends, dropWhile_front rest ends]
  | percent => exact ⟨'%', '%' :: after, rfl, by simp [Element.read]⟩
  | expansion pad base channel =>
    refine ⟨'%', '\x7b' :: _, by simp only [Element.source, List.cons_append]; rfl, ?_⟩
    simpa [Element.read] using read_body pad base channel after

private theorem read_body_shape {text after : Text} {e : Element}
    (read : Element.readBody text = .ok (e, after)) :
    ∃ pad base channel, e = .expansion pad base channel := by
  unfold Element.readBody at read
  cases padRead : PadSpelling.read text with
  | error unread => simp [padRead, bind, Except.bind] at read
  | ok found =>
    obtain ⟨pad, rest⟩ := found
    cases channelRead : Element.readChannel (Element.readBase rest).2 with
    | error unread => simp [padRead, channelRead, bind, Except.bind] at read
    | ok found =>
      simp only [padRead, channelRead, bind, Except.bind, pure, Except.pure, Except.ok.injEq,
        Prod.mk.injEq] at read
      exact ⟨_, _, _, read.1.symm⟩

private theorem read_stops {first : Char} {rest after : Text} {e : Element}
    (read : Element.read first rest = .ok (e, after)) : WellSpelled e ∧ StopsBefore e after := by
  unfold Element.read at read
  split at read
  · split at read
    · cases read
      exact ⟨trivial, .inl (by simp [Element.source])⟩
    · obtain ⟨pad, base, channel, rfl⟩ := read_body_shape read
      exact ⟨trivial, .inl (by simp [Element.source])⟩
    · cases read
  · rename_i other
    cases read
    refine ⟨⟨by simp, ?_⟩, .inr ?_⟩
    · have taken := List.all_takeWhile (p := fun c => decide (c ≠ '%')) (l := rest)
      simp only [List.all_eq_true, decide_eq_true_eq] at taken
      intro member
      rcases List.mem_cons.mp member with same | member
      · exact other same.symm
      · exact taken _ member rfl
    · intro c leads
      have dropped := List.head?_dropWhile_not (fun c => decide (c ≠ '%')) rest
      rw [Option.mem_def.mp leads] at dropped
      simpa using dropped

/-- Reading finds an element exactly where the text begins with a spelling of it
that stops before the rest. Since the element is determined by the text, so is
every choice that the reader commits to. -/
theorem read_eq_ok_iff {first : Char} {rest after : Text} {e : Element} :
    Element.read first rest = .ok (e, after) ↔
      WellSpelled e ∧ StopsBefore e after ∧ e.source ++ after = first :: rest := by
  constructor
  · intro read
    exact ⟨(read_stops read).1, (read_stops read).2, Element.source_append_of_read read⟩
  · rintro ⟨well, stops, whole⟩
    obtain ⟨first', rest', spelled, read⟩ := read_spelled well stops
    obtain ⟨rfl, rfl⟩ := List.cons_eq_cons.mp (whole.symm.trans spelled)
    exact read

/-- Reading goes on behind an element that it found. -/
theorem reading_of_ok {first : Char} {rest after : Text} {e : Element}
    (read : Element.read first rest = .ok (e, after)) :
    Reading.of (first :: rest) =
      ⟨e :: (Reading.of after).elements, (Reading.of after).breakdown⟩ := by
  rw [Reading.of]
  split
  · rename_i failed
    simp [read] at failed
  · rename_i e' after' found
    rw [read] at found
    cases found
    rfl

/-- Reading gives up at an element that cannot be completed. -/
theorem reading_of_error {first : Char} {rest unread : Text}
    (read : Element.read first rest = .error unread) :
    Reading.of (first :: rest) = ⟨[], some ⟨first :: rest, unread⟩⟩ := by
  rw [Reading.of]
  split
  · rename_i unread' failed
    rw [read] at failed
    cases failed
    rfl
  · rename_i found
    simp [read] at found

theorem reading_nil : Reading.of [] = ⟨[], none⟩ := by rw [Reading.of]

/-- A text that is led by some elements is their spellings in order, and then
the tail. -/
theorem leads_whole {elements : List Element} {tail text : Text}
    (leads : Leads tail elements text) : elements.flatMap Element.source ++ tail = text := by
  induction leads with
  | nil => rfl
  | cons _ _ _ ih => rw [List.flatMap_cons, List.append_assoc, ih]

theorem arranged_of_leads {elements : List Element} {tail text : Text}
    (leads : Leads tail elements text) : Arranged elements := by
  induction leads with
  | nil => exact ⟨by simp, .nil⟩
  | @cons e elements after well stops rest ih =>
    refine ⟨List.forall_mem_cons.mpr ⟨well, ih.wellSpelled⟩, ?_⟩
    cases rest with
    | nil => exact .singleton e
    | cons nextWell _ _ =>
      exact .cons_cons ((stopsBefore_source_iff nextWell _).mp stops) ih.apart

/-- Arranged elements are read one behind the other in front of any boundary. -/
theorem leads_of_arranged {elements : List Element} {tail : Text} (arranged : Arranged elements)
    (boundary : Boundary tail) : Leads tail elements (elements.flatMap Element.source ++ tail) := by
  induction elements with
  | nil => exact .nil
  | cons e elements ih =>
    obtain ⟨well, wellRest⟩ := List.forall_mem_cons.mp arranged.wellSpelled
    rw [List.flatMap_cons, List.append_assoc]
    refine .cons well ?_ (ih ⟨wellRest, arranged.apart.tail⟩)
    cases elements with
    | nil => exact .inr boundary
    | cons next others =>
      rw [List.flatMap_cons, List.append_assoc]
      exact (stopsBefore_source_iff (wellRest next (by simp)) _).mpr
        (List.isChain_cons_cons.mp arranged.apart).1

/-- The elements of a whole text are the arranged ones whose spellings it is. -/
theorem leads_nil_iff {elements : List Element} {text : Text} :
    Leads [] elements text ↔ Arranged elements ∧ elements.flatMap Element.source = text := by
  constructor
  · intro leads
    refine ⟨arranged_of_leads leads, ?_⟩
    rw [← leads_whole leads, List.append_nil]
  · rintro ⟨arranged, rfl⟩
    have leads := leads_of_arranged arranged boundary_nil
    rwa [List.append_nil] at leads

/-- The characters of an element, without those around it, are read as the
element. -/
theorem leads_alone {e : Element} (well : WellSpelled e) : Leads [] [e] e.source := by
  have leads := Leads.cons well (.inr boundary_nil) .nil
  rwa [List.append_nil] at leads

/-- The elements that lead a text are found first, and reading goes on with the
tail. -/
theorem reading_of_leads {elements : List Element} {tail text : Text}
    (leads : Leads tail elements text) :
    Reading.of text =
      ⟨elements ++ (Reading.of tail).elements, (Reading.of tail).breakdown⟩ := by
  induction leads with
  | nil => simp
  | @cons e elements after well stops _ ih =>
    obtain ⟨first, rest, spelled, read⟩ := read_spelled well stops
    rw [spelled, reading_of_ok read, ih, List.cons_append]

/-- What reading leaves of a text, which is nothing unless it breaks down. -/
def Leftover (reading : Reading) : Text := reading.breakdown.elim [] Breakdown.tail

/-- The elements found lead the text, and what they leave over is the rest. -/
theorem leads_of_reading (text : Text) :
    Leads (Leftover (Reading.of text)) (Reading.of text).elements text := by
  fun_induction Reading.of text with
  | case1 => exact .nil
  | case2 first rest unread _ => exact .nil
  | case3 first rest e after read further ih =>
    obtain ⟨well, stops, spelled⟩ := read_eq_ok_iff.mp read
    rw [← spelled]
    exact .cons well stops ih

/-- Reading breaks down only at a `%` from which no element can be read. -/
theorem breakdown_percent (text : Text) {b : Breakdown}
    (broken : (Reading.of text).breakdown = some b) :
    ∃ rest, b.tail = '%' :: rest ∧ Element.read '%' rest = .error b.unread := by
  fun_induction Reading.of text with
  | case1 => cases broken
  | case2 first rest unread read =>
    cases broken
    by_cases percent : first = '%'
    · exact ⟨rest, by rw [percent], percent ▸ read⟩
    · simp [Element.read, percent] at read
  | case3 first rest e after read further ih => exact ih broken

theorem parse_of_leads {elements : List Element} {text : Text}
    (leads : Leads [] elements text) :
    Template.parse text = .ok ⟨elements.map Element.node, text⟩ := by
  simp [Template.parse, reading_of_leads leads, reading_nil]

theorem leads_of_parse {text : Text} {template : Template}
    (parsed : Template.parse text = .ok template) :
    Leads [] (Reading.of text).elements text := by
  have leads := leads_of_reading text
  unfold Template.parse at parsed
  cases broken : (Reading.of text).breakdown with
  | none => simpa [Leftover, broken] using leads
  | some b => simp [broken] at parsed

/-- A template has the parts of the elements that its text is read as. -/
theorem template_of_parse {text : Text} {template : Template}
    (parsed : Template.parse text = .ok template) :
    template = ⟨(Reading.of text).elements.map Element.node, text⟩ :=
  Except.ok.inj (parsed.symm.trans (parse_of_leads (leads_of_parse parsed)))

/-- A text is refused exactly where its reading breaks down, with the position
at which the tail begins. -/
theorem parse_error_iff {text : Text} {e : FormatError} : Template.parse text = .error e ↔
    ∃ b, (Reading.of text).breakdown = some b ∧
      e = .malformed text (text.length - b.tail.length) := by
  cases broken : (Reading.of text).breakdown with
  | none => simp [Template.parse, broken]
  | some b => simp [Template.parse, broken, eq_comm]

theorem accepts_iff {text : Text} :
    Template.accepts text = true ↔ ∃ template, Template.parse text = .ok template := by
  cases broken : (Reading.of text).breakdown <;>
    simp [Template.accepts, Template.parse, broken]

end Swatch.TemplateReading
