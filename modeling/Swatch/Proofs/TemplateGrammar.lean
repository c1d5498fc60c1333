import Swatch.Proofs.CursorReading

/-! The grammar of template texts, stated on their characters without the
reader. A text has at most one decomposition into runs, doubled `%` and
expansions. The reader accepts exactly the texts that have one, and finds it. -/
namespace Swatch.TemplateGrammar
open CursorReading NumeralDigits TemplateReading

/-- The number that a text of decimal digits denotes. -/
def number (digits : Text) : Nat := digits.foldl (fun n c => n * 10 + (c.toNat - '0'.toNat)) 0

/-- The spellings of an optional padding: nothing at all, or any character as
the fill and one to five digits for the width. The bound on the width is a part
of every padding. -/
inductive SpellsPadding : Text → Option Padding → Prop where
  | absent : SpellsPadding [] none
  | given {digits : Text} (padding : Padding) :
      1 ≤ digits.length → digits.length ≤ 5 → (∀ c ∈ digits, '0' ≤ c ∧ c ≤ '9') →
      number digits = padding.width → SpellsPadding (padding.fill :: digits) (some padding)

/-- The spellings of a base: its letter, or nothing for the decimal one. -/
inductive SpellsBase : Text → Base → Prop where
  | absent : SpellsBase [] .decimal
  | given (base : Base) : SpellsBase [base.letter] base

/-- The texts of the three kinds of elements with the nodes that they denote. -/
inductive Spells : Text → Node → Prop where
  | run {text : Text} : text ≠ [] → '%' ∉ text → Spells text (.literal text)
  | percent : Spells ['%', '%'] (.literal ['%'])
  | expansion {pad baseText : Text} {padding : Option Padding} {base : Base} (channel : Channel) :
      SpellsPadding pad padding → SpellsBase baseText base →
      Spells ('%' :: '\x7b' :: (pad ++ baseText ++ [channel.letter, '\x7d']))
        (.expansion ⟨channel, base, padding⟩)

/-- A division of a text into elements with their nodes. Of two neighbours one
has a `%`, so that every run is as long as it can be. -/
structure Decomposes (text : Text) (pieces : List (Text × Node)) : Prop where
  whole : pieces.flatMap Prod.fst = text
  spelled : ∀ piece ∈ pieces, Spells piece.1 piece.2
  maximal : pieces.IsChain fun left right => '%' ∈ left.1 ∨ '%' ∈ right.1

theorem decimalValue_eq_number {digits : Text} (valid : ∀ c ∈ digits, '0' ≤ c ∧ c ≤ '9') :
    Numeral.decimalValue digits = number digits := by
  have values : digits.map (fun c => (Numeral.digit? 10 c).getD 0) =
      digits.map (fun c => c.toNat - '0'.toNat) :=
    List.map_congr_left fun c member => by
      obtain ⟨d, read⟩ := Option.isSome_iff_exists.mp (isDecimal_iff.mpr (valid c member))
      simp [read, (digit?_decimal_iff.mp read).2]
  rw [Numeral.decimalValue, values, Numeral.ofDigits, List.foldl_map, number]

theorem spells_padding (pad : Option PadSpelling) :
    SpellsPadding (pad.elim [] PadSpelling.source) (pad.map PadSpelling.padding) := by
  cases pad with
  | none => exact .absent
  | some pad =>
    obtain ⟨nonempty, short, digits, _⟩ := isPadWidth_iff.mp pad.isWidth
    have valid := fun c member => isDecimal_iff.mp (digits c member)
    exact .given pad.padding (List.length_pos_iff.mpr nonempty) short valid
      (decimalValue_eq_number valid).symm

private theorem padding_spelled {text : Text} {padding : Option Padding}
    (spells : SpellsPadding text padding) :
    ∃ pad : Option PadSpelling,
      pad.elim [] PadSpelling.source = text ∧ pad.map PadSpelling.padding = padding := by
  cases spells with
  | absent => exact ⟨none, rfl, rfl⟩
  | @given digits padding nonempty short valid value =>
    have same : Numeral.decimalValue digits = padding.width :=
      (decimalValue_eq_number valid).trans value
    have width : isPadWidth digits = true := isPadWidth_iff.mpr
      ⟨List.length_pos_iff.mp nonempty, short, fun c member => isDecimal_iff.mpr (valid c member),
        same ▸ padding.width_le⟩
    refine ⟨some ⟨padding.fill, digits, width⟩, rfl, ?_⟩
    cases padding
    simpa [PadSpelling.padding] using same

theorem spells_base (base : Option Base) :
    SpellsBase (base.elim [] fun b => [b.letter]) (base.getD .decimal) := by
  cases base with
  | none => exact .absent
  | some base => exact .given base

private theorem base_spelled {text : Text} {base : Base} (spells : SpellsBase text base) :
    ∃ option : Option Base,
      (option.elim [] fun b => [b.letter]) = text ∧ option.getD .decimal = base := by
  cases spells with
  | absent => exact ⟨none, rfl, rfl⟩
  | given => exact ⟨some base, rfl, rfl⟩

/-- What the reader calls an element is spelled as the grammar says, and denotes
the node of the grammar. -/
theorem spells_element {e : Element} (well : WellSpelled e) : Spells e.source e.node := by
  cases e with
  | run text => exact .run well.1 well.2
  | percent => exact .percent
  | expansion pad base channel =>
    exact .expansion channel (spells_padding pad) (spells_base base)

/-- Every text of the grammar is the spelling of an element for the reader. -/
theorem element_spelled {text : Text} {node : Node} (spells : Spells text node) :
    ∃ e : Element, WellSpelled e ∧ e.source = text ∧ e.node = node := by
  cases spells with
  | run nonempty plain => exact ⟨.run text, ⟨nonempty, plain⟩, rfl, rfl⟩
  | percent => exact ⟨.percent, trivial, rfl, rfl⟩
  | expansion channel padSpells baseSpells =>
    obtain ⟨pad, rfl, rfl⟩ := padding_spelled padSpells
    obtain ⟨base, rfl, rfl⟩ := base_spelled baseSpells
    exact ⟨.expansion pad base channel, trivial, rfl, rfl⟩

/-- An element as the grammar sees it. -/
def piece (e : Element) : Text × Node := (e.source, e.node)

theorem decomposes_of_leads {elements : List Element} {text : Text}
    (leads : Leads [] elements text) : Decomposes text (elements.map piece) := by
  obtain ⟨arranged, whole⟩ := leads_nil_iff.mp leads
  refine ⟨by simpa [List.flatMap_map, piece] using whole, ?_, ?_⟩
  · intro found member
    obtain ⟨e, inside, rfl⟩ := List.mem_map.mp member
    exact spells_element (arranged.wellSpelled e inside)
  · exact (List.isChain_map piece).mpr arranged.apart

private theorem elements_of_pieces {pieces : List (Text × Node)}
    (spelled : ∀ found ∈ pieces, Spells found.1 found.2) :
    ∃ elements : List Element, (∀ e ∈ elements, WellSpelled e) ∧ elements.map piece = pieces := by
  induction pieces with
  | nil => exact ⟨[], by simp, rfl⟩
  | cons first pieces ih =>
    obtain ⟨firstSpelled, restSpelled⟩ := List.forall_mem_cons.mp spelled
    obtain ⟨e, well, source, node⟩ := element_spelled firstSpelled
    obtain ⟨elements, wellRest, same⟩ := ih restSpelled
    exact ⟨e :: elements, List.forall_mem_cons.mpr ⟨well, wellRest⟩,
      by rw [List.map_cons, same, piece, source, node]⟩

theorem leads_of_decomposes {pieces : List (Text × Node)} {text : Text}
    (decomposes : Decomposes text pieces) :
    ∃ elements, Leads [] elements text ∧ elements.map piece = pieces := by
  obtain ⟨elements, well, rfl⟩ := elements_of_pieces decomposes.spelled
  have apart := (List.isChain_map piece).mp decomposes.maximal
  have whole := decomposes.whole
  rw [List.flatMap_map] at whole
  exact ⟨elements, leads_nil_iff.mpr ⟨⟨well, apart⟩, whole⟩, rfl⟩

/-- A text that the grammar decomposes is read as the nodes of its pieces. -/
theorem parse_of_decomposes {pieces : List (Text × Node)} {text : Text}
    (decomposes : Decomposes text pieces) :
    Template.parse text = .ok ⟨pieces.map Prod.snd, text⟩ := by
  obtain ⟨elements, leads, rfl⟩ := leads_of_decomposes decomposes
  rw [parse_of_leads leads, List.map_map]
  rfl

/-- The parts of a template are the nodes of a decomposition of its text. -/
theorem decomposes_of_parse {text : Text} {template : Template}
    (parsed : Template.parse text = .ok template) :
    ∃ pieces, Decomposes text pieces ∧ template = ⟨pieces.map Prod.snd, text⟩ := by
  refine ⟨_, decomposes_of_leads (leads_of_parse parsed), ?_⟩
  rw [template_of_parse parsed, List.map_map]
  rfl

/-- A text has at most one decomposition. -/
theorem pieces_unique {text : Text} {pieces others : List (Text × Node)}
    (first : Decomposes text pieces) (second : Decomposes text others) : others = pieces := by
  obtain ⟨elements, leads, rfl⟩ := leads_of_decomposes first
  obtain ⟨otherElements, otherLeads, rfl⟩ := leads_of_decomposes second
  have found := reading_of_leads leads
  rw [reading_of_leads otherLeads] at found
  simp only [reading_nil, List.append_nil, Reading.mk.injEq, and_true] at found
  rw [found]

/-- The reader accepts exactly the texts that the grammar decomposes. There is
then one decomposition, whose nodes are those of the template. Every other text
is refused as malformed, and with all of its characters. A cursor that goes
through the text comes to the same. No index that it asks for is refused, no
number and no padding, and what selects no channel makes the text malformed. -/
theorem parse_exact (text : Text) :
    ((∃ template, Template.parse text = .ok template) ↔ ∃ pieces, Decomposes text pieces) ∧
    (∀ pieces, Decomposes text pieces →
      Template.parse text = .ok ⟨pieces.map Prod.snd, text⟩ ∧
        ∀ others, Decomposes text others → others = pieces) ∧
    (∀ e, Template.parse text = .error e → ∃ position, e = .malformed text position) ∧
    ∃ last, CursorReading.parse (fresh text) = .ok (Template.parse text, last) := by
  refine ⟨⟨?_, ?_⟩, ?_, ?_, (fresh text).parse.2, ?_⟩
  · rintro ⟨template, parsed⟩
    obtain ⟨pieces, decomposes, _⟩ := decomposes_of_parse parsed
    exact ⟨pieces, decomposes⟩
  · rintro ⟨pieces, decomposes⟩
    exact ⟨_, parse_of_decomposes decomposes⟩
  · intro pieces decomposes
    exact ⟨parse_of_decomposes decomposes, fun others second => pieces_unique decomposes second⟩
  · intro e failed
    obtain ⟨b, _, rfl⟩ := parse_error_iff.mp failed
    exact ⟨_, rfl⟩
  · rw [parse_eq (Nat.zero_le _), ← parse_fresh]

/-- A doubled `%` in front of an expansion that is filled with `%` and has zeros
in front of its width, and a brace that stands for itself. -/
theorem parse_percent_fill :
    let text := "%%%\x7b%00007Hg\x7d\x7d".toList
    let padding : Padding := ⟨'%', 7, by decide⟩
    let pieces : List (Text × Node) :=
      [("%%".toList, .literal ['%']),
        ("%\x7b%00007Hg\x7d".toList, .expansion ⟨.green, .upperHex, some padding⟩),
        ("\x7d".toList, .literal ['\x7d'])]
    Decomposes text pieces ∧ Template.parse text = .ok ⟨pieces.map Prod.snd, text⟩ := by
  intro text padding pieces
  have width : SpellsPadding ['%', '0', '0', '0', '0', '7'] (some padding) :=
    .given padding (by decide) (by decide) (by simp) rfl
  have decomposes : Decomposes text pieces := by
    refine ⟨rfl, ?_, by simp [pieces]⟩
    intro piece member
    simp only [pieces, List.mem_cons, List.not_mem_nil, or_false] at member
    rcases member with rfl | rfl | rfl
    · exact .percent
    · exact .expansion .green width (.given .upperHex)
    · exact .run (by decide) (by decide)
  exact ⟨decomposes, ((parse_exact text).2.1 pieces decomposes).1⟩

end Swatch.TemplateGrammar
