import Swatch.Formatter
import Swatch.Proofs.RenderedLength
import Swatch.Proofs.TemplateGrammar

/-! What a rendering depends on. No formatter sees the transparency of a sample, and
a template sees just the channels that its expansions name. In a text these are named
by the letters before the closing braces: the same letters as fills, or in texts that
stand for themselves, have no part in it. -/
namespace Swatch.ChannelInfluence
open NumeralDigits RenderedLength TemplateGrammar TemplateReading

variable {text : Text} {template : Template} {channel : Channel} {s t : Sample} {place : Nat}
  {piece : Text × Node} {front behind : List (Text × Node)}

/-- An expansion of the template shows the channel. -/
def Names (template : Template) (channel : Channel) : Prop :=
  ∃ e, Node.expansion e ∈ template.nodes ∧ e.channel = channel

/-- Samples that differ in nothing but one channel. -/
structure SameBut (channel : Channel) (s t : Sample) : Prop where
  alpha : s.alpha = t.alpha
  others : ∀ c, c ≠ channel → s.channel c = t.channel c

/-- Some samples that differ in nothing but the channel are told apart. -/
def Influences (template : Template) (channel : Channel) : Prop :=
  ∃ s t, SameBut channel s t ∧ template.render s ≠ template.render t

/-- Where a piece of a decomposition begins that stands behind others. -/
def offset (front : List (Text × Node)) : Nat := (front.flatMap Prod.fst).length

/-- The places of a text at which the letter of a channel stands before the closing
brace of an expansion. -/
inductive NamedAt (text : Text) : Nat → Channel → Prop where
  | letter {front behind : List (Text × Node)} {body : Text} {e : Expansion} :
      Decomposes text (front ++
        ('%' :: '\x7b' :: (body ++ [e.channel.letter, '\x7d']), .expansion e) :: behind) →
      NamedAt text (offset front + (body.length + 2)) e.channel

/-- The sample without transparency all of whose other channels are zero. -/
def only : Channel → UInt8 → Sample
  | .red, byte => .solid byte 0 0
  | .green, byte => .solid 0 byte 0
  | .blue, byte => .solid 0 0 byte

@[simp] theorem only_channel (channel : Channel) (byte : UInt8) :
    (only channel byte).channel channel = byte := by
  cases channel <;> rfl

theorem only_other {c : Channel} (other : c ≠ channel) (byte : UInt8) :
    (only channel byte).channel c = 0 := by
  cases channel <;> cases c <;> first | rfl | exact absurd rfl other

theorem sameBut_only (channel : Channel) (first second : UInt8) :
    SameBut channel (only channel first) (only channel second) := by
  refine ⟨by cases channel <;> rfl, fun c other => ?_⟩
  rw [only_other other, only_other other]

theorem render_congr (agree : ∀ c, Names template c → s.channel c = t.channel c) :
    template.render s = template.render t := by
  refine List.flatMap_congr fun node member => ?_
  cases node with
  | literal => rfl
  | expansion e =>
    have same := agree e.channel ⟨e, member, rfl⟩
    rw [Node.render, Node.render, Expansion.render, Expansion.render, same]

/-- Which of its forms a preset takes is decided without the transparency, too. -/
theorem renderPreset_congr (preset : Preset) (red : s.red = t.red) (green : s.green = t.green)
    (blue : s.blue = t.blue) : preset.render s = preset.render t := by
  have compactable : s.isCompactable = t.isCompactable := by
    rw [Sample.isCompactable, Sample.isCompactable, red, green, blue]
  simp only [Preset.render, Preset.hexText, Preset.decimalChannels, compactable, red, green, blue]

theorem renderFormatter_congr (formatter : Formatter) (red : s.red = t.red)
    (green : s.green = t.green) (blue : s.blue = t.blue) :
    formatter.render s = formatter.render t := by
  cases formatter with
  | template template =>
    refine render_congr fun c _ => ?_
    cases c with
    | red => exact red
    | green => exact green
    | blue => exact blue
  | preset preset => exact renderPreset_congr preset red green blue

/-- Padding tells texts of one length apart. -/
theorem padded_inj {first second : Text} {pad : Option Padding}
    (lengths : first.length = second.length) (same : first.padded pad = second.padded pad) :
    first = second := by
  cases pad with
  | none => exact same
  | some pad => exact (List.append_inj' same lengths).2

/-- Parts of the same lengths in a row that are the same text are the same texts. -/
theorem forall_eq_of_flatMap_eq {nodes : List Node}
    (lengths : ∀ node : Node, (node.render s).length = (node.render t).length)
    (same : nodes.flatMap (Node.render · s) = nodes.flatMap (Node.render · t)) :
    ∀ node ∈ nodes, node.render s = node.render t := by
  induction nodes with
  | nil => exact nofun
  | cons node nodes ih =>
    obtain ⟨first, rest⟩ := List.append_inj same (lengths node)
    exact List.forall_mem_cons.mpr ⟨first, ih rest⟩

/-- The numbers that a channel is changed between have one digit. -/
theorem digitCount_only (base : Base) (channel c : Channel) :
    digitCount base ((only channel 1).channel c).toNat =
      digitCount base ((only channel 0).channel c).toNat := by
  by_cases same : c = channel
  · have one : Nat.log base.radix 1 = 0 := Nat.log_one_right _
    rw [same, only_channel, only_channel]
    simp [digitCount, one]
  · rw [only_other same, only_other same]

theorem influences_of_names (names : Names template channel) : Influences template channel := by
  refine ⟨only channel 1, only channel 0, sameBut_only channel 1 0, fun same => ?_⟩
  obtain ⟨e, member, rfl⟩ := names
  have lengths : ∀ node : Node,
      (node.render (only e.channel 1)).length = (node.render (only e.channel 0)).length := by
    intro node
    rw [length_renderNode, length_renderNode]
    cases node with
    | literal => rfl
    | expansion other => rw [nodeLength, nodeLength, digitCount_only]
  have shown := forall_eq_of_flatMap_eq lengths same _ member
  have counts := digitCount_only e.base e.channel e.channel
  simp only [Node.render, Expansion.render, only_channel] at shown counts
  have numerals := padded_inj (by rw [length_numeral, length_numeral, counts]) shown
  exact absurd (numeral_inj numerals) (by decide)

theorem influences_iff : Influences template channel ↔ Names template channel := by
  refine ⟨fun influences => ?_, influences_of_names⟩
  obtain ⟨s, t, same, differ⟩ := influences
  by_contra unnamed
  exact differ (render_congr fun c names => same.others c fun other => unnamed (other ▸ names))

theorem offset_split (front behind : List (Text × Node)) (piece : Text × Node) :
    offset (front ++ piece :: behind) = offset front + piece.1.length + offset behind := by
  simp [offset, Nat.add_assoc]

theorem body_of_spells {spelled : Text} {e : Expansion} (spells : Spells spelled (.expansion e)) :
    ∃ body, spelled = '%' :: '\x7b' :: (body ++ [e.channel.letter, '\x7d']) := by
  cases spells with
  | expansion channel padding base => exact ⟨_, rfl⟩

/-- The place of a named channel holds its letter, with a brace behind it. -/
theorem letter_of_namedAt (named : NamedAt text place channel) :
    text[place]? = some channel.letter ∧ text[place + 1]? = some '\x7d' := by
  cases named with
  | @letter front behind body e decomposes =>
    have lead : (front.flatMap Prod.fst ++ '%' :: '\x7b' :: body).length =
        offset front + (body.length + 2) := by
      simp [offset]
    have whole : text = (front.flatMap Prod.fst ++ '%' :: '\x7b' :: body) ++
        e.channel.letter :: '\x7d' :: behind.flatMap Prod.fst := by
      rw [← decomposes.whole]
      simp
    rw [whole, ← lead]
    constructor
    · rw [List.getElem?_append_right le_rfl, Nat.sub_self, List.getElem?_cons_zero]
    · rw [List.getElem?_append_right (Nat.le_add_right _ 1), Nat.add_sub_cancel_left,
        List.getElem?_cons_succ, List.getElem?_cons_zero]

/-- Two splits of a row of pieces in which one place is inside of the piece at the
split are the same. -/
theorem split_unique {otherFront otherBehind : List (Text × Node)} {other : Text × Node}
    (same : otherFront ++ other :: otherBehind = front ++ piece :: behind)
    (start : offset front ≤ place) (stop : place < offset front + piece.1.length)
    (otherStart : offset otherFront ≤ place)
    (otherStop : place < offset otherFront + other.1.length) :
    otherFront = front ∧ other = piece := by
  rcases List.append_eq_append_iff.mp same with ⟨between, rfl, rest⟩ | ⟨between, rfl, rest⟩
  · cases between with
    | nil => simp_all
    | cons first between =>
      obtain ⟨rfl, _⟩ := List.cons_eq_cons.mp rest
      rw [offset_split] at start
      omega
  · cases between with
    | nil => simp_all
    | cons first between =>
      obtain ⟨rfl, _⟩ := List.cons_eq_cons.mp rest
      rw [offset_split] at otherStart
      omega

/-- Within a piece of a text, the one named place is that before the closing brace,
if the piece is an expansion at all. -/
theorem namedAt_piece_iff (decomposes : Decomposes text (front ++ piece :: behind))
    (start : offset front ≤ place) (stop : place < offset front + piece.1.length) :
    NamedAt text place channel ↔ ∃ e, piece.2 = .expansion e ∧ e.channel = channel ∧
      place + 2 = offset front + piece.1.length := by
  constructor
  · intro named
    cases named with
    | @letter otherFront otherBehind body e otherDecomposes =>
      obtain ⟨rfl, rfl⟩ := split_unique (pieces_unique decomposes otherDecomposes) start stop
        (Nat.le_add_right _ _) (by simp)
      exact ⟨e, rfl, rfl, by simp; omega⟩
  · obtain ⟨spelled, node⟩ := piece
    rintro ⟨e, rfl, rfl, last⟩
    have spells := decomposes.spelled (spelled, .expansion e) (by simp)
    obtain ⟨body, rfl⟩ := body_of_spells spells
    have before : place = offset front + (body.length + 2) := by
      simp at last
      omega
    exact before ▸ .letter decomposes

theorem names_iff_namedAt (parsed : Template.parse text = .ok template) :
    Names template channel ↔ ∃ place, NamedAt text place channel := by
  constructor
  · rintro ⟨e, member, rfl⟩
    obtain ⟨pieces, decomposes, rfl⟩ := decomposes_of_parse parsed
    obtain ⟨⟨spelled, node⟩, inside, rfl⟩ := List.mem_map.mp member
    obtain ⟨body, rfl⟩ := body_of_spells (decomposes.spelled _ inside)
    obtain ⟨front, behind, rfl⟩ := List.append_of_mem inside
    exact ⟨_, .letter decomposes⟩
  · rintro ⟨place, named⟩
    cases named with
    | @letter front behind body e decomposes =>
      have same := Except.ok.inj (parsed.symm.trans (parse_of_decomposes decomposes))
      exact ⟨e, by simp [same], rfl⟩

/-- No rendering depends on the transparency of the sample. That of a template depends
exactly on the channels that its expansions name. For the template of a text, these
are the ones whose letters stand before the closing brace of an expansion: there is
one such place in each expansion, and none in a text that stands for itself. -/
theorem only_named_channels_influence :
    (∀ (formatter : Formatter) (s t : Sample), s.red = t.red → s.green = t.green →
      s.blue = t.blue → formatter.render s = formatter.render t) ∧
    (∀ (template : Template) (s t : Sample),
      (∀ c, Names template c → s.channel c = t.channel c) →
        template.render s = template.render t) ∧
    (∀ template c, Influences template c ↔ Names template c) ∧
    (∀ text template, Template.parse text = .ok template →
      (∀ s t : Sample, (∀ place c, NamedAt text place c → s.channel c = t.channel c) →
        template.render s = template.render t) ∧
      ∀ c, Influences template c ↔ ∃ place, NamedAt text place c) ∧
    (∀ text place c, NamedAt text place c →
      text[place]? = some c.letter ∧ text[place + 1]? = some '\x7d') ∧
    ∀ text front piece behind, Decomposes text (front ++ piece :: behind) →
      ∀ place c, offset front ≤ place → place < offset front + piece.1.length →
        (NamedAt text place c ↔ ∃ e, piece.2 = .expansion e ∧ e.channel = c ∧
          place + 2 = offset front + piece.1.length) := by
  refine ⟨fun formatter s t => renderFormatter_congr formatter, fun template s t => render_congr,
    fun template c => influences_iff, fun text template parsed => ⟨fun s t agree => ?_, fun c => ?_⟩,
    fun text place c => letter_of_namedAt,
    fun text front piece behind decomposes place c => namedAt_piece_iff decomposes⟩
  · refine render_congr fun c names => ?_
    obtain ⟨place, named⟩ := (names_iff_namedAt parsed).mp names
    exact agree place c named
  · rw [influences_iff, names_iff_namedAt parsed]

/-- The letters of all channels in texts that stand for themselves, two of them as
fills, and the third one named twice. -/
def letteredText : Text := "rgb%\x7br4g\x7db%\x7bb3Hg\x7d".toList

def letteredTemplate : Template where
  nodes := [.literal "rgb".toList, .expansion ⟨.green, .decimal, some ⟨'r', 4, by decide⟩⟩,
    .literal "b".toList, .expansion ⟨.green, .upperHex, some ⟨'b', 3, by decide⟩⟩]
  source := letteredText

theorem only_named_channels_influence_letteredText :
    Template.parse letteredText = .ok letteredTemplate ∧
    letteredTemplate.render ⟨0, 1, 2, 3⟩ = "rgbrrr2bbb2".toList ∧
    letteredTemplate.render ⟨9, 8, 2, 7⟩ = "rgbrrr2bbb2".toList ∧
    (∀ c, Influences letteredTemplate c ↔ c = .green) ∧
    (∃ place, NamedAt letteredText place .green) ∧ ¬NamedAt letteredText 5 .red ∧
    (Formatter.preset ⟨.lowerHex, .compact⟩).render ⟨0, 0x11, 0x22, 0x33⟩ =
      (Formatter.preset ⟨.lowerHex, .compact⟩).render ⟨0x12, 0x11, 0x22, 0x33⟩ := by
  obtain ⟨formatters, templates, influence, texts, letters, _⟩ := only_named_channels_influence
  have parsed : Template.parse letteredText = .ok letteredTemplate := by cbv
  have shown : letteredTemplate.render ⟨0, 1, 2, 3⟩ = "rgbrrr2bbb2".toList := by decide +kernel
  have green : ∀ c, Names letteredTemplate c ↔ c = .green := by
    simp [Names, letteredTemplate, eq_comm]
  have agree : ∀ c, Names letteredTemplate c →
      Sample.channel ⟨9, 8, 2, 7⟩ c = Sample.channel ⟨0, 1, 2, 3⟩ c := by
    intro c names
    rw [(green c).mp names]
    rfl
  have greenInfluences := (influence _ _).mpr ((green .green).mpr rfl)
  refine ⟨parsed, shown, (templates _ _ _ agree).trans shown,
    fun c => (influence _ _).trans (green c), ((texts _ _ parsed).2 _).mp greenInfluences,
    fun fill => ?_, formatters _ _ _ rfl rfl rfl⟩
  exact absurd (letters _ _ _ fill).2 (by decide)

end Swatch.ChannelInfluence
