import Swatch.Proofs.NumeralDigits
import Swatch.Proofs.TemplateReading

/-! Printing the parts of a template and reading them back. The parts that a
text can spell are the normal ones, and each of their sequences has one text in
which no base and no zero is written needlessly. Two texts spell the same parts
exactly if they reduce to the same such text. -/
namespace Swatch.TemplatePrinting
open NumeralDigits TemplateReading

/-- A literal that stands for itself. -/
def Plain : Node → Prop
  | .literal text => '%' ∉ text
  | .expansion _ => False

/-- Parts that a text can spell: a literal is a single `%` or a text without
any, and is not empty, and no two literals of the second kind are neighbours.
The fill and the width of a padding are in range by their type. -/
structure Normal (nodes : List Node) : Prop where
  literals : ∀ text, .literal text ∈ nodes → text = ['%'] ∨ text ≠ [] ∧ '%' ∉ text
  apart : nodes.IsChain fun node next => ¬(Plain node ∧ Plain next)

/-- A base is printed as its letter, which the decimal one does not need. -/
def printBase (base : Base) : Text := if base = .decimal then [] else [base.letter]

/-- The text of a part, with the width of a padding as a decimal numeral. -/
def printNode : Node → Text
  | .literal text => if text = ['%'] then ['%', '%'] else text
  | .expansion e =>
    '%' :: '\x7b' :: ((e.pad.elim [] fun pad => pad.fill :: Base.decimal.numeral pad.width) ++
      printBase e.base ++ [e.channel.letter, '\x7d'])

/-- The text of parts in order. -/
def print (nodes : List Node) : Text := nodes.flatMap printNode

/-- The spelling of an element without an explicit decimal base and without the
leading zeros of a width, of which at least one digit stays. -/
def reducedSource : Element → Text
  | .run text => text
  | .percent => ['%', '%']
  | .expansion pad base channel =>
    '%' :: '\x7b' :: ((pad.elim [] fun pad => pad.fill :: withoutZeros pad.digits) ++
      base.elim [] printBase ++ [channel.letter, '\x7d'])

/-- A text in which the spellings of all elements are reduced. -/
def reduced (text : Text) : Text := (Reading.of text).elements.flatMap reducedSource

private theorem width_spelled {n : Nat} (bound : n ≤ greatestPadWidth) :
    isPadWidth (Base.decimal.numeral n) = true := by
  have small : n < 10 ^ 5 := Nat.lt_of_le_of_lt bound (by decide)
  refine isPadWidth_iff.mpr
    ⟨numeral_ne_nil .decimal n, ?_, fun _ member => numeral_isDecimal member, ?_⟩
  · rw [Base.numeral, List.length_map]
    exact length_digits_le (by decide) (by decide) small
  · rw [decimalValue_numeral]
    exact bound

/-- The spelling of a padding with the shortest numeral for its width. -/
def spelling (pad : Padding) : PadSpelling :=
  ⟨pad.fill, Base.decimal.numeral pad.width, width_spelled pad.width_le⟩

theorem padding_spelling (pad : Padding) : (spelling pad).padding = pad := by
  simp [spelling, PadSpelling.padding, decimalValue_numeral]

/-- The element that is printed for a part. -/
def element : Node → Element
  | .literal text => if text = ['%'] then .percent else .run text
  | .expansion e =>
    .expansion (e.pad.map spelling) (if e.base = .decimal then none else some e.base) e.channel

theorem element_source (node : Node) : (element node).source = printNode node := by
  cases node with
  | literal text =>
    rw [element, printNode]
    split <;> rfl
  | expansion e =>
    obtain ⟨channel, base, pad⟩ := e
    by_cases decimal : base = .decimal <;> cases pad <;>
      simp [element, printNode, printBase, Element.source, PadSpelling.source, spelling, decimal]

theorem element_node (node : Node) : (element node).node = node := by
  cases node with
  | literal text =>
    rw [element]
    split
    · rename_i percent
      rw [percent, Element.node]
    · rfl
  | expansion e =>
    obtain ⟨channel, base, pad⟩ := e
    by_cases decimal : base = .decimal <;> cases pad <;>
      simp [element, Element.node, padding_spelling, decimal]

/-- The printed text of every other part has a `%`. -/
theorem percent_printed {node : Node} (other : ¬Plain node) : '%' ∈ printNode node := by
  cases node with
  | literal text =>
    have percent : '%' ∈ text := Classical.not_not.mp other
    rw [printNode]
    split
    · simp
    · exact percent
  | expansion e => simp [printNode]

/-- Normal parts are printed as elements that can be read one behind the
other. -/
theorem leads_of_normal {nodes : List Node} (normal : Normal nodes) :
    Leads [] (nodes.map element) (print nodes) := by
  refine leads_nil_iff.mpr ⟨⟨?_, ?_⟩, ?_⟩
  · intro e member
    obtain ⟨node, inside, rfl⟩ := List.mem_map.mp member
    cases node with
    | literal text =>
      rw [element]
      split
      · trivial
      · rename_i other
        exact (normal.literals text inside).resolve_left other
    | expansion e => trivial
  · rw [List.isChain_map]
    refine normal.apart.imp fun node next separate => ?_
    rw [element_source, element_source]
    by_cases plain : Plain node
    · exact .inr (percent_printed fun both => separate ⟨plain, both⟩)
    · exact .inl (percent_printed plain)
  · rw [List.flatMap_map, print]
    exact congrArg (nodes.flatMap ·) (funext element_source)

theorem parse_print {nodes : List Node} (normal : Normal nodes) :
    Template.parse (print nodes) = .ok ⟨nodes, print nodes⟩ := by
  have same : (nodes.map element).map Element.node = nodes := by
    rw [List.map_map]
    exact (List.map_congr_left fun node _ => element_node node).trans (List.map_id nodes)
  rw [parse_of_leads (leads_of_normal normal), same]

theorem plain_source {e : Element} (plain : Plain e.node) : '%' ∉ e.source := by
  cases e with
  | run text => exact plain
  | percent => simp [Plain, Element.node] at plain
  | expansion pad base channel => exact plain.elim

theorem normal_of_arranged {elements : List Element} (arranged : Arranged elements) :
    Normal (elements.map Element.node) := by
  constructor
  · intro text member
    obtain ⟨e, inside, spelled⟩ := List.mem_map.mp member
    cases e with
    | run run =>
      cases spelled
      exact .inr (arranged.wellSpelled _ inside)
    | percent =>
      cases spelled
      exact .inl rfl
    | expansion pad base channel => cases spelled
  · rw [List.isChain_map]
    refine arranged.apart.imp fun e next percent both => ?_
    rcases percent with percent | percent
    · exact plain_source both.1 percent
    · exact plain_source both.2 percent

/-- What is printed for the part that an element denotes is its reduced
spelling. -/
theorem printNode_node {e : Element} (well : WellSpelled e) :
    printNode e.node = reducedSource e := by
  cases e with
  | run text =>
    have other : text ≠ ['%'] := by
      rintro rfl
      exact well.2 (by simp)
    simp [Element.node, printNode, reducedSource, other]
  | percent => rfl
  | expansion pad base channel =>
    have widths : ((pad.map PadSpelling.padding).elim [] fun p =>
        p.fill :: Base.decimal.numeral p.width) =
          pad.elim [] fun p => p.fill :: withoutZeros p.digits := by
      cases pad with
      | none => rfl
      | some pad =>
        obtain ⟨nonempty, _, digits, _⟩ := isPadWidth_iff.mp pad.isWidth
        exact congrArg (pad.fill :: ·) (numeral_decimalValue nonempty digits)
    have bases : printBase (base.getD .decimal) = base.elim [] printBase := by
      cases base <;> rfl
    rw [Element.node, printNode, widths, bases, reducedSource]

theorem normal_of_parse {text : Text} {template : Template}
    (parsed : Template.parse text = .ok template) :
    Normal template.nodes ∧ print template.nodes = reduced text := by
  have leads := leads_of_parse parsed
  rw [parse_of_leads leads] at parsed
  cases parsed
  have arranged := arranged_of_leads leads
  refine ⟨normal_of_arranged arranged, ?_⟩
  rw [print, reduced, List.flatMap_map, List.flatMap_def, List.flatMap_def]
  exact congrArg List.flatten
    (List.map_congr_left fun e member => printNode_node (arranged.wellSpelled e member))

/-- Different normal parts are printed differently. -/
theorem print_inj {nodes others : List Node} (normal : Normal nodes) (otherNormal : Normal others)
    (same : print nodes = print others) : nodes = others := by
  have parsed := parse_print normal
  rw [same, parse_print otherNormal] at parsed
  cases parsed
  rfl

/-- Printing normal parts and reading them gives them back. Reading gives normal
parts only. Two templates that were read are alike exactly if their texts differ
in nothing but explicit decimal bases and leading zeros of widths. -/
theorem normal_parts_exact :
    (∀ nodes, Normal nodes → Template.parse (print nodes) = .ok ⟨nodes, print nodes⟩) ∧
    (∀ text template, Template.parse text = .ok template → Normal template.nodes) ∧
    (∀ text other template otherTemplate, Template.parse text = .ok template →
      Template.parse other = .ok otherTemplate →
      (template.alike otherTemplate = true ↔ reduced text = reduced other)) := by
  refine ⟨fun nodes => parse_print, fun text template parsed => (normal_of_parse parsed).1, ?_⟩
  intro text other template otherTemplate parsed otherParsed
  obtain ⟨normal, printed⟩ := normal_of_parse parsed
  obtain ⟨otherNormal, otherPrinted⟩ := normal_of_parse otherParsed
  rw [Template.alike, beq_iff_eq, ← printed, ← otherPrinted]
  exact ⟨congrArg print, print_inj normal otherNormal⟩

/-- A `%` that fills a width in front of a brace that stands for itself, and the
same expansion with needless zeros and a needless base. -/
theorem normal_parts_percent_fill :
    let pad : Padding := ⟨'%', 70, by decide⟩
    let nodes : List Node :=
      [.literal ['%'], .expansion ⟨.red, .decimal, some pad⟩, .literal ['\x7d']]
    Normal nodes ∧ print nodes = "%%%\x7b%70r\x7d\x7d".toList ∧
    Template.parse (print nodes) = .ok ⟨nodes, print nodes⟩ ∧
    reduced "%%%\x7b%00070dr\x7d\x7d".toList = reduced "%%%\x7b%70r\x7d\x7d".toList := by
  intro pad nodes
  have normal : Normal nodes := by
    refine ⟨?_, by simp [nodes, Plain]⟩
    intro text member
    simp only [nodes, List.mem_cons, List.not_mem_nil, Node.literal.injEq, reduceCtorEq,
      or_false, false_or] at member
    rcases member with rfl | rfl
    · exact .inl rfl
    · exact .inr (by decide)
  have short : Template.parse "%%%\x7b%70r\x7d\x7d".toList =
      .ok ⟨nodes, "%%%\x7b%70r\x7d\x7d".toList⟩ := by cbv
  have long : Template.parse "%%%\x7b%00070dr\x7d\x7d".toList =
      .ok ⟨nodes, "%%%\x7b%00070dr\x7d\x7d".toList⟩ := by cbv
  have printed : print nodes = "%%%\x7b%70r\x7d\x7d".toList :=
    (normal_of_parse short).2.trans (by cbv)
  have alike := normal_parts_exact.2.2 _ _ _ _ long short
  exact ⟨normal, printed, normal_parts_exact.1 nodes normal, alike.mp (by simp [Template.alike])⟩

end Swatch.TemplatePrinting
