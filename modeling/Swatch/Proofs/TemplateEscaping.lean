import Swatch.Proofs.TemplateConcatenation

/-! Texts that are to stand in a template for themselves. A text is escaped by
doubling its `%`, whatever stands behind them. The templates that are made in
this way are those without an expansion, and each of them shows the text it was
made from. -/
namespace Swatch.TemplateEscaping
open TemplateConcatenation TemplateReading

variable {text : Text} {nodes others : List Node} {elements : List Element} {template : Template}

/-- A character of a text, as it is written in a template. -/
def escapedChar (c : Char) : Text := if c = '%' then ['%', '%'] else [c]

/-- A text with every `%` doubled. -/
def escaped (text : Text) : Text := text.flatMap escapedChar

/-- Parts of which none shows a channel. -/
def WithoutExpansion (nodes : List Node) : Prop := ∀ e, Node.expansion e ∉ nodes

/-- A template that shows a text and nothing else, on every sample. -/
structure Shows (template : Template) (text : Text) : Prop where
  withoutExpansion : WithoutExpansion template.nodes
  render : ∀ s, template.render s = text

theorem escaped_of_plain (plain : '%' ∉ text) : escaped text = text := by
  have single : ∀ c ∈ text, escapedChar c = [c] := by
    intro c member
    have other : c ≠ '%' := fun percent => plain (percent ▸ member)
    rw [escapedChar, if_neg other]
  rw [escaped, List.flatMap_congr single, List.flatMap_singleton']

theorem literal_of_mem (constant : WithoutExpansion nodes) {node : Node} (member : node ∈ nodes) :
    ∃ text, node = .literal text := by
  cases node with
  | literal text => exact ⟨text, rfl⟩
  | expansion e => exact absurd member (constant e)

/-- One literal may come of two, but no expansion. -/
theorem withoutExpansion_joined (constant : WithoutExpansion nodes)
    (otherConstant : WithoutExpansion others) : WithoutExpansion (joined nodes others) := by
  intro e
  unfold joined
  split
  · rename_i text more rest last
    split
    · simp [constant e, otherConstant e]
    · have front : Node.expansion e ∉ nodes.dropLast :=
        fun member => constant e (List.mem_of_mem_dropLast member)
      have behind : Node.expansion e ∉ rest :=
        fun member => otherConstant e (List.mem_cons_of_mem _ member)
      simp [front, behind]
  · simp [constant e, otherConstant e]

theorem parse_escapedChar (c : Char) :
    ∃ template, Template.parse (escapedChar c) = .ok template ∧ Shows template [c] := by
  rw [escapedChar]
  split
  · rename_i percent
    refine ⟨_, parse_of_leads (leads_alone (e := .percent) trivial), ?_, ?_⟩
    · simp [WithoutExpansion, Element.node]
    · simp [Template.render, Element.node, Node.render, percent]
  · rename_i other
    have well : WellSpelled (.run [c]) := ⟨by simp, by simpa using Ne.symm other⟩
    refine ⟨_, parse_of_leads (leads_alone well), ?_, ?_⟩
    · simp [WithoutExpansion, Element.node]
    · simp [Template.render, Element.node, Node.render]

/-- An escaped text is read character by character, and every doubled `%` is one
again. -/
theorem parse_escaped (text : Text) :
    ∃ template, Template.parse (escaped text) = .ok template ∧ Shows template text := by
  induction text with
  | nil => exact ⟨_, parse_of_leads .nil, by simp [WithoutExpansion], fun _ => rfl⟩
  | cons c text ih =>
    obtain ⟨first, firstParsed, firstShows⟩ := parse_escapedChar c
    obtain ⟨rest, restParsed, restShows⟩ := ih
    obtain ⟨whole, parsed, nodes⟩ := joined_of_parse firstParsed restParsed
    refine ⟨whole, parsed, ?_, fun s => ?_⟩
    · rw [nodes]
      exact withoutExpansion_joined firstShows.withoutExpansion restShows.withoutExpansion
    · have both := render_joined s first.nodes rest.nodes
      rw [← nodes] at both
      exact both.trans (congrArg₂ _ (firstShows.render s) (restShows.render s))

/-- An element that shows no channel is the text that it shows, escaped. -/
theorem escaped_node {e : Element} (well : WellSpelled e) (constant : ∀ x, e.node ≠ .expansion x)
    (s : Sample) : escaped (e.node.render s) = e.source := by
  cases e with
  | run text => exact escaped_of_plain well.2
  | percent => rfl
  | expansion pad base channel => exact absurd rfl (constant _)

/-- Nothing that is shown without an expansion depends on the sample. -/
theorem render_constant (constant : WithoutExpansion template.nodes) (s other : Sample) :
    template.render s = template.render other := by
  refine List.flatMap_congr fun node member => ?_
  obtain ⟨text, rfl⟩ := literal_of_mem constant member
  rfl

/-- A template without an expansion is the escaped form of what it shows. -/
theorem escaped_render (parsed : Template.parse text = .ok template)
    (constant : WithoutExpansion template.nodes) (s : Sample) :
    escaped (template.render s) = text := by
  obtain ⟨arranged, whole⟩ := leads_nil_iff.mp (leads_of_parse parsed)
  obtain rfl := template_of_parse parsed
  have parts : ∀ e ∈ (Reading.of text).elements, escaped (e.node.render s) = e.source := by
    intro e member
    refine escaped_node (arranged.wellSpelled e member) (fun x same => ?_) s
    exact constant x (List.mem_map.mpr ⟨e, member, same⟩)
  calc escaped (((Reading.of text).elements.map Element.node).flatMap (Node.render · s))
      = (Reading.of text).elements.flatMap fun e => escaped (e.node.render s) := by
        rw [escaped, List.flatMap_assoc, List.flatMap_map]
        rfl
    _ = (Reading.of text).elements.flatMap Element.source := List.flatMap_congr parts
    _ = text := whole

/-- A text with every `%` doubled is a template that has no expansion and shows
the text. There are no other templates without an expansion: each shows one text
on all samples, and is that text with every `%` doubled. -/
theorem escaping_exact :
    (∀ text, ∃ template, Template.parse (escaped text) = .ok template ∧
      WithoutExpansion template.nodes ∧ ∀ s, template.render s = text) ∧
    (∀ text template, Template.parse text = .ok template → WithoutExpansion template.nodes →
      ∃ shown, (∀ s, template.render s = shown) ∧ escaped shown = text) := by
  constructor
  · intro text
    obtain ⟨template, parsed, constant, shows⟩ := parse_escaped text
    exact ⟨template, parsed, constant, shows⟩
  · intro text template parsed constant
    exact ⟨template.render .black, fun s => render_constant constant s .black,
      escaped_render parsed constant .black⟩

/-- Two doubled `%` in front of what would be an expansion behind a single one. -/
def pairs : Text := "%%%%\x7b02hr\x7d".toList

theorem escaping_exact_pairs :
    let template : Template :=
      ⟨[.literal ['%'], .literal ['%'], .literal "\x7b02hr\x7d".toList], pairs⟩
    Template.parse pairs = .ok template ∧ WithoutExpansion template.nodes ∧
    (∀ s, template.render s = "%%\x7b02hr\x7d".toList) ∧
    escaped "%%\x7b02hr\x7d".toList = pairs := by
  intro template
  have parsed : Template.parse pairs = .ok template := by cbv
  have constant : WithoutExpansion template.nodes := by simp [WithoutExpansion, template]
  obtain ⟨shown, render, same⟩ := escaping_exact.2 pairs template parsed constant
  have rendered : template.render .black = "%%\x7b02hr\x7d".toList := rfl
  obtain rfl := rendered.symm.trans (render .black)
  exact ⟨parsed, constant, render, same⟩

end Swatch.TemplateEscaping
