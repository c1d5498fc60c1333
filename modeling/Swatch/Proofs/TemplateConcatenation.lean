import Swatch.Proofs.TemplatePrinting

/-! A template text in front of any other text does not change how that text is
read: no element reaches across the seam, except that a run before it and a run
behind it are one run. Nothing that is refused becomes a template by what stands
in front of it, and its error is found at the same distance from the seam. -/
namespace Swatch.TemplateConcatenation
open TemplatePrinting TemplateReading

/-- Parts followed by further parts. Where a text without a `%` stands on either
side of the seam, the two become one literal. -/
def joined (nodes others : List Node) : List Node :=
  match nodes.getLast?, others with
  | some (.literal text), .literal more :: rest =>
    if '%' ∈ text ∨ '%' ∈ more then nodes ++ others
    else nodes.dropLast ++ .literal (text ++ more) :: rest
  | _, _ => nodes ++ others

theorem joined_plain (nodes rest : List Node) {text more : Text} (plain : '%' ∉ text)
    (morePlain : '%' ∉ more) :
    joined (nodes ++ [.literal text]) (.literal more :: rest) =
      nodes ++ .literal (text ++ more) :: rest := by
  simp [joined, plain, morePlain]

theorem joined_apart {nodes others : List Node}
    (apart : ∀ node ∈ nodes.getLast?, ∀ next ∈ others.head?, ¬(Plain node ∧ Plain next)) :
    joined nodes others = nodes ++ others := by
  unfold joined
  split
  · rename_i text more rest last
    have seam := apart _ last (.literal more) rfl
    rw [if_pos]
    by_cases percent : '%' ∈ text
    · exact .inl percent
    · exact .inr (Classical.not_not.mp fun plain => seam ⟨percent, plain⟩)
  · rfl

/-- Joining moves no text: the parts contribute what they did on their own. -/
theorem render_joined (s : Sample) (nodes others : List Node) :
    (joined nodes others).flatMap (Node.render · s) =
      nodes.flatMap (Node.render · s) ++ others.flatMap (Node.render · s) := by
  unfold joined
  split
  · rename_i text more rest last
    split
    · rw [List.flatMap_append]
    · have whole : nodes.dropLast ++ [.literal text] = nodes := List.dropLast_append_getLast? _ last
      have front := congrArg (List.flatMap (Node.render · s)) whole
      simp only [List.flatMap_append, List.flatMap_singleton] at front
      rw [← front]
      simp [Node.render]
  · rw [List.flatMap_append]

private theorem run_of_plain {e : Element} (plain : '%' ∉ e.source) : ∃ text, e = .run text := by
  cases e with
  | run text => exact ⟨text, rfl⟩
  | percent => simp [Element.source] at plain
  | expansion pad base channel => simp [Element.source] at plain

/-- Two runs that meet are spelled by one run, which has the same neighbours as
they had. -/
theorem arranged_merged {elements others : List Element} {text more : Text}
    (arranged : Arranged (elements ++ [.run text]))
    (otherArranged : Arranged (.run more :: others)) :
    Arranged (elements ++ .run (text ++ more) :: others) := by
  obtain ⟨nonempty, plain⟩ : WellSpelled (.run text) := arranged.wellSpelled _ (by simp)
  obtain ⟨_, morePlain⟩ : WellSpelled (.run more) := otherArranged.wellSpelled _ (by simp)
  have bothPlain : '%' ∉ text ++ more := by simp [plain, morePlain]
  constructor
  · intro e member
    rcases List.mem_append.mp member with before | behind
    · exact arranged.wellSpelled e (List.mem_append_left _ before)
    · rcases List.mem_cons.mp behind with rfl | behind
      · exact ⟨by simp [nonempty], bothPlain⟩
      · exact otherArranged.wellSpelled e (List.mem_cons_of_mem _ behind)
  · obtain ⟨chain, _, seam⟩ := List.isChain_append.mp arranged.apart
    refine List.isChain_append.mpr ⟨chain, ?_, ?_⟩
    · refine List.isChain_cons.mpr ⟨?_, otherArranged.apart.tail⟩
      intro next leads
      exact .inr (((List.isChain_cons.mp otherArranged.apart).1 next leads).resolve_left morePlain)
    · intro e last next leads
      exact .inl ((seam e last (.run text) (by simp)).resolve_right plain)

/-- The elements of a text in front of other arranged elements, as the elements
of both spellings together. -/
theorem elements_joined {elements others : List Element} (arranged : Arranged elements)
    (otherArranged : Arranged others) :
    ∃ whole, Arranged whole ∧
      whole.flatMap Element.source =
        elements.flatMap Element.source ++ others.flatMap Element.source ∧
      whole.map Element.node = joined (elements.map Element.node) (others.map Element.node) := by
  by_cases apart : ∀ e ∈ elements.getLast?, ∀ next ∈ others.head?,
      '%' ∈ e.source ∨ '%' ∈ next.source
  · refine ⟨elements ++ others, ⟨?_, ?_⟩, List.flatMap_append, ?_⟩
    · intro e member
      exact (List.mem_append.mp member).elim (arranged.wellSpelled e) (otherArranged.wellSpelled e)
    · exact List.isChain_append.mpr ⟨arranged.apart, otherArranged.apart, apart⟩
    · rw [List.map_append, joined_apart]
      intro node last next leads both
      obtain ⟨e, lastElement, rfl⟩ := Option.map_eq_some_iff.mp (List.getLast?_map ▸ last)
      obtain ⟨f, firstElement, rfl⟩ := Option.map_eq_some_iff.mp (List.head?_map ▸ leads)
      exact (apart e lastElement f firstElement).elim (plain_source both.1) (plain_source both.2)
  · push Not at apart
    obtain ⟨e, last, next, leads, plain, morePlain⟩ := apart
    obtain ⟨text, rfl⟩ := run_of_plain plain
    obtain ⟨more, rfl⟩ := run_of_plain morePlain
    obtain ⟨front, rfl⟩ := List.getLast?_eq_some_iff.mp last
    obtain ⟨rest, rfl⟩ := List.head?_eq_some_iff.mp leads
    refine ⟨front ++ .run (text ++ more) :: rest, arranged_merged arranged otherArranged, ?_, ?_⟩
    · simp [Element.source]
    · have merged := joined_plain (front.map Element.node) (rest.map Element.node) plain morePlain
      simpa [Element.node, Element.source] using merged.symm

/-- What a reading leaves over begins with the `%` at which it broke down, if
there is anything. -/
theorem boundary_leftover (text : Text) : Boundary (Leftover (Reading.of text)) := by
  cases broken : (Reading.of text).breakdown with
  | none => simpa [Leftover, broken] using boundary_nil
  | some b =>
    obtain ⟨rest, tail, _⟩ := breakdown_percent text broken
    simpa [Leftover, broken, tail] using boundary_percent rest

/-- Reading a text behind a template finds the elements of both, and breaks down
where it would have broken down without the template. -/
theorem reading_append {elements : List Element} {text : Text} (more : Text)
    (leads : Leads [] elements text) :
    ∃ whole, Reading.of (text ++ more) = ⟨whole, (Reading.of more).breakdown⟩ ∧
      whole.map Element.node =
        joined (elements.map Element.node) ((Reading.of more).elements.map Element.node) := by
  have moreLeads := leads_of_reading more
  obtain ⟨arranged, spelled⟩ := leads_nil_iff.mp leads
  obtain ⟨whole, wholeArranged, wholeSpelled, nodes⟩ :=
    elements_joined arranged (arranged_of_leads moreLeads)
  have wholeLeads := leads_of_arranged wholeArranged (boundary_leftover more)
  rw [wholeSpelled, spelled, List.append_assoc, leads_whole moreLeads] at wholeLeads
  refine ⟨whole, ?_, nodes⟩
  -- Nothing is read from what the second text leaves over.
  have moreRead := reading_of_leads moreLeads
  have nothing : (Reading.of (Leftover (Reading.of more))).elements = [] := by
    simpa using congrArg Reading.elements moreRead
  rw [reading_of_leads wholeLeads, nothing, List.append_nil,
    ← congrArg Reading.breakdown moreRead]

theorem joined_of_parse {text more : Text} {template other : Template}
    (parsed : Template.parse text = .ok template) (moreParsed : Template.parse more = .ok other) :
    ∃ whole, Template.parse (text ++ more) = .ok whole ∧
      whole.nodes = joined template.nodes other.nodes := by
  have leads := leads_of_parse parsed
  rw [parse_of_leads leads] at parsed
  cases parsed
  obtain ⟨whole, read, nodes⟩ := reading_append more leads
  cases broken : (Reading.of more).breakdown with
  | none =>
    rw [Template.parse, broken] at moreParsed
    cases moreParsed
    exact ⟨⟨whole.map Element.node, text ++ more⟩, by simp [Template.parse, read, broken], nodes⟩
  | some b =>
    rw [parse_error_iff.mpr ⟨b, broken, rfl⟩] at moreParsed
    cases moreParsed

theorem refused_of_parse {text more : Text} {template : Template} {e : FormatError}
    (parsed : Template.parse text = .ok template) (failed : Template.parse more = .error e) :
    Template.parse (text ++ more) =
      .error (.malformed (text ++ more) (text.length + e.position)) := by
  obtain ⟨b, broken, rfl⟩ := parse_error_iff.mp failed
  obtain ⟨whole, read, _⟩ := reading_append more (leads_of_parse parsed)
  have inside : b.tail.length ≤ more.length := by
    have split := congrArg List.length (leads_whole (leads_of_reading more))
    simp only [Leftover, broken, Option.elim, List.length_append] at split
    omega
  have wholeFailed := parse_error_iff.mpr ⟨b, by rw [read, broken], rfl⟩
  rw [wholeFailed, FormatError.position, List.length_append, Nat.add_sub_assoc inside]

/-- A text behind a template is a template together with it exactly if it is one
on its own. The parts are then those of both, but for two texts without `%` that
meet and become one literal, and a sample is rendered as by one after the other.
Otherwise the error is found as far behind the first text as it was found
without it. -/
theorem parse_append {text : Text} {template : Template} (more : Text)
    (parsed : Template.parse text = .ok template) :
    ((∃ whole, Template.parse (text ++ more) = .ok whole) ↔
      ∃ other, Template.parse more = .ok other) ∧
    (∀ other, Template.parse more = .ok other →
      ∃ whole, Template.parse (text ++ more) = .ok whole ∧
        whole.nodes = joined template.nodes other.nodes ∧
        ∀ s, whole.render s = template.render s ++ other.render s) ∧
    (∀ e, Template.parse more = .error e →
      Template.parse (text ++ more) =
        .error (.malformed (text ++ more) (text.length + e.position))) := by
  refine ⟨⟨?_, ?_⟩, ?_, fun e => refused_of_parse parsed⟩
  · rintro ⟨whole, wholeParsed⟩
    cases moreParsed : Template.parse more with
    | ok other => exact ⟨other, rfl⟩
    | error e =>
      rw [refused_of_parse parsed moreParsed] at wholeParsed
      cases wholeParsed
  · rintro ⟨other, moreParsed⟩
    obtain ⟨whole, wholeParsed, _⟩ := joined_of_parse parsed moreParsed
    exact ⟨whole, wholeParsed⟩
  · intro other moreParsed
    obtain ⟨whole, wholeParsed, nodes⟩ := joined_of_parse parsed moreParsed
    refine ⟨whole, wholeParsed, nodes, fun s => ?_⟩
    rw [Template.render, nodes]
    exact render_joined s _ _

/-- A run that goes on behind the seam, and the same run in front of an
expansion that ends too early. -/
theorem parse_append_run :
    let text : Text := ['%', '\x7b', 'r', '\x7d', 'a']
    let more : Text := ['b', '%', '\x7b', 'g']
    (∃ whole, Template.parse (text ++ (more ++ ['\x7d'])) = .ok whole ∧
      whole.nodes =
        [.expansion ⟨.red, .decimal, none⟩, .literal ['a', 'b'],
          .expansion ⟨.green, .decimal, none⟩]) ∧
    Template.parse (text ++ more) = .error (.malformed (text ++ more) 6) := by
  intro text more
  have parsed : Template.parse text =
      .ok ⟨[.expansion ⟨.red, .decimal, none⟩, .literal ['a']], text⟩ := by cbv
  have moreParsed : Template.parse (more ++ ['\x7d']) =
      .ok ⟨[.literal ['b'], .expansion ⟨.green, .decimal, none⟩], more ++ ['\x7d']⟩ := by cbv
  have failed : Template.parse more = .error (.malformed more 1) := by cbv
  obtain ⟨whole, wholeParsed, nodes, _⟩ := (parse_append _ parsed).2.1 _ moreParsed
  exact ⟨⟨whole, wholeParsed, nodes⟩, (parse_append _ parsed).2.2 _ failed⟩

end Swatch.TemplateConcatenation
