import Swatch.Proofs.NumeralDigits
import Swatch.Proofs.TemplateReading

/-! The length of what a template shows. Padding never cuts a numeral, so an
expansion takes its width or the digits of its channel, whichever is more. A
great width has to be spelled with many digits, and so no text can ask for more
than a fixed multiple of its own length. -/
namespace Swatch.RenderedLength
open NumeralDigits TemplateReading

variable {text : Text} {elements : List Element} {template : Template} {base : Base} {n k : Nat}

/-- The number of digits of a number, which is one for each power of the radix
that it reaches, and one more. -/
def digitCount (base : Base) (n : Nat) : Nat := Nat.log base.radix n + 1

/-- The width that is asked for, which is nothing without a padding. -/
def widthOf (pad : Option Padding) : Nat := pad.elim 0 Padding.width

/-- The number of characters that a part shows of a sample. -/
def nodeLength (s : Sample) : Node → Nat
  | .literal text => text.length
  | .expansion e => max (widthOf e.pad) (digitCount e.base (s.channel e.channel).toNat)

/-- A number has the least number of digits with which it can be written. -/
theorem digitCount_le_iff (room : k ≠ 0) : digitCount base n ≤ k ↔ n < base.radix ^ k :=
  ⟨Nat.lt_pow_of_log_lt base.two_le_radix, Nat.log_lt_of_lt_pow' room⟩

theorem length_numeral (base : Base) (n : Nat) : (base.numeral n).length = digitCount base n := by
  rw [Base.numeral, List.length_map, digitCount]
  cases n with
  | zero => rw [digits_zero, Nat.log_zero_right, List.length_singleton]
  | succ n =>
    rw [digits_eq_reverse base.two_le_radix n.succ_ne_zero, List.length_reverse,
      Nat.length_digits _ _ base.two_le_radix n.succ_ne_zero]

theorem length_padded (text : Text) (pad : Option Padding) :
    (text.padded pad).length = max (widthOf pad) text.length := by
  cases pad with
  | none => exact (Nat.zero_max _).symm
  | some pad => exact List.length_leftpad

theorem length_renderNode (s : Sample) (node : Node) :
    (node.render s).length = nodeLength s node := by
  cases node with
  | literal text => rfl
  | expansion e => rw [Node.render, Expansion.render, length_padded, length_numeral, nodeLength]

theorem length_render (template : Template) (s : Sample) :
    (template.render s).length = (template.nodes.map (nodeLength s)).sum := by
  rw [Template.render, List.length_flatMap]
  exact congrArg List.sum (List.map_congr_left fun node _ => length_renderNode s node)

/-- A byte has no more digits than bits. -/
theorem digitCount_byte (base : Base) (byte : UInt8) : digitCount base byte.toNat ≤ 8 := by
  have bits : 2 ^ 8 ≤ base.radix ^ 8 := Nat.pow_le_pow_left base.two_le_radix 8
  exact (digitCount_le_iff (by decide)).mpr (byte.toNat_lt.trans_le bits)

/-- Only a width of five digits goes beyond four. -/
theorem width_le (pad : PadSpelling) :
    10 * pad.padding.width ≤ 65535 * (pad.digits.length + 5) := by
  obtain ⟨nonempty, short, _, bound⟩ := isPadWidth_iff.mp pad.isWidth
  have some : 0 < pad.digits.length := List.length_pos_iff.mpr nonempty
  have less := decimalValue_lt pad.digits
  have width : pad.padding.width = Numeral.decimalValue pad.digits := rfl
  have most : greatestPadWidth = 65535 := rfl
  rw [width]
  rcases Nat.lt_or_eq_of_le short with few | five
  · have small : 10 ^ pad.digits.length ≤ 10 ^ 4 := Nat.pow_le_pow_right (by decide) (by omega)
    omega
  · omega

/-- An element shows no more characters, in proportion to those of its spelling,
than an expansion with the greatest width. -/
theorem nodeLength_le {e : Element} (well : WellSpelled e) (s : Sample) :
    10 * nodeLength s e.node ≤ 65535 * e.source.length := by
  cases e with
  | run text =>
    rw [Element.node, nodeLength, Element.source]
    omega
  | percent => simp [Element.node, nodeLength, Element.source]
  | expansion pad base channel =>
    have digits := digitCount_byte (base.getD .decimal) (s.channel channel)
    cases pad with
    | none =>
      have length : 4 ≤ (Element.expansion none base channel).source.length := by
        simp [Element.source]
      simp only [Element.node, nodeLength, widthOf, Option.map_none, Option.elim_none]
      omega
    | some pad =>
      have length : pad.digits.length + 5 ≤
          (Element.expansion (some pad) base channel).source.length := by
        simp [Element.source, PadSpelling.source]
      have width := width_le pad
      simp only [Element.node, nodeLength, widthOf, Option.map_some, Option.elim_some]
      omega

theorem shown_le (well : ∀ e ∈ elements, WellSpelled e) (s : Sample) :
    10 * ((elements.map Element.node).map (nodeLength s)).sum ≤
      65535 * (elements.flatMap Element.source).length := by
  induction elements with
  | nil => simp
  | cons e elements ih =>
    obtain ⟨eWell, restWell⟩ := List.forall_mem_cons.mp well
    have first := nodeLength_le eWell s
    have rest := ih restWell
    simp only [List.map_cons, List.sum_cons, List.flatMap_cons, List.length_append]
    omega

/-- What a template shows is as long as its parts are together: a literal counts
with its characters, and an expansion with its width or with the digits of its
channel, whichever is more. The text has at least ten characters for each time
that it asks for the greatest width. -/
theorem rendered_length (parsed : Template.parse text = .ok template) (s : Sample) :
    (template.render s).length = (template.nodes.map (nodeLength s)).sum ∧
      10 * (template.render s).length ≤ 65535 * text.length := by
  have length := length_render template s
  obtain ⟨arranged, whole⟩ := leads_nil_iff.mp (leads_of_parse parsed)
  have bound := shown_le arranged.wellSpelled s
  obtain rfl := template_of_parse parsed
  rw [whole, ← length] at bound
  exact ⟨length, bound⟩

/-- The greatest width, with a digit as the fill. -/
def widest : Text := "%\x7b065535r\x7d".toList

/-- A text that shows as much as its length allows. -/
theorem rendered_length_widest :
    let template : Template := ⟨[.expansion ⟨.red, .decimal, some ⟨'0', 65535, by decide⟩⟩], widest⟩
    Template.parse widest = .ok template ∧ (template.render .white).length = 65535 ∧
      10 * (template.render .white).length = 65535 * widest.length := by
  intro template
  have parsed : Template.parse widest = .ok template := by cbv
  have digits := digitCount_byte .decimal 255
  have length : (template.render .white).length = 65535 := by
    rw [(rendered_length parsed .white).1]
    exact (Nat.add_zero _).trans (max_eq_left (digits.trans (by decide)))
  exact ⟨parsed, length, by rw [length]; rfl⟩

end Swatch.RenderedLength
