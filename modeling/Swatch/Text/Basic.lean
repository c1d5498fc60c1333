/-!
Texts and their cutting into pieces. A text is the list of its code points, so that every position,
width and length in this library counts code points, and so that reading a text is recursion on
its characters.
-/
namespace Swatch

/-- A text, as its code points in order. -/
abbrev Text := List Char

namespace Text

/-- The pieces between the occurrences of a separator. There is always one more piece than there
are separators, so the empty text has one piece, which is empty. -/
def pieces (separator : Char) : Text → List Text
  | [] => [[]]
  | c :: rest =>
    if c = separator then [] :: pieces separator rest
    else match pieces separator rest with
      | [] => [[c]]
      | piece :: others => (c :: piece) :: others

/-- The text that bytes encode, eight bits to a unit, if they encode one. -/
def ofBytes? (bytes : List UInt8) : Option Text :=
  (String.fromUTF8? (ByteArray.mk bytes.toArray)).map String.toList

/-- The texts in order with a separator between neighbours. -/
def joined (separator : Text) (texts : List Text) : Text := separator.intercalate texts

/-- A text in which a carriage return, alone or before a line feed, has become a line feed. -/
def withPlainBreaks : Text → Text
  | [] => []
  | '\r' :: '\n' :: rest => '\n' :: withPlainBreaks rest
  | '\r' :: rest => '\n' :: withPlainBreaks rest
  | c :: rest => c :: withPlainBreaks rest

/-- Whether a text begins with another. -/
def startsWith (text lead : Text) : Bool := lead.isPrefixOf text

/-- The order of texts by their code points, an initial part coming before the whole. -/
def precedes : Text → Text → Bool
  | [], _ => true
  | _ :: _, [] => false
  | c :: cs, d :: ds => c.toNat < d.toNat || (c == d && precedes cs ds)

/-- There is at least one piece. -/
theorem pieces_ne_nil (separator : Char) (text : Text) : pieces separator text ≠ [] := by
  cases text with
  | nil => simp [pieces]
  | cons c rest =>
    unfold pieces
    split
    · simp
    · split <;> simp

/-- The pieces of a text, joined again, are the text. -/
theorem joined_pieces (separator : Char) (text : Text) :
    joined [separator] (pieces separator text) = text := by
  induction text with
  | nil => rfl
  | cons c rest ih =>
    unfold pieces
    split
    · rename_i same
      subst same
      obtain ⟨piece, others, split⟩ := List.exists_cons_of_ne_nil (pieces_ne_nil c rest)
      rw [split] at ih ⊢
      simpa [joined, List.intercalate] using ih
    · split
      · rename_i none
        exact absurd none (pieces_ne_nil separator rest)
      · rename_i piece others split
        rw [split] at ih
        cases others with
        | nil => simpa [joined, List.intercalate] using ih
        | cons next others => simpa [joined, List.intercalate] using ih

end Text

end Swatch
