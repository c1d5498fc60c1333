import Mathlib.Data.List.DropRight
import Swatch.Text.Blank

/-! Texts cut at a separator, and texts freed of the blanks around them. The
pieces of a text are the only ones without a separator that give the text when
they are joined again. Trimming leaves no blank at either end, and gives the same
for a text with further blanks put around it. -/
namespace Swatch.TextCutting

variable {text before after front rest : Text} {separator : Char}

/-- Nothing but blanks, if anything. -/
def Blank (text : Text) : Prop := ∀ c ∈ text, isBlank c = true

instance (text : Text) : Decidable (Blank text) :=
  List.decidableBAll (fun c => isBlank c = true) text

theorem blank_nil : Blank [] := nofun

/-- A text that has no blank at either end. -/
structure Trimmed (text : Text) : Prop where
  first : ∀ c ∈ text.head?, isBlank c = false
  last : ∀ c ∈ text.getLast?, isBlank c = false

theorem trim_eq (text : Text) : text.trim = (text.dropWhile isBlank).rdropWhile isBlank := rfl

theorem trim_eq_nil_iff : text.trim = [] ↔ Blank text := by
  constructor
  · intro nothing
    rw [trim_eq, List.rdropWhile_eq_nil_iff, ← List.dropWhile_eq_nil_iff,
      List.dropWhile_idempotent isBlank text] at nothing
    exact List.dropWhile_eq_nil_iff.mp nothing
  · intro blank
    rw [trim_eq, List.dropWhile_eq_nil_iff.mpr blank, List.rdropWhile_nil]

theorem trim_of_trimmed (trimmed : Trimmed text) : text.trim = text := by
  have kept : text.dropWhile isBlank = text := by
    cases text with
    | nil => rfl
    | cons c rest => simp [trimmed.first c rfl]
  rw [trim_eq, kept, List.rdropWhile_eq_self_iff]
  intro nonempty
  simpa using trimmed.last _ (List.getLast?_eq_getLast_of_ne_nil nonempty)

theorem trimmed_of_forall (plain : ∀ c ∈ text, isBlank c = false) : Trimmed text :=
  ⟨fun c leads => plain c (List.mem_of_mem_head? leads),
    fun c ends => plain c (List.mem_of_mem_getLast? ends)⟩

/-- What stands between two texts without outer blanks does not matter. -/
theorem trimmed_between {middle back : Text} (first : Trimmed front) (last : Trimmed back)
    (leads : front ≠ []) (ends : back ≠ []) : Trimmed (front ++ (middle ++ back)) := by
  constructor
  · rw [List.head?_append_of_ne_nil _ leads]
    exact first.first
  · rw [← List.append_assoc, List.getLast?_append_of_ne_nil _ ends]
    exact last.last

/-- Blanks put around a text are taken away with those that it had. -/
theorem trim_surrounded (text : Text) (blankBefore : Blank before) (blankAfter : Blank after) :
    Text.trim (before ++ text ++ after) = text.trim := by
  rw [trim_eq, trim_eq, List.append_assoc, List.dropWhile_append_of_pos blankBefore,
    List.dropWhile_append]
  split
  · rename_i nothing
    rw [List.isEmpty_iff.mp nothing, List.dropWhile_eq_nil_iff.mpr blankAfter]
  · simp only [List.rdropWhile, List.reverse_append]
    rw [List.dropWhile_append_of_pos fun c member => blankAfter c (List.mem_reverse.mp member)]

theorem pieces_of_notMem (none : separator ∉ text) : text.pieces separator = [text] := by
  induction text with
  | nil => rfl
  | cons c rest ih =>
    obtain ⟨other, none⟩ := List.ne_and_not_mem_of_not_mem_cons none
    rw [Text.pieces, if_neg (Ne.symm other), ih none]

theorem pieces_append (none : separator ∉ front) :
    Text.pieces separator (front ++ separator :: rest) = front :: rest.pieces separator := by
  induction front with
  | nil => simp [Text.pieces]
  | cons c front ih =>
    obtain ⟨other, none⟩ := List.ne_and_not_mem_of_not_mem_cons none
    rw [List.cons_append, Text.pieces, if_neg (Ne.symm other), ih none]

/-- What stands in front of the first separator belongs to the first piece. -/
theorem pieces_append_of_cons {first : Text} {others : List Text} (none : separator ∉ front)
    (cut : rest.pieces separator = first :: others) :
    Text.pieces separator (front ++ rest) = (front ++ first) :: others := by
  induction front with
  | nil => exact cut
  | cons c front ih =>
    obtain ⟨other, none⟩ := List.ne_and_not_mem_of_not_mem_cons none
    rw [List.cons_append, Text.pieces, if_neg (Ne.symm other), ih none, List.cons_append]

theorem length_pieces (separator : Char) (text : Text) :
    (text.pieces separator).length = text.count separator + 1 := by
  induction text with
  | nil => rfl
  | cons c rest ih =>
    rw [Text.pieces, List.count_cons]
    split
    · rename_i same
      simp [same, ih]
    · rename_i other
      obtain ⟨piece, others, split⟩ :=
        List.exists_cons_of_ne_nil (Text.pieces_ne_nil separator rest)
      rw [split] at ih ⊢
      simpa [other] using ih

theorem notMem_of_mem_pieces {piece : Text} (member : piece ∈ text.pieces separator) :
    separator ∉ piece := by
  induction text generalizing piece with
  | nil =>
    rw [List.mem_singleton.mp member]
    exact List.not_mem_nil
  | cons c rest ih =>
    unfold Text.pieces at member
    split at member
    · rcases List.mem_cons.mp member with rfl | member
      · simp
      · exact ih member
    · rename_i other
      split at member
      · rename_i absent
        exact absurd absent (Text.pieces_ne_nil separator rest)
      · rename_i first others split
        rcases List.mem_cons.mp member with rfl | member
        · have plain : separator ∉ first := ih (by simp [split])
          simp [plain, Ne.symm other]
        · exact ih (by simp [split, member])

/-- A text is cut into three exactly at its two separators. -/
theorem pieces_eq_three_iff {first second third : Text} :
    text.pieces separator = [first, second, third] ↔
      text = first ++ separator :: (second ++ separator :: third) ∧
        ∀ piece ∈ [first, second, third], separator ∉ piece := by
  constructor
  · intro cut
    have whole := Text.joined_pieces separator text
    rw [cut] at whole
    exact ⟨by simpa [Text.joined, List.intercalate] using whole.symm,
      fun piece member => notMem_of_mem_pieces (cut ▸ member)⟩
  · rintro ⟨rfl, plain⟩
    rw [pieces_append (plain first (by simp)), pieces_append (plain second (by simp)),
      pieces_of_notMem (plain third (by simp))]

end Swatch.TextCutting
