import Mathlib.Data.List.TakeDrop
import Swatch.Proofs.EditorAgreement
import Swatch.Proofs.TextCutting

/-! Highlighting line by line. A line break may stand in any fragment, be it as a
fill or behind a fault, and the fragments are cut at all of them. The lines are
those of the text itself, and on them every character has the class that it has in
the text. -/
namespace Swatch.HighlightedLines
open EditorAgreement SpanHighlighting TextCutting

variable {text front : Text} {fragments line : List Fragment} {below cut : List (List Fragment)}

/-- The characters of fragments, each with the class that it is shown in. -/
def glyphs (fragments : List Fragment) : List (Char × Option StyleClass) :=
  fragments.flatMap fun f => f.text.map fun c => (c, f.style)

/-- Where a piece begins in the text that was cut at single characters. -/
def start (pieces : List Text) (k : Nat) : Nat := ((pieces.take k).map (·.length + 1)).sum

/-- Where a line of a text begins. -/
def lineStart (text : Text) (k : Nat) : Nat := start (text.pieces '\n') k

/-- How fragments are cut into lines: each of them at every line break in it, where
all of its pieces, also the empty ones, keep its class. -/
inductive Cut : List Fragment → List (List Fragment) → Prop where
  | nil : Cut [] [[]]
  | unbroken {f : Fragment} {fragments line : List Fragment} {below : List (List Fragment)} :
      '\n' ∉ f.text → Cut fragments (line :: below) → Cut (f :: fragments) ((f :: line) :: below)
  | broken {style : Option StyleClass} {front rest : Text} {fragments : List Fragment}
      {below : List (List Fragment)} :
      '\n' ∉ front → Cut (⟨style, rest⟩ :: fragments) below →
      Cut (⟨style, front ++ '\n' :: rest⟩ :: fragments) ([⟨style, front⟩] :: below)

/-- The glyphs of lines with their positions in a text in which a line begins at a
position and there is one character between neighbours. -/
def placed : Nat → List (List Fragment) → List ((Char × Option StyleClass) × Nat)
  | _, [] => []
  | position, line :: below =>
    (glyphs line).zipIdx position ++ placed (position + (glyphs line).length + 1) below

@[simp] theorem glyphs_nil : glyphs [] = [] := rfl

@[simp] theorem glyphs_cons (f : Fragment) (fragments : List Fragment) :
    glyphs (f :: fragments) = f.text.map (fun c => (c, f.style)) ++ glyphs fragments :=
  List.flatMap_cons

@[simp] theorem glyphs_append (first second : List Fragment) :
    glyphs (first ++ second) = glyphs first ++ glyphs second :=
  List.flatMap_append

@[simp] theorem length_glyphs (fragments : List Fragment) :
    (glyphs fragments).length = (fragments.flatMap Fragment.text).length := by
  simp [glyphs, List.length_flatMap]

@[simp] theorem start_zero (pieces : List Text) : start pieces 0 = 0 := rfl

@[simp] theorem start_cons_succ (piece : Text) (pieces : List Text) (k : Nat) :
    start (piece :: pieces) (k + 1) = piece.length + 1 + start pieces k := by
  simp [start]

theorem inFrontOf_cons (style : Option StyleClass) (piece : Text) {more : List Text}
    (below : List (List Fragment)) (further : more ≠ []) :
    Highlight.inFrontOf style (piece :: more) below =
      [⟨style, piece⟩] :: Highlight.inFrontOf style more below := by
  cases more with
  | nil => exact absurd rfl further
  | cons next more => cases below <;> rfl

theorem lines_unbroken {f : Fragment} (plain : '\n' ∉ f.text)
    (lines : Highlight.lines fragments = line :: below) :
    Highlight.lines (f :: fragments) = (f :: line) :: below := by
  rw [Highlight.lines] at lines ⊢
  rw [List.foldr_cons, lines, pieces_of_notMem plain, Highlight.inFrontOf]

theorem lines_broken (style : Option StyleClass) (rest : Text) (plain : '\n' ∉ front) :
    Highlight.lines (⟨style, front ++ '\n' :: rest⟩ :: fragments) =
      [⟨style, front⟩] :: Highlight.lines (⟨style, rest⟩ :: fragments) := by
  simp only [Highlight.lines, List.foldr_cons, pieces_append plain]
  exact inFrontOf_cons style front _ (Text.pieces_ne_nil '\n' rest)

/-- There is always a last line. -/
theorem exists_cons_of_cut (cuts : Cut fragments cut) : ∃ line below, cut = line :: below := by
  cases cuts with
  | nil => exact ⟨_, _, rfl⟩
  | unbroken => exact ⟨_, _, rfl⟩
  | broken => exact ⟨_, _, rfl⟩

/-- A fragment in front of others is cut at the line breaks in it, one after the
other. -/
theorem cut_lines_cons (style : Option StyleClass) (text : Text)
    (rest : Cut fragments (Highlight.lines fragments)) :
    Cut (⟨style, text⟩ :: fragments) (Highlight.lines (⟨style, text⟩ :: fragments)) := by
  by_cases breaks : '\n' ∈ text
  · obtain ⟨front, behind, rfl, plain⟩ := List.eq_append_cons_of_mem breaks
    rw [lines_broken style behind plain]
    exact .broken plain (cut_lines_cons style behind rest)
  · obtain ⟨line, below, split⟩ := exists_cons_of_cut rest
    rw [lines_unbroken breaks split]
    exact .unbroken breaks (split ▸ rest)
termination_by text.length
decreasing_by
  subst text
  rw [List.length_append, List.length_cons]
  omega

/-- There is one way to cut fragments into lines. -/
theorem cut_iff : Cut fragments cut ↔ cut = Highlight.lines fragments := by
  constructor
  · intro cuts
    induction cuts with
    | nil => rfl
    | unbroken plain _ ih => exact (lines_unbroken plain ih.symm).symm
    | broken plain _ ih => rw [lines_broken _ _ plain, ← ih]
  · rintro rfl
    induction fragments with
    | nil => exact .nil
    | cons f fragments ih => exact cut_lines_cons f.style f.text ih

/-- The lines are the pieces of the text of the fragments. -/
theorem texts_of_cut (cuts : Cut fragments cut) :
    cut.map (List.flatMap Fragment.text) = Text.pieces '\n' (fragments.flatMap Fragment.text) := by
  induction cuts with
  | nil => rfl
  | unbroken plain _ ih =>
    rw [List.map_cons] at ih
    rw [List.flatMap_cons, pieces_append_of_cons plain ih.symm, List.map_cons, List.flatMap_cons]
  | broken plain _ ih =>
    rw [List.map_cons, ih, List.flatMap_singleton, List.flatMap_cons, List.flatMap_cons,
      List.append_assoc, List.cons_append, pieces_append plain]

theorem glyphs_of_notMem (plain : '\n' ∉ text) (style : Option StyleClass) (position : Nat) :
    ((text.map fun c => (c, style)).zipIdx position).filter (fun g => g.1.1 ≠ '\n') =
      (text.map fun c => (c, style)).zipIdx position := by
  refine List.filter_eq_self.mpr fun g member => ?_
  obtain ⟨c, inside, same⟩ := List.mem_map.mp (List.fst_mem_of_mem_zipIdx member)
  rw [← same]
  simpa using fun broken : c = '\n' => plain (broken ▸ inside)

/-- Cutting moves no character to another place and changes the class of none: what
is lost are the line breaks. -/
theorem placed_of_cut (cuts : Cut fragments cut) (position : Nat) :
    placed position cut =
      ((glyphs fragments).zipIdx position).filter fun g => g.1.1 ≠ '\n' := by
  induction cuts generalizing position with
  | nil => rfl
  | @unbroken f fragments line below plain _ ih =>
    have kept := glyphs_of_notMem plain f.style position
    -- The line that the fragment is put in front of begins behind it.
    have behind := ih (position + f.text.length)
    rw [placed] at behind
    rw [placed, glyphs_cons, glyphs_cons, List.zipIdx_append, List.zipIdx_append,
      List.filter_append, kept, List.length_map, ← behind, List.append_assoc, List.length_append,
      List.length_map, ← Nat.add_assoc position]
  | @broken style front rest fragments below plain _ ih =>
    have kept := glyphs_of_notMem plain style position
    -- The line break is the one glyph that is lost, and takes up the place of a character.
    have split : glyphs (⟨style, front ++ '\n' :: rest⟩ :: fragments) =
        (front.map fun c => (c, style)) ++ ('\n', style) :: glyphs (⟨style, rest⟩ :: fragments) := by
      simp
    rw [placed, split, List.zipIdx_append, List.filter_append, List.zipIdx_cons, glyphs_cons,
      glyphs_nil, List.append_nil, kept, List.length_map, ih]
    simp

theorem mem_placed_iff {position q : Nat} {g : Char × Option StyleClass} :
    (g, q) ∈ placed position cut ↔ ∃ k i,
      position + start (cut.map (List.flatMap Fragment.text)) k + i = q ∧
        (glyphs (cut[k]?.getD []))[i]? = some g := by
  induction cut generalizing position with
  | nil => simp [placed]
  | cons line below ih =>
    rw [placed, List.mem_append, ih, List.mk_mem_zipIdx_iff_le_and_getElem?_sub]
    constructor
    · rintro (⟨here, found⟩ | ⟨k, i, rfl, found⟩)
      · exact ⟨0, q - position, by simp; omega, found⟩
      · exact ⟨k + 1, i, by simp; omega, found⟩
    · rintro ⟨_ | k, i, rfl, found⟩
      · exact .inl ⟨by simp, by simpa using found⟩
      · exact .inr ⟨k, i, by simp; omega, found⟩

/-- Each glyph of the fragments is at its place on a line unless it is a line break,
and nothing else is. -/
theorem glyph_on_line_iff {p : Nat} {c : Char} {style : Option StyleClass}
    (cuts : Cut fragments cut) :
    ((glyphs fragments)[p]? = some (c, style) ∧ c ≠ '\n') ↔
      ∃ k i, start (cut.map (List.flatMap Fragment.text)) k + i = p ∧
        (glyphs (cut[k]?.getD []))[i]? = some (c, style) := by
  have placedAt := @mem_placed_iff cut 0 p (c, style)
  rw [placed_of_cut cuts 0, List.mem_filter, List.mk_mem_zipIdx_iff_getElem?] at placedAt
  simpa using placedAt

/-- In a text at fault, the glyphs shown as errors are those from the fault on. -/
theorem glyph_error_iff {position q : Nat} {c : Char} {style : Option StyleClass}
    {clean : List Fragment} (fault : FaultFrom text position fragments clean)
    (shown : (glyphs fragments)[q]? = some (c, style)) :
    style = some .error ↔ position ≤ q := by
  have front : (glyphs clean).length = position := by
    rw [length_glyphs, fault.length]
  rw [fault.split, glyphs_append] at shown
  by_cases behind : position ≤ q
  · rw [List.getElem?_append_right (by omega)] at shown
    simp only [glyphs_cons, glyphs_nil, List.append_nil, List.getElem?_map, Option.map_eq_some_iff,
      Prod.mk.injEq] at shown
    obtain ⟨_, _, _, rfl⟩ := shown
    simpa using behind
  · rw [List.getElem?_append_left (by omega)] at shown
    obtain ⟨f, member, inside⟩ := List.mem_flatMap.mp (List.mem_of_getElem? shown)
    simp only [List.mem_map, Prod.mk.injEq] at inside
    obtain ⟨_, _, _, rfl⟩ := inside
    simpa [behind] using fault.clean f member

/-- Highlighting by spans succeeds on every text. The lines are what any cut of its
fragments at all line breaks gives. They are the lines of the text, of which there
is one more than line breaks, and nothing stands on any further one. A character has
the class on its line that it has in the text, and with a text that is refused, just
the characters from the position of the error on are shown as errors. -/
theorem lines_keep_classes (text : Text) :
    ∃ fragments, highlighted text = .ok fragments ∧ Highlight.fragments text = fragments ∧
    (∀ cut, Cut fragments cut ↔ cut = Highlight.lines fragments) ∧
    (∀ k, Highlight.line text k = ((Highlight.lines fragments)[k]?).getD []) ∧
    (∀ k ≤ text.count '\n',
      (text.pieces '\n')[k]? = some ((Highlight.line text k).flatMap Fragment.text)) ∧
    (∀ k, text.count '\n' < k → Highlight.line text k = []) ∧
    (∀ p c style, ((glyphs fragments)[p]? = some (c, style) ∧ c ≠ '\n') ↔
      ∃ k i, lineStart text k + i = p ∧
        (glyphs (Highlight.line text k))[i]? = some (c, style)) ∧
    ∀ e, Template.parse text = .error e → ∀ k i c style,
      (glyphs (Highlight.line text k))[i]? = some (c, style) →
        (style = some .error ↔ e.position ≤ lineStart text k + i) := by
  have cuts : Cut (Highlight.fragments text) (Highlight.lines (Highlight.fragments text)) :=
    cut_iff.mpr rfl
  have texts := texts_of_cut cuts
  rw [(fragments_whole text).2] at texts
  have number : (Highlight.lines (Highlight.fragments text)).length = text.count '\n' + 1 := by
    rw [← length_pieces, ← texts, List.length_map]
  have onLine : ∀ p c style, ((glyphs (Highlight.fragments text))[p]? = some (c, style) ∧
      c ≠ '\n') ↔ ∃ k i, lineStart text k + i = p ∧
        (glyphs (Highlight.line text k))[i]? = some (c, style) := by
    intro p c style
    rw [glyph_on_line_iff cuts, texts]
    rfl
  refine ⟨_, highlighted_eq text, rfl, fun cut => cut_iff, fun k => rfl, fun k inside => ?_,
    fun k outside => ?_, onLine, fun e failed k i c style shown => ?_⟩
  · have bound : k < (Highlight.lines (Highlight.fragments text)).length := by omega
    rw [← texts, List.getElem?_map, Highlight.line, List.getElem?_eq_getElem bound]
    rfl
  · rw [Highlight.line, List.getElem?_eq_none (by omega)]
    rfl
  · obtain ⟨whole, _⟩ := (onLine _ c style).mpr ⟨k, i, rfl, shown⟩
    exact glyph_error_iff (faultFrom_of_parse failed) whole

/-- A text with a line break in a run, one as a fill, one as a fill that is no part of
an expansion, and one at the end. -/
def brokenText : Text := "a\nb%\x7b\n5r\x7dc%\x7b\nq\n".toList

theorem lines_keep_classes_brokenText :
    Template.parse brokenText = .error (.malformed brokenText 10) ∧
    Highlight.line brokenText 2 = [StyleClass.pad.on ['5'], StyleClass.channel.on ['r'],
      StyleClass.expansion.on ['\x7d'], StyleClass.literal.on ['c'],
      StyleClass.error.on ['%', '\x7b']] ∧
    Highlight.line brokenText 4 = [StyleClass.error.on []] ∧
    Highlight.line brokenText 5 = [] ∧
    (some .error = some StyleClass.error ↔ 10 ≤ lineStart brokenText 3 + 0) := by
  have failed : Template.parse brokenText = .error (.malformed brokenText 10) := by cbv
  have shown : (glyphs (Highlight.line brokenText 3))[0]? = some ('q', some .error) := by cbv
  obtain ⟨_, _, _, _, _, _, outside, _, errors⟩ := lines_keep_classes brokenText
  exact ⟨failed, by cbv, by cbv, outside 5 (by decide), errors _ failed 3 0 'q' _ shown⟩

end Swatch.HighlightedLines
