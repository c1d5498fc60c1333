import Swatch.Template.Basic

/-!
The elements of template texts. An element keeps its spelling, so that the text of a template is
exactly the spellings of its elements in order. Reading takes the longest run of characters other
than `%`, or commits to what stands after a `%`; an element that cannot be completed reports what
it left unread. The main lemma, `source_append_of_read`, says that reading splits its input into the
element's spelling and the rest.
-/
namespace Swatch

/-- Whether digits spell the width of a padding: one to five of them, and no more than the greatest
width. -/
def isPadWidth (digits : Text) : Bool :=
  !digits.isEmpty && digits.length ≤ 5 && digits.all Numeral.isDecimal &&
    Numeral.decimalValue digits ≤ greatestPadWidth

/-- The spelling of a padding: a fill, which may be any character, and the digits of the width. -/
structure PadSpelling where
  fill : Char
  digits : Text
  isWidth : isPadWidth digits = true
  deriving DecidableEq

namespace PadSpelling

/-- The characters of the spelling. -/
def source (pad : PadSpelling) : Text := pad.fill :: pad.digits

/-- The padding that is spelled. -/
def padding (pad : PadSpelling) : Padding :=
  ⟨pad.fill, Numeral.decimalValue pad.digits, by
    have h := pad.isWidth
    simp only [isPadWidth, Bool.and_eq_true, decide_eq_true_eq] at h
    exact h.2⟩

/-- Reads an optional padding. There is one exactly when the second character is a digit. At most
five digits belong to it; when they exceed the greatest width, the text after them is reported as
unread, since nothing else can begin with a digit. -/
def read : Text → Except Text (Option PadSpelling × Text)
  | [] => .ok (none, [])
  | fill :: rest =>
    let digits := (rest.take 5).takeWhile Numeral.isDecimal
    if digits.isEmpty then .ok (none, fill :: rest)
    else if h : isPadWidth digits then .ok (some ⟨fill, digits, h⟩, rest.drop digits.length)
    else .error (rest.drop digits.length)

end PadSpelling

/-- An element of a template text: a run of characters other than `%`, a doubled `%`, or an
expansion in braces. -/
inductive Element where
  | run (text : Text)
  | percent
  | expansion (pad : Option PadSpelling) (base : Option Base) (channel : Channel)
  deriving DecidableEq

namespace Element

/-- The spelling of an element. -/
def source : Element → Text
  | run text => text
  | percent => ['%', '%']
  | expansion pad base channel =>
    '%' :: '\x7b' :: (pad.elim [] PadSpelling.source ++ (base.elim [] fun b => [b.letter]) ++
      [channel.letter, '\x7d'])

/-- The part of a template that an element denotes. -/
def node : Element → Node
  | run text => .literal text
  | percent => .literal ['%']
  | expansion pad base channel =>
    .expansion ⟨channel, base.getD .decimal, pad.map PadSpelling.padding⟩

/-- Reads an optional base letter. -/
def readBase : Text → Option Base × Text
  | [] => (none, [])
  | c :: rest =>
    match Base.ofLetter? c with
    | some base => (some base, rest)
    | none => (none, c :: rest)

/-- Reads the channel letter and the closing brace that end an expansion. -/
def readChannel : Text → Except Text (Channel × Text)
  | [] => .error []
  | c :: rest =>
    match Channel.ofLetter? c, rest with
    | some channel, '\x7d' :: after => .ok (channel, after)
    | some _, _ => .error rest
    | none, _ => .error (c :: rest)

/-- Reads an expansion from behind its opening brace. -/
def readBody (text : Text) : Except Text (Element × Text) := do
  let (pad, text) ← PadSpelling.read text
  let (base, text) := readBase text
  let (channel, text) ← readChannel text
  return (expansion pad base channel, text)

/-- Reads the element that begins with a given character: the element and the text after it, or
the text left unread where the element could not be completed. -/
def read (first : Char) (rest : Text) : Except Text (Element × Text) :=
  if first = '%' then
    match rest with
    | '%' :: after => .ok (percent, after)
    | '\x7b' :: body => readBody body
    | _ => .error (first :: rest)
  else .ok (run (first :: rest.takeWhile (· ≠ '%')), rest.dropWhile (· ≠ '%'))

end Element

theorem PadSpelling.source_append_of_read {text after : Text} {pad : Option PadSpelling}
    (h : PadSpelling.read text = .ok (pad, after)) :
    pad.elim [] PadSpelling.source ++ after = text := by
  unfold PadSpelling.read at h
  split at h
  · cases h; rfl
  · rename_i fill rest
    have split : (rest.take 5).takeWhile Numeral.isDecimal ++
        rest.drop ((rest.take 5).takeWhile Numeral.isDecimal).length = rest := by
      have lead : (rest.take 5).takeWhile Numeral.isDecimal <+: rest :=
        (List.takeWhile_prefix _).trans (List.take_prefix 5 rest)
      exact List.prefix_iff_eq_append.1 lead
    dsimp only at h
    split at h
    · cases h; rfl
    · split at h
      · cases h
        simp [PadSpelling.source, split]
      · cases h

namespace Element

theorem source_append_of_readBase {text after : Text} {base : Option Base}
    (h : readBase text = (base, after)) :
    (base.elim [] fun b => [b.letter]) ++ after = text := by
  unfold readBase at h
  split at h
  · cases h; rfl
  · split at h
    · rename_i found
      cases h
      simp [Base.letter_of_ofLetter? found]
    · cases h; rfl

theorem source_append_of_readChannel {text after : Text} {channel : Channel}
    (h : readChannel text = .ok (channel, after)) :
    channel.letter :: '\x7d' :: after = text := by
  unfold readChannel at h
  split at h
  · cases h
  · split at h
    · rename_i found
      cases h
      rw [Channel.letter_of_ofLetter? found]
    · cases h
    · cases h

theorem source_append_of_readBody {text after : Text} {e : Element}
    (h : readBody text = .ok (e, after)) : e.source ++ after = '%' :: '\x7b' :: text := by
  unfold readBody at h
  cases hp : PadSpelling.read text with
  | error left => rw [hp] at h; cases h
  | ok found =>
    obtain ⟨pad, rest⟩ := found
    rw [hp] at h
    cases hb : readBase rest with
    | mk base ending =>
      cases hc : readChannel ending with
      | error left => simp [bind, Except.bind, hb, hc] at h
      | ok found =>
        obtain ⟨channel, last⟩ := found
        simp only [bind, Except.bind, hb, hc, pure, Except.pure, Except.ok.injEq,
          Prod.mk.injEq] at h
        obtain ⟨rfl, rfl⟩ := h
        rw [← PadSpelling.source_append_of_read hp, ← source_append_of_readBase hb,
          ← source_append_of_readChannel hc]
        simp [source]

/-- Reading an element splits the text into the element's spelling and what is left. -/
theorem source_append_of_read {first : Char} {rest after : Text} {e : Element}
    (h : read first rest = .ok (e, after)) : e.source ++ after = first :: rest := by
  unfold read at h
  split at h
  · rename_i first_eq
    subst first_eq
    split at h
    · cases h; rfl
    · exact source_append_of_readBody h
    · cases h
  · cases h
    simp [source, List.takeWhile_append_dropWhile]

/-- No element that was read is empty. -/
theorem source_ne_nil_of_read {first : Char} {rest after : Text} {e : Element}
    (h : read first rest = .ok (e, after)) : e.source ≠ [] := by
  unfold read at h
  split at h
  · split at h
    · cases h; simp [source]
    · cases e with
      | run text =>
        simp only [readBody] at h
        cases hp : PadSpelling.read _ with
        | error left => rw [hp] at h; cases h
        | ok found =>
          rw [hp] at h
          simp only [bind, Except.bind] at h
          split at h <;> simp [pure, Except.pure] at h
      | percent => simp [source]
      | expansion pad base channel => simp [source]
    · cases h
  · cases h; simp [source]

theorem length_lt_of_read {first : Char} {rest after : Text} {e : Element}
    (h : read first rest = .ok (e, after)) : after.length < (first :: rest).length := by
  have whole := congrArg List.length (source_append_of_read h)
  have some := List.length_pos_iff.2 (source_ne_nil_of_read h)
  rw [List.length_append] at whole
  omega

end Element

end Swatch
