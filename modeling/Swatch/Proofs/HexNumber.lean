import Mathlib.Data.List.Induction
import Mathlib.Tactic.Ring
import Swatch.Sample.Basic

/-! Hexadecimal numbers and the samples they pack. The digits of two texts put
together denote the two numbers one above the other, so that eight digits denote
a packed sample exactly if the four pairs among them denote its channels. -/
namespace Swatch.HexNumber

variable {c : Char} {d n m : Nat} {text front back : Text} {s : Sample}

/-- The hexadecimal digits of either case, with their values. -/
inductive Digit : Char → Nat → Prop where
  | decimal {c : Char} {d : Nat} : d < 10 → c.toNat = '0'.toNat + d → Digit c d
  | lower {c : Char} {d : Nat} : d < 6 → c.toNat = 'a'.toNat + d → Digit c (10 + d)
  | upper {c : Char} {d : Nat} : d < 6 → c.toNat = 'A'.toNat + d → Digit c (10 + d)

/-- The number that hexadecimal digits denote; no digits denote zero. -/
inductive Denotes : Text → Nat → Prop where
  | nil : Denotes [] 0
  | snoc {text : Text} {c : Char} {n d : Nat} :
      Denotes text n → Digit c d → Denotes (text ++ [c]) (n * 16 + d)

/-- Three pairs of digits denote the visible channels. -/
structure PairsDenote (r r' g g' b b' : Char) (s : Sample) : Prop where
  red : Denotes [r, r'] s.red.toNat
  green : Denotes [g, g'] s.green.toNat
  blue : Denotes [b, b'] s.blue.toNat

theorem digit?_eq_some_iff : Numeral.digit? 16 c = some d ↔ Digit c d := by
  have zero : '0'.toNat = 0x30 := rfl
  have lower : 'a'.toNat = 0x61 := rfl
  have upper : 'A'.toNat = 0x41 := rfl
  simp only [Numeral.digit?, Numeral.digitValue?, Option.filter_eq_some_iff, decide_eq_true_eq]
  constructor
  · rintro ⟨value, _⟩
    split at value
    · cases value
      exact .decimal (by omega) (by omega)
    · split at value
      · cases value
        obtain ⟨e, sum⟩ : ∃ e, c.toNat - 0x57 = 10 + e := ⟨c.toNat - 0x61, by omega⟩
        rw [sum]
        exact .lower (by omega) (by omega)
      · split at value
        · cases value
          obtain ⟨e, sum⟩ : ∃ e, c.toNat - 0x37 = 10 + e := ⟨c.toNat - 0x41, by omega⟩
          rw [sum]
          exact .upper (by omega) (by omega)
        · cases value
  · intro digit
    cases digit with
    | decimal small sum =>
      rw [if_pos (by omega)]
      exact ⟨congrArg some (by omega), by omega⟩
    | lower small sum =>
      rw [if_neg (by omega), if_pos (by omega)]
      exact ⟨congrArg some (by omega), by omega⟩
    | upper small sum =>
      rw [if_neg (by omega), if_neg (by omega), if_pos (by omega)]
      exact ⟨congrArg some (by omega), by omega⟩

theorem digit_lt (digit : Digit c d) : d < 16 := by cases digit <;> omega

theorem denotes_snoc_iff :
    Denotes (text ++ [c]) n ↔ ∃ m d, Denotes text m ∧ Digit c d ∧ n = m * 16 + d := by
  constructor
  · intro denotes
    generalize whole : text ++ [c] = digits at denotes
    cases denotes with
    | nil => simp at whole
    | snoc denotes digit =>
      obtain ⟨rfl, same⟩ := List.append_inj' whole rfl
      cases same
      exact ⟨_, _, denotes, digit, rfl⟩
  · rintro ⟨m, d, denotes, digit, rfl⟩
    exact denotes.snoc digit

theorem denotes_nil_iff : Denotes [] n ↔ n = 0 := by
  constructor
  · intro denotes
    generalize whole : ([] : Text) = digits at denotes
    cases denotes with
    | nil => rfl
    | snoc => simp at whole
  · rintro rfl
    exact .nil

theorem denotes_lt (denotes : Denotes text n) : n < 16 ^ text.length := by
  induction denotes with
  | nil => simp
  | snoc denotes digit ih =>
    have small := digit_lt digit
    rw [List.length_append, List.length_singleton, Nat.pow_succ]
    omega

/-- The digits in front count once for every number that those behind can
denote. -/
theorem denotes_append_iff : Denotes (front ++ back) n ↔
    ∃ high low, Denotes front high ∧ Denotes back low ∧ n = high * 16 ^ back.length + low := by
  induction back using List.reverseRecOn generalizing n with
  | nil => simp [denotes_nil_iff]
  | append_singleton back c ih =>
    simp only [← List.append_assoc, denotes_snoc_iff, ih, List.length_append,
      List.length_singleton, Nat.pow_succ]
    constructor
    · rintro ⟨_, d, ⟨high, low, frontDenotes, backDenotes, rfl⟩, digit, rfl⟩
      exact ⟨high, low * 16 + d, frontDenotes, ⟨low, d, backDenotes, digit, rfl⟩, by ring⟩
    · rintro ⟨high, _, frontDenotes, ⟨low, d, backDenotes, digit, rfl⟩, rfl⟩
      exact ⟨_, d, ⟨high, low, frontDenotes, backDenotes, rfl⟩, digit, by ring⟩

private theorem read_snoc (text : Text) (c : Char) :
    ((text ++ [c]).mapM (Numeral.digit? 16)).map (Numeral.ofDigits 16) =
      ((text.mapM (Numeral.digit? 16)).map (Numeral.ofDigits 16)).bind fun n =>
        (Numeral.digit? 16 c).map (n * 16 + ·) := by
  rw [List.mapM_append]
  cases front : text.mapM (Numeral.digit? 16) <;> cases last : Numeral.digit? 16 c <;>
    simp [last, Numeral.ofDigits]

private theorem mapM_digit?_iff (text : Text) (n : Nat) :
    (text.mapM (Numeral.digit? 16)).map (Numeral.ofDigits 16) = some n ↔ Denotes text n := by
  induction text using List.reverseRecOn generalizing n with
  | nil => simp [denotes_nil_iff, Numeral.ofDigits, eq_comm]
  | append_singleton text c ih =>
    simp only [read_snoc, Option.bind_eq_some_iff, Option.map_eq_some_iff, ih, denotes_snoc_iff,
      digit?_eq_some_iff]
    constructor
    · rintro ⟨m, denotes, d, digit, rfl⟩
      exact ⟨m, d, denotes, digit, rfl⟩
    · rintro ⟨m, d, denotes, digit, rfl⟩
      exact ⟨m, denotes, d, digit, rfl⟩

/-- What is read from digits is the number that they denote. -/
theorem read?_eq_some_iff : Numeral.read? 16 text = some n ↔ text ≠ [] ∧ Denotes text n := by
  cases text with
  | nil => simp [Numeral.read?]
  | cons c rest => simpa [Numeral.read?] using mapM_digit?_iff (c :: rest) n

/-- The packed form has one byte for each channel. -/
theorem packed_eq_iff {alpha red green blue : Nat} (redByte : red < 256) (greenByte : green < 256)
    (blueByte : blue < 256) :
    s.packed = alpha * 0x1000000 + (red * 0x10000 + green * 0x100 + blue) ↔
      s.alpha.toNat = alpha ∧ s.red.toNat = red ∧ s.green.toNat = green ∧ s.blue.toNat = blue := by
  have := s.alpha.toNat_lt
  have := s.red.toNat_lt
  have := s.green.toNat_lt
  have := s.blue.toNat_lt
  rw [Sample.packed]
  omega

theorem packed_lt (s : Sample) : s.packed < 0x100000000 := by
  have := s.alpha.toNat_lt
  have := s.red.toNat_lt
  have := s.green.toNat_lt
  have := s.blue.toNat_lt
  rw [Sample.packed]
  omega

theorem packed_ofBytes (bound : n < 0x100000000) : (Sample.ofBytes n).packed = n := by
  simp only [Sample.packed, Sample.ofBytes, UInt8.toNat_ofNat']
  omega

theorem packed_inj {t : Sample} : s.packed = t.packed ↔ s = t := by
  constructor
  · intro same
    have whole : s.packed = t.alpha.toNat * 0x1000000 +
        (t.red.toNat * 0x10000 + t.green.toNat * 0x100 + t.blue.toNat) := by
      rw [same, Sample.packed]
      omega
    obtain ⟨alpha, red, green, blue⟩ :=
      (packed_eq_iff t.red.toNat_lt t.green.toNat_lt t.blue.toNat_lt).mp whole
    cases s
    cases t
    simp only [Sample.mk.injEq, ← UInt8.toNat_inj]
    exact ⟨alpha, red, green, blue⟩
  · rintro rfl
    rfl

theorem ofBytes_eq_iff (bound : n < 0x100000000) : Sample.ofBytes n = s ↔ s.packed = n := by
  rw [← packed_inj, packed_ofBytes bound, eq_comm]

section Pairs
variable {a a' r r' g g' b b' : Char}

private theorem pair_lt (denotes : Denotes [r, r'] n) : n < 256 := by
  simpa using denotes_lt denotes

private theorem denotes_pairs_iff : Denotes [r, r', g, g', b, b'] n ↔
    ∃ red green blue, Denotes [r, r'] red ∧ Denotes [g, g'] green ∧ Denotes [b, b'] blue ∧
      n = red * 0x10000 + green * 0x100 + blue := by
  rw [show [r, r', g, g', b, b'] = [r, r'] ++ ([g, g'] ++ [b, b']) from rfl]
  simp only [denotes_append_iff]
  constructor
  · rintro ⟨red, _, redDenotes, ⟨green, blue, greenDenotes, blueDenotes, rfl⟩, rfl⟩
    exact ⟨red, green, blue, redDenotes, greenDenotes, blueDenotes, by simp; omega⟩
  · rintro ⟨red, green, blue, redDenotes, greenDenotes, blueDenotes, rfl⟩
    exact ⟨red, _, redDenotes, ⟨green, blue, greenDenotes, blueDenotes, rfl⟩, by simp; omega⟩

/-- Six digits under a byte for the alpha channel denote a packed sample exactly
if their pairs denote its visible channels. -/
theorem pairsDenote_iff {alpha : Nat} :
    (∃ n, Denotes [r, r', g, g', b, b'] n ∧ s.packed = alpha * 0x1000000 + n) ↔
      s.alpha.toNat = alpha ∧ PairsDenote r r' g g' b b' s := by
  constructor
  · rintro ⟨n, denotes, packed⟩
    obtain ⟨red, green, blue, redDenotes, greenDenotes, blueDenotes, rfl⟩ :=
      denotes_pairs_iff.mp denotes
    obtain ⟨same, rfl, rfl, rfl⟩ := (packed_eq_iff (pair_lt redDenotes) (pair_lt greenDenotes)
      (pair_lt blueDenotes)).mp packed
    exact ⟨same, redDenotes, greenDenotes, blueDenotes⟩
  · rintro ⟨same, pairs⟩
    exact ⟨_, denotes_pairs_iff.mpr ⟨_, _, _, pairs.red, pairs.green, pairs.blue, rfl⟩,
      (packed_eq_iff s.red.toNat_lt s.green.toNat_lt s.blue.toNat_lt).mpr ⟨same, rfl, rfl, rfl⟩⟩

/-- Eight digits denote a packed sample exactly if their pairs denote all its
channels. -/
theorem denotes_packed_iff : Denotes [a, a', r, r', g, g', b, b'] s.packed ↔
    Denotes [a, a'] s.alpha.toNat ∧ PairsDenote r r' g g' b b' s := by
  have scale : 16 ^ [r, r', g, g', b, b'].length = 0x1000000 := by simp
  rw [show [a, a', r, r', g, g', b, b'] = [a, a'] ++ [r, r', g, g', b, b'] from rfl,
    denotes_append_iff, scale]
  constructor
  · rintro ⟨alpha, n, alphaDenotes, denotes, packed⟩
    obtain ⟨rfl, pairs⟩ := pairsDenote_iff.mp ⟨n, denotes, packed⟩
    exact ⟨alphaDenotes, pairs⟩
  · rintro ⟨alphaDenotes, pairs⟩
    obtain ⟨n, denotes, packed⟩ := pairsDenote_iff.mpr ⟨rfl, pairs⟩
    exact ⟨_, n, alphaDenotes, denotes, packed⟩

end Pairs

end Swatch.HexNumber
