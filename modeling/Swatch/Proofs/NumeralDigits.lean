import Mathlib.Data.Nat.Digits.Lemmas
import Swatch.Numeral

/-! Numerals and the numbers they denote determine each other. A number is
written with its digits in the radix, and a text of digits denotes the number
that is written as the text without its leading zeros. -/
namespace Swatch.NumeralDigits

/-- A decimal numeral without the zeros in front of its last digit. -/
def withoutZeros : Text → Text
  | '0' :: next :: rest => withoutZeros (next :: rest)
  | digits => digits

private theorem digitsOnto_eq {radix n : Nat} (ds : List Nat) (large : 2 ≤ radix)
    (nonzero : n ≠ 0) :
    Numeral.digitsOnto radix n ds = (Nat.digits radix n).reverse ++ ds := by
  fun_induction Numeral.digitsOnto radix n ds with
  | case1 n ds small =>
    have less : n < radix := by omega
    simp [Nat.digits_of_lt radix n nonzero less]
  | case2 n ds more ih =>
    have rest : n / radix ≠ 0 := Nat.div_ne_zero_iff.mpr (by omega)
    rw [ih rest, Nat.digits_eq_cons_digits_div (by omega) nonzero]
    simp

theorem digits_zero (radix : Nat) : Numeral.digits radix 0 = [0] := by
  rw [Numeral.digits, Numeral.digitsOnto, if_pos (by omega)]

/-- The digits of a positive number are those of the library, in the order in
which they are written. -/
theorem digits_eq_reverse {radix n : Nat} (large : 2 ≤ radix) (nonzero : n ≠ 0) :
    Numeral.digits radix n = (Nat.digits radix n).reverse := by
  rw [Numeral.digits, digitsOnto_eq [] large nonzero, List.append_nil]

theorem ofDigits_eq_reverse (radix : Nat) (ds : List Nat) :
    Numeral.ofDigits radix ds = Nat.ofDigits radix ds.reverse := by
  rw [Numeral.ofDigits, Nat.ofDigits_eq_foldr, List.foldr_reverse]
  congr 1
  funext n d
  simp [Nat.mul_comm, Nat.add_comm]

theorem ofDigits_digits {radix : Nat} (large : 2 ≤ radix) (n : Nat) :
    Numeral.ofDigits radix (Numeral.digits radix n) = n := by
  by_cases zero : n = 0
  · subst zero
    simp [digits_zero, Numeral.ofDigits]
  · rw [digits_eq_reverse large zero, ofDigits_eq_reverse, List.reverse_reverse,
      Nat.ofDigits_digits]

theorem digits_lt {radix n d : Nat} (large : 2 ≤ radix) (member : d ∈ Numeral.digits radix n) :
    d < radix := by
  by_cases zero : n = 0
  · subst zero
    rw [digits_zero, List.mem_singleton] at member
    omega
  · rw [digits_eq_reverse large zero, List.mem_reverse] at member
    exact Nat.digits_lt_base (by omega) member

theorem digits_ne_nil {radix n : Nat} (large : 2 ≤ radix) : Numeral.digits radix n ≠ [] := by
  by_cases zero : n = 0
  · simp [zero, digits_zero]
  · rw [digits_eq_reverse large zero, Ne, List.reverse_eq_nil_iff]
    exact Nat.digits_ne_nil_iff_ne_zero.mpr zero

theorem length_digits_le {radix n k : Nat} (large : 2 ≤ radix) (room : 0 < k)
    (bound : n < radix ^ k) : (Numeral.digits radix n).length ≤ k := by
  by_cases zero : n = 0
  · rw [zero, digits_zero]
    exact room
  · rw [digits_eq_reverse large zero, List.length_reverse]
    exact (Nat.digits_length_le_iff (by omega) n).mpr bound

/-- Zeros in front of digits count for nothing. -/
theorem ofDigits_zeros (radix k : Nat) (ds : List Nat) :
    Numeral.ofDigits radix (List.replicate k 0 ++ ds) = Numeral.ofDigits radix ds := by
  induction k with
  | zero => rfl
  | succ k ih => simpa [Numeral.ofDigits, List.replicate_succ] using ih

/-- Digits without a leading zero are written again for the number that they
denote. -/
theorem digits_ofDigits {radix d : Nat} {ds : List Nat} (large : 2 ≤ radix)
    (bounded : ∀ x ∈ d :: ds, x < radix) (leads : d ≠ 0) :
    Numeral.digits radix (Numeral.ofDigits radix (d :: ds)) = d :: ds := by
  have last : ∀ nonempty : (d :: ds).reverse ≠ [], (d :: ds).reverse.getLast nonempty ≠ 0 := by
    intro nonempty
    simpa using leads
  have same := Nat.digits_ofDigits radix (by omega) (d :: ds).reverse
    (fun x member => bounded x (List.mem_reverse.mp member)) last
  have positive : Nat.ofDigits radix (d :: ds).reverse ≠ 0 := by
    intro zero
    rw [zero, Nat.digits_zero] at same
    simp at same
  rw [ofDigits_eq_reverse, digits_eq_reverse large positive, same, List.reverse_reverse]

theorem digit?_digitChar (base : Base) {d : Nat} (bound : d < base.radix) :
    Numeral.digit? base.radix (base.digitChar d) = some d := by
  revert d
  cases base <;> decide

theorem mapM_digit? (base : Base) {ds : List Nat} (bounded : ∀ d ∈ ds, d < base.radix) :
    (ds.map base.digitChar).mapM (Numeral.digit? base.radix) = some ds := by
  induction ds with
  | nil => rfl
  | cons d ds ih =>
    obtain ⟨first, rest⟩ := List.forall_mem_cons.mp bounded
    rw [List.map_cons, List.mapM_cons, digit?_digitChar base first, ih rest]
    rfl

theorem numeral_ne_nil (base : Base) (n : Nat) : base.numeral n ≠ [] := by
  rw [Base.numeral, Ne, List.map_eq_nil_iff]
  exact digits_ne_nil base.two_le_radix

/-- The numeral of a number is read as that number. -/
theorem read?_numeral (base : Base) (n : Nat) :
    Numeral.read? base.radix (base.numeral n) = some n := by
  have large := base.two_le_radix
  have nonempty : (base.numeral n).isEmpty = false := by simpa using numeral_ne_nil base n
  rw [Numeral.read?, nonempty, Base.numeral, mapM_digit? base fun d => digits_lt large]
  exact congrArg some (ofDigits_digits large n)

theorem numeral_inj {base : Base} {m n : Nat} (same : base.numeral m = base.numeral n) : m = n := by
  have read := read?_numeral base m
  rw [same, read?_numeral] at read
  exact (Option.some.inj read).symm

/-- A text of digits is read as the same number with zeros in front of it. -/
theorem read?_zeros {radix : Nat} {text : Text} (positive : 0 < radix) (nonempty : text ≠ [])
    (k : Nat) : Numeral.read? radix (List.replicate k '0' ++ text) = Numeral.read? radix text := by
  have zero : Numeral.digit? radix '0' = some 0 := by
    simpa [Numeral.digit?, Numeral.digitValue?] using positive
  have zeros : (List.replicate k '0').mapM (Numeral.digit? radix) = some (List.replicate k 0) := by
    induction k with
    | zero => rfl
    | succ k ih =>
      rw [List.replicate_succ, List.mapM_cons, zero, ih]
      rfl
  have whole : (List.replicate k '0' ++ text).isEmpty = false := by simp [nonempty]
  have part : text.isEmpty = false := by simpa using nonempty
  rw [Numeral.read?, whole, Numeral.read?, part, List.mapM_append, zeros]
  cases text.mapM (Numeral.digit? radix) with
  | none => rfl
  | some ds => exact congrArg some (ofDigits_zeros radix k ds)

/-- A numeral that zeros bring to a width is read as the same number. -/
theorem read?_leftpad (base : Base) (n width : Nat) :
    Numeral.read? base.radix ((base.numeral n).leftpad width '0') = some n := by
  have positive : 0 < base.radix := Nat.zero_lt_of_lt base.two_le_radix
  rw [List.leftpad, read?_zeros positive (numeral_ne_nil base n), read?_numeral]

/-- The decimal digits are the ten characters from `0` to `9`, and their values
are their distances from `0`. -/
theorem digit?_decimal_iff {c : Char} {d : Nat} : Numeral.digit? 10 c = some d ↔
    ('0' ≤ c ∧ c ≤ '9') ∧ c.toNat = '0'.toNat + d := by
  have order : ('0' ≤ c ∧ c ≤ '9') ↔ 0x30 ≤ c.toNat ∧ c.toNat ≤ 0x39 := Iff.rfl
  have zero : '0'.toNat = 0x30 := rfl
  rw [order, zero, Numeral.digit?, Option.filter_eq_some_iff]
  simp only [Numeral.digitValue?, decide_eq_true_eq]
  constructor
  · rintro ⟨value, small⟩
    split at value
    · have := Option.some.inj value
      omega
    · split at value
      · have := Option.some.inj value
        omega
      · split at value
        · have := Option.some.inj value
          omega
        · cases value
  · rintro ⟨range, sum⟩
    rw [if_pos range, sum]
    exact ⟨by simp, by omega⟩

theorem isDecimal_iff {c : Char} : Numeral.isDecimal c = true ↔ '0' ≤ c ∧ c ≤ '9' := by
  rw [Numeral.isDecimal, Option.isSome_iff_exists]
  constructor
  · rintro ⟨d, read⟩
    exact (digit?_decimal_iff.mp read).1
  · intro range
    have low : '0'.toNat ≤ c.toNat := range.1
    exact ⟨c.toNat - '0'.toNat, digit?_decimal_iff.mpr ⟨range, by omega⟩⟩

theorem digitChar_of_digit? {c : Char} {d : Nat} (digit : Numeral.digit? 10 c = some d) :
    d < 10 ∧ Base.decimal.digitChar d = c := by
  obtain ⟨range, sum⟩ := digit?_decimal_iff.mp digit
  have high : c.toNat ≤ '9'.toNat := range.2
  have small : d < 10 := by
    have nine : '9'.toNat = '0'.toNat + 9 := rfl
    omega
  refine ⟨small, ?_⟩
  rw [Base.digitChar, if_pos small]
  exact (congrArg Char.ofNat sum.symm).trans (Char.ofNat_toNat c)

/-- The numeral of a number denotes that number. -/
theorem decimalValue_numeral (n : Nat) :
    Numeral.decimalValue (Base.decimal.numeral n) = n := by
  have values : ((Numeral.digits 10 n).map Base.decimal.digitChar).map
      (fun c => (Numeral.digit? 10 c).getD 0) = Numeral.digits 10 n := by
    rw [List.map_map]
    conv_rhs => rw [← List.map_id (Numeral.digits 10 n)]
    refine List.map_congr_left fun d member => ?_
    have read := digit?_digitChar .decimal (digits_lt (by decide) member)
    rw [Base.radix] at read
    simp [read]
  rw [Numeral.decimalValue, Base.numeral, Base.radix, values, ofDigits_digits (by decide)]

theorem decimalValue_zeros (k : Nat) (digits : Text) :
    Numeral.decimalValue (List.replicate k '0' ++ digits) = Numeral.decimalValue digits := by
  have zero : (Numeral.digit? 10 '0').getD 0 = 0 := rfl
  rw [Numeral.decimalValue, List.map_append, List.map_replicate, zero, ofDigits_zeros,
    Numeral.decimalValue]

theorem numeral_isDecimal {n : Nat} {c : Char} (member : c ∈ Base.decimal.numeral n) :
    Numeral.isDecimal c = true := by
  obtain ⟨d, digit, rfl⟩ := List.mem_map.mp member
  have read := digit?_digitChar .decimal (digits_lt (by decide) digit)
  rw [Base.radix] at read
  rw [Numeral.isDecimal, read, Option.isSome_some]

private theorem values_spelled {digits : Text}
    (valid : ∀ c ∈ digits, Numeral.isDecimal c = true) :
    ∃ ds : List Nat, (∀ d ∈ ds, d < 10) ∧ ds.map Base.decimal.digitChar = digits ∧
      Numeral.decimalValue digits = Numeral.ofDigits 10 ds := by
  refine ⟨digits.map fun c => (Numeral.digit? 10 c).getD 0, ?_, ?_, rfl⟩
  · intro d member
    obtain ⟨c, inside, rfl⟩ := List.mem_map.mp member
    obtain ⟨value, read⟩ := Option.isSome_iff_exists.mp (valid c inside)
    simpa [read] using (digitChar_of_digit? read).1
  · rw [List.map_map]
    conv_rhs => rw [← List.map_id digits]
    refine List.map_congr_left fun c inside => ?_
    obtain ⟨value, read⟩ := Option.isSome_iff_exists.mp (valid c inside)
    simpa [read] using (digitChar_of_digit? read).2

/-- Digits are read as the number that they denote. -/
theorem read?_digits {digits : Text} (nonempty : digits ≠ [])
    (valid : ∀ c ∈ digits, Numeral.isDecimal c = true) :
    Numeral.read? 10 digits = some (Numeral.decimalValue digits) := by
  obtain ⟨ds, bounded, rfl, value⟩ := values_spelled valid
  have read := mapM_digit? .decimal bounded
  rw [Base.radix] at read
  rw [value, Numeral.read?, List.isEmpty_eq_false_iff.mpr nonempty, read]
  rfl

/-- As many digits cannot denote more than the power of ten with that exponent. -/
theorem decimalValue_lt (digits : Text) : Numeral.decimalValue digits < 10 ^ digits.length := by
  have bounded : ∀ d ∈ (digits.map fun c => (Numeral.digit? 10 c).getD 0).reverse, d < 10 := by
    intro d member
    obtain ⟨c, _, rfl⟩ := List.mem_map.mp (List.mem_reverse.mp member)
    cases read : Numeral.digit? 10 c with
    | none => decide
    | some d => exact (digitChar_of_digit? read).1
  have less := Nat.ofDigits_lt_base_pow_length (by decide) bounded
  rwa [List.length_reverse, List.length_map, ← ofDigits_eq_reverse] at less

/-- The number that digits denote is written with the same digits, but for the
leading zeros. -/
theorem numeral_decimalValue {digits : Text} (nonempty : digits ≠ [])
    (valid : ∀ c ∈ digits, Numeral.isDecimal c = true) :
    Base.decimal.numeral (Numeral.decimalValue digits) = withoutZeros digits := by
  fun_induction withoutZeros digits with
  | case1 next rest ih =>
    have same : Numeral.decimalValue ('0' :: next :: rest) =
        Numeral.decimalValue (next :: rest) := rfl
    rw [same]
    exact ih (by simp) fun c member => valid c (List.mem_cons_of_mem _ member)
  | case2 digits significant =>
    obtain ⟨ds, bounded, spelled, value⟩ := values_spelled valid
    rw [value, Base.numeral, Base.radix]
    match ds with
    | [] => exact absurd spelled.symm nonempty
    | [d] =>
      have less : d < 10 := bounded d (by simp)
      have single : Numeral.digits 10 d = [d] := by
        rw [Numeral.digits, Numeral.digitsOnto, if_pos (.inl less)]
      simpa [Numeral.ofDigits, single] using spelled
    | d :: next :: ds =>
      have leads : d ≠ 0 := by
        intro zero
        subst zero
        exact significant _ _ spelled.symm
      rw [digits_ofDigits (by decide) bounded leads, spelled]

end Swatch.NumeralDigits
