import Swatch.Numeral

/-!
Bytes written in base 64: four characters of six bits each stand for three bytes, and padding fills
up the last four. Characters that are neither are passed over, and so is padding in front of the
third character of a group.
-/
namespace Swatch.Base64

/-- The six bits that a character stands for. -/
def sextet? (c : Char) : Option Nat :=
  if 'A' ≤ c ∧ c ≤ 'Z' then some (c.toNat - 0x41)
  else if 'a' ≤ c ∧ c ≤ 'z' then some (c.toNat - 0x47)
  else if '0' ≤ c ∧ c ≤ '9' then some (c.toNat + 4)
  else if c = '+' then some 62
  else if c = '/' then some 63
  else none

/-- The byte that is complete when some bits join those of the characters before in a group. -/
def byteOf (taken left bits : Nat) : List UInt8 :=
  if taken = 1 then [UInt8.ofNat (left * 4 + bits / 16)]
  else if taken = 2 then [UInt8.ofNat (left % 16 * 16 + bits / 4)]
  else if taken = 3 then [UInt8.ofNat (left % 4 * 64 + bits)]
  else []

/-- The bytes of a text in the middle of a group: so many of its characters were taken, the last of
which had the bits left, and some padding came behind them. Nothing is read behind a full group that
ends in padding; a text may not end inside a group. -/
def decodeFrom (taken left pads : Nat) : Text → Option (List UInt8)
  | [] => if taken = 0 then some [] else none
  | c :: rest =>
    if c = '=' then
      let pads := if 2 ≤ taken then pads + 1 else pads
      if 2 ≤ taken ∧ 4 ≤ taken + pads then some [] else decodeFrom taken left pads rest
    else
      match sextet? c with
      | none => decodeFrom taken left pads rest
      | some bits =>
        (decodeFrom ((taken + 1) % 4) bits 0 rest).map (byteOf taken left bits ++ ·)

/-- The bytes that a text of ASCII characters stands for. -/
def decode? (text : Text) : Option (List UInt8) :=
  if text.all fun c => c.toNat < 0x80 then decodeFrom 0 0 0 text else none

end Swatch.Base64
