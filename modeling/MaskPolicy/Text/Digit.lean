import MaskPolicy.Text.Basic

/-!
# Decimal digits of every script

Scripts write decimal digits with ten consecutive characters each, from their own zero to their own
nine. Numbers on the command line may use any of them; a mask and a setting may not.
-/

namespace MaskPolicy.Text

/-- What holds of the first characters holds of a character that is one of them. -/
theorem of_toNat_lt {bound : Nat} (P : Char → Prop) (h : ∀ n < bound, P (Char.ofNat n)) {c : Char}
    (hc : c.toNat < bound) : P c := by
  have hchar := h c.toNat hc
  rwa [Char.ofNat_toNat] at hchar

/-- The ASCII digits are among the first characters. -/
theorem toNat_lt_of_isDigit {c : Char} (h : c.isDigit = true) : c.toNat < 58 := by
  simp only [Char.isDigit, Bool.and_eq_true, decide_eq_true_eq, UInt32.le_iff_toNat_le] at h
  exact Nat.lt_succ_of_le h.2

/-- The code points of the zeros, one for each script and style of digits. -/
def zeroDigits : List Nat := [
  48, 1632, 1776, 1984, 2406, 2534, 2662, 2790, 2918, 3046, 3174, 3302, 3430, 3558, 3664, 3792,
  3872, 4160, 4240, 6112, 6160, 6470, 6608, 6784, 6800, 6992, 7088, 7232, 7248, 42528, 43216,
  43264, 43472, 43504, 43600, 44016, 65296, 66720, 68912, 69734, 69872, 69942, 70096, 70384,
  70736, 70864, 71248, 71360, 71472, 71904, 72016, 72784, 73040, 73120, 92768, 92864, 93008,
  120782, 120792, 120802, 120812, 120822, 123200, 123632, 125264, 130032]

/-- The value of a decimal digit of any script. -/
def digitValue? (c : Char) : Option Nat :=
  (zeroDigits.find? fun z => decide (z ≤ c.toNat ∧ c.toNat < z + 10)).map (c.toNat - ·)

end MaskPolicy.Text
