import MaskPolicy.Text.Basic

/-!
# Decimal notation of integers

Integers are written in plain decimal notation, a minus sign in front of the negative ones. Reading
back is defined on digits alone; the notations that settings and the command line accept are built
on it. Numbers of more than 4300 digits are not read from settings and words, and not written in
messages; documents may hold them.
-/

namespace MaskPolicy.Decimal

/-- The decimal digits of a natural number, without leading zeros. -/
def ofNat (n : Nat) : Text := Nat.toDigits 10 n

/-- The decimal notation of an integer. -/
def ofInt : Int → Text
  | .ofNat n => ofNat n
  | .negSucc n => '-' :: ofNat (n + 1)

/-- How many digits of a number are read, or written in a message, at most. -/
def digitLimit : Nat := 4300

/-- An integer that can be written in a message. -/
def Writable (n : Int) : Prop := (ofNat n.natAbs).length ≤ digitLimit

instance (n : Int) : Decidable (Writable n) := Nat.decLe _ _

/-- An integer can be written when another one that is as large can. -/
theorem Writable.mono {m n : Int} (h : Writable n) (hle : m.natAbs ≤ n.natAbs) : Writable m := by
  have hiff {k : Nat} : (ofNat k).length ≤ digitLimit ↔ k < 10 ^ digitLimit :=
    Nat.length_toDigits_le_iff (by decide) (by decide)
  exact hiff.mpr (Nat.lt_of_le_of_lt hle (hiff.mp h))

/-- The number that a text of digits denotes; nothing for an empty text or another character. -/
def toNat? (t : Text) : Option Nat :=
  if t ≠ [] ∧ t.all Char.isDigit then some (Nat.ofDigitChars 10 t 0) else none

/-- The number that a text of digits, after an optional minus sign, denotes. -/
def toInt? : Text → Option Int
  | '-' :: t => (toNat? t).map fun n => -(n : Int)
  | t => (toNat? t).map Int.ofNat

/-- No digit is a minus sign. -/
theorem ofNat_head (n : Nat) : ∃ c t, ofNat n = c :: t ∧ c.isDigit = true := by
  cases h : ofNat n with
  | nil => exact absurd h Nat.toDigits_ne_nil
  | cons c t =>
    refine ⟨c, t, rfl, Nat.isDigit_of_mem_toDigits (b := 10) (n := n) (by decide) (by decide) ?_⟩
    rw [show Nat.toDigits 10 n = c :: t from h]
    exact List.mem_cons_self

end MaskPolicy.Decimal
