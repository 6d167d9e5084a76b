import MaskPolicy.Policy.Basic

/-!
# Masks

A mask is eleven decimal digits: for each class in mask order a flag and an index, and at the end
the minimum length. Only the flag `1` allows a class, and a minimum length of zero means one. Every
mask denotes a policy once an alphabet is given, and every policy has a mask, the canonical one
among those that denote it.
-/

namespace MaskPolicy

/-- The two digits of a mask that speak about one class. -/
structure MaskPair where
  flag : Fin 10
  index : Fin 10
  deriving DecidableEq, Repr

/-- The rule that a pair of digits denotes: the class is allowed by the flag `1` and by no other. -/
def MaskPair.rule (d : MaskPair) : Rule := ⟨d.flag = 1, d.index⟩

/-- The canonical pair of digits for a rule. -/
def Rule.pair (r : Rule) : MaskPair := ⟨if r.allowed then 1 else 0, r.index⟩

/-- The pair written for a rule denotes the rule. -/
theorem Rule.rule_pair (r : Rule) : r.pair.rule = r := by
  obtain ⟨allowed, index⟩ := r
  cases allowed <;> simp [pair, MaskPair.rule]

/-- Eleven decimal digits. -/
structure Mask where
  uppercase : MaskPair
  lowercase : MaskPair
  digitsLow : MaskPair
  digitsHigh : MaskPair
  special : MaskPair
  length : Fin 10
  deriving DecidableEq, Repr

namespace Mask

/-- The digits of a mask, from left to right. -/
def digits (m : Mask) : List (Fin 10) :=
  [m.uppercase.flag, m.uppercase.index, m.lowercase.flag, m.lowercase.index,
    m.digitsLow.flag, m.digitsLow.index, m.digitsHigh.flag, m.digitsHigh.index,
    m.special.flag, m.special.index, m.length]

/-- The mask with the given digits, if there are eleven. -/
def ofDigits? : List (Fin 10) → Option Mask
  | [a, b, c, d, e, f, g, h, i, j, k] =>
    some ⟨⟨a, b⟩, ⟨c, d⟩, ⟨e, f⟩, ⟨g, h⟩, ⟨i, j⟩, k⟩
  | _ => none

/-- The value of an ASCII digit. -/
def digit? (c : Char) : Option (Fin 10) :=
  if c.isDigit then some (Fin.ofNat 10 (c.toNat - '0'.toNat)) else none

/-- The character of a digit. -/
def digitChar (d : Fin 10) : Char := Nat.digitChar d.val

/-- The mask that a text spells: exactly eleven ASCII digits and nothing else. -/
def ofText? (t : Text) : Option Mask := (t.mapM digit?).bind ofDigits?

/-- The text of a mask. -/
def text (m : Mask) : Text := m.digits.map digitChar

/-- The minimum length that the last digit denotes: zero is read as one. -/
def minLength (m : Mask) : Nat := max 1 m.length.val

/-- The policy that a mask denotes with an alphabet. -/
def policy {σ : Type} (m : Mask) (alphabet : List σ) : Policy σ where
  uppercase := m.uppercase.rule
  lowercase := m.lowercase.rule
  digitsLow := m.digitsLow.rule
  digitsHigh := m.digitsHigh.rule
  special := m.special.rule
  minLength := m.minLength
  one_le_minLength := by unfold minLength; omega
  minLength_le_nine := by unfold minLength; omega
  alphabet

end Mask

/-- The canonical mask of a policy. -/
def Policy.mask {σ : Type} (p : Policy σ) : Mask where
  uppercase := p.uppercase.pair
  lowercase := p.lowercase.pair
  digitsLow := p.digitsLow.pair
  digitsHigh := p.digitsHigh.pair
  special := p.special.pair
  length := ⟨p.minLength, by have := p.minLength_le_nine; omega⟩

/-- The numbers that the mask of a policy lists: the flag and the index of each class in mask order,
and at the end the minimum length. -/
def Policy.numbers {σ : Type} (p : Policy σ) : List Nat :=
  (CharClass.all.flatMap fun c => [(p.rule c).allowed.toNat, (p.rule c).index.val]) ++ [p.minLength]

/-- A policy as a text: its numbers in decimal notation, one right after another. -/
def Policy.encode {σ : Type} (p : Policy σ) : Text := p.numbers.flatMap Decimal.ofNat

namespace Mask

theorem ofDigits?_digits (m : Mask) : ofDigits? m.digits = some m := rfl

/-- A digit is read back from its character. -/
theorem digit?_digitChar (d : Fin 10) : digit? (digitChar d) = some d := by
  revert d
  decide

/-- A mask is read back from its text. -/
theorem ofText?_text (m : Mask) : ofText? m.text = some m := by
  simp [ofText?, text, digits, digit?_digitChar, ofDigits?]

theorem ofNat_eq_digitChar (d : Fin 10) : Decimal.ofNat d.val = [digitChar d] :=
  Nat.toDigits_of_lt_base d.isLt

end Mask

/-- No number of a policy takes more than one digit, so its text is the text of its mask. -/
theorem Policy.encode_eq_text {σ : Type} (p : Policy σ) : p.encode = p.mask.text := by
  have flag (b : Bool) : Decimal.ofNat b.toNat = [Mask.digitChar (if b then 1 else 0)] := by
    cases b <;> rfl
  have length : Decimal.ofNat p.minLength = [Mask.digitChar p.mask.length] :=
    Mask.ofNat_eq_digitChar p.mask.length
  simp [encode, numbers, CharClass.all, rule, flag, length, Mask.ofNat_eq_digitChar, Mask.text,
    Mask.digits, mask, Rule.pair]

/-- The mask of a policy denotes the policy. -/
theorem Policy.policy_mask {σ : Type} (p : Policy σ) : p.mask.policy p.alphabet = p := by
  obtain ⟨u, l, dl, dh, s, n, h1, h9, a⟩ := p
  have hn : max 1 n = n := by omega
  simp [Mask.policy, Policy.mask, Rule.rule_pair, Mask.minLength, hn]

end MaskPolicy
