import Mathlib.Data.Nat.Digits.Defs
import MaskPolicy.Draw.Twister

/-!
# Numbers in the stream of outputs

The outputs of a generator are a stream of words, and a number of a count of bits is made of some of
them that follow one another. They are its digits in base `2 ^ 32`, the lowest first, and the last
one drops the bits that would be too many. So the number is below the power of two of its count.
-/

namespace MaskPolicy.Twister

/-- The generator after some outputs. -/
def skip (t : Twister) : Nat → Twister
  | 0 => t
  | n + 1 => skip t.output.2 n

/-- The output at a place of the stream. -/
def stream (t : Twister) (place : Nat) : Nat := (t.skip place).output.1.toNat

/-- How many words a number of a count of bits takes. -/
def wordCount (count : Nat) : Nat := (count + 31) / 32

/-- The words of a number of a count of bits that starts at a place of the stream. Only the last of
them can reach beyond the count, and it keeps its high bits. -/
def wordsAt (t : Twister) (count place : Nat) : List Nat :=
  (List.range (wordCount count)).map fun i => t.stream (place + i) >>> (32 * (i + 1) - count)

/-- The number of a count of bits that starts at a place of the stream. -/
def numberAt (t : Twister) (count place : Nat) : Nat :=
  Nat.ofDigits (2 ^ 32) (t.wordsAt count place)

variable (t : Twister)

/-- Outputs are skipped one after another. -/
theorem skip_add (m n : Nat) : t.skip (m + n) = (t.skip m).skip n := by
  induction m generalizing t with
  | zero => rw [Nat.zero_add, skip]
  | succ m ih => rw [Nat.succ_add, skip, skip, ih]

theorem stream_skip (m place : Nat) : (t.skip m).stream place = t.stream (m + place) := by
  rw [stream, stream, skip_add]

/-- A number is found by its place in what is left of the stream. -/
theorem numberAt_skip (count m place : Nat) :
    (t.skip m).numberAt count place = t.numberAt count (m + place) := by
  simp only [numberAt, wordsAt, stream_skip, Nat.add_assoc]

private theorem numberAt_of_le {count : Nat} (hpos : 0 < count) (hle : count ≤ 32) :
    t.numberAt count 0 = t.stream 0 >>> (32 - count) := by
  have hwords : wordCount count = 1 := by
    unfold wordCount
    omega
  simp [numberAt, wordsAt, hwords]

private theorem numberAt_of_lt {count : Nat} (hlt : 32 < count) :
    t.numberAt count 0 = t.stream 0 + 2 ^ 32 * (t.skip 1).numberAt (count - 32) 0 := by
  have hwords : wordCount count = wordCount (count - 32) + 1 := by
    unfold wordCount
    omega
  have hlow : 32 * (0 + 1) - count = 0 := by omega
  have hhigh : ∀ i, 32 * (i + 1 + 1) - count = 32 * (i + 1) - (count - 32) := by
    intro i
    omega
  rw [numberAt_skip, numberAt, numberAt, wordsAt, wordsAt, hwords, List.range_succ_eq_map,
    List.map_cons, List.map_map, Nat.ofDigits_cons, hlow]
  simp only [Function.comp_def, Nat.succ_eq_add_one, hhigh, Nat.zero_add, Nat.add_comm 1,
    Nat.shiftRight_zero]

private theorem bits_of_le {count : Nat} (hle : count ≤ 32) :
    t.bits count = ((t.output.1 >>> UInt32.ofNat (32 - count)).toNat, t.output.2) := by
  rw [bits]
  simp only [if_pos hle]

private theorem bits_of_lt {count : Nat} (hlt : 32 < count) :
    t.bits count = (t.output.1.toNat + Nat.pow 2 32 * (t.output.2.bits (count - 32)).1,
      (t.output.2.bits (count - 32)).2) := by
  rw [bits]
  simp only [if_neg (Nat.not_le.mpr hlt)]

/-- The next number of a count of bits is the one at the start of the stream, and its words are gone
afterwards. -/
theorem bits_eq {count : Nat} (hpos : 0 < count) :
    t.bits count = (t.numberAt count 0, t.skip (wordCount count)) := by
  induction count using Nat.strongRecOn generalizing t with
  | ind count ih =>
    rcases Nat.lt_or_ge 32 count with hlt | hle
    · have hwords : wordCount count = wordCount (count - 32) + 1 := by
        unfold wordCount
        omega
      rw [bits_of_lt t hlt, ih (count - 32) (by omega) t.output.2 (by omega),
        numberAt_of_lt t hlt, hwords]
      rfl
    · have hwords : wordCount count = 1 := by
        unfold wordCount
        omega
      have hshift : (UInt32.ofNat (32 - count)).toNat % 32 = 32 - count := by
        rw [UInt32.toNat_ofNat']
        omega
      rw [bits_of_le t hle, numberAt_of_le t hpos hle, hwords, UInt32.toNat_shiftRight, hshift]
      rfl

end MaskPolicy.Twister
