import MaskPolicy.Number.Lenient
import MaskPolicy.Text.Digit

/-!
# Integers on the command line

An integer on the command line may have blanks around it, a sign, and single underscores between its
digits, which may be the digits of any script. Numbers of more digits than a setting may have are
not read.
-/

namespace MaskPolicy.Decimal

/-- The values of the digits of a text, in which single underscores may separate digits. -/
def digitValues? (t : Text) : Option (List Nat) :=
  ((Text.splitOn '_' t).mapM fun (piece : Text) =>
    if piece.isEmpty then none else piece.mapM Text.digitValue?).map List.flatten

/-- The number with the given digits, the first one the most significant. -/
def ofDigits (digits : List Nat) : Nat := digits.foldl (fun n d => 10 * n + d) 0

/-- The number without a sign that a text spells. -/
def unsigned? (t : Text) : Option Nat :=
  match digitValues? t with
  | none => none
  | some digits => if digitLimit < digits.length then none else some (ofDigits digits)

/-- The integer that a text spells in any script. -/
def readAnyScript? (t : Text) : Option Int :=
  match Text.trim Text.isBlank t with
  | '-' :: rest => (unsigned? rest).map fun n => -(n : Int)
  | '+' :: rest => (unsigned? rest).map Int.ofNat
  | rest => (unsigned? rest).map Int.ofNat

end MaskPolicy.Decimal
