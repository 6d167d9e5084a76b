import MaskPolicy.Number.Binary64

/-!
# Rounded decimals

A binary number is exactly a decimal fraction, and is shown with some of its digits: a number of
significant ones, or those up to a place after the decimal point. Rounding is exact, to the nearest,
and a tie goes to the even digit. Digits come without zeros at their end, together with the place of
the decimal point counted from the first digit.
-/

namespace MaskPolicy.Binary64

/-- A finite number, without its sign, as a fraction. -/
def ratio (mantissa : Nat) (exponent : Int) : Nat × Nat :=
  if 0 ≤ exponent then (mantissa * Nat.pow 2 exponent.toNat, 1)
  else (mantissa, Nat.pow 2 (-exponent).toNat)

/-- The digits of a natural number that counts units of `10 ^ -places`, and the place of the point.
-/
def digitsOf (units : Nat) (places : Int) : Text × Int :=
  if units = 0 then (['0'], 1)
  else
    let digits := Decimal.ofNat units
    (Text.trimEnd (· = '0') digits, digits.length - places)

/-- The digits up to a place after the point. Nothing is left of a number that rounds to zero. -/
def toPlaces (places : Nat) (mantissa : Nat) (exponent : Int) : Text × Int :=
  let (num, den) := ratio mantissa exponent
  let units := roundDiv (num * Nat.pow 10 places) den
  if units = 0 ∧ mantissa ≠ 0 then ([], -places) else digitsOf units places

/-- A number of significant digits. -/
def toSignificant (count : Nat) (mantissa : Nat) (exponent : Int) : Text × Int :=
  if mantissa = 0 then (['0'], 1)
  else
    let (num, den) := ratio mantissa exponent
    let point := pointFrom num den (((num.log2 : Int) - den.log2) * 30103 / 100000 - 1) 6
    let places := (count : Int) - point
    let units :=
      if 0 ≤ places then roundDiv (num * Nat.pow 10 places.toNat) den
      else roundDiv num (den * Nat.pow 10 (-places).toNat)
    digitsOf units places

/-- A hundred times a number. -/
def percent : Binary64 → Binary64
  | .finite negative mantissa exponent =>
    let (num, den) := ratio mantissa exponent
    ofRatio negative (100 * num) den
  | x => x

/-- The binary number nearest to an integer. -/
def ofInt (n : Int) : Binary64 := ofRatio (n < 0) n.natAbs 1

end MaskPolicy.Binary64
