import MaskPolicy.Number.Decimal

/-!
# Binary floating-point numbers

A number with a fraction or an exponent is kept as the nearest binary number of 53 significant bits.
Rounding is exact arithmetic on natural numbers, to the nearest and a tie to the even neighbour. A
number is shown with the fewest digits that read back as the number; a `Style` says where positional
notation ends and how an exponent is written.
-/

namespace MaskPolicy

/-- A binary number: a sign, a mantissa below `2 ^ 53` and an exponent of two, or a special value.
-/
inductive Binary64 where
  | finite (negative : Bool) (mantissa : Nat) (exponent : Int)
  | infinite (negative : Bool)
  | nan
  deriving DecidableEq, Repr, Inhabited

namespace Binary64

/-- The least exponent of a finite number. -/
def leastExponent : Int := -1074

/-- The greatest exponent of a finite number. -/
def greatestExponent : Int := 971

/-- A quotient rounded to the nearest natural number, a tie to the even one. -/
def roundDiv (num den : Nat) : Nat :=
  let quotient := num / den
  let twice := 2 * (num % den)
  if twice < den ∨ (twice = den ∧ quotient % 2 = 0) then quotient else quotient + 1

/-- A fraction scaled by a power of two: `num / den / 2 ^ exponent`. -/
def scaled (num den : Nat) (exponent : Int) : Nat × Nat :=
  if 0 ≤ exponent then (num, den * Nat.pow 2 exponent.toNat)
  else (num * Nat.pow 2 (-exponent).toNat, den)

/-- The binary number nearest to `num / den`. -/
def ofRatio (negative : Bool) (num den : Nat) : Binary64 :=
  if num = 0 then .finite negative 0 leastExponent
  else
    let low : Int := max ((num.log2 : Int) - den.log2 - 53) leastExponent
    let (n, d) := scaled num den low
    let exponent := if Nat.pow 2 53 ≤ n / d then low + 1 else low
    let (n, d) := scaled num den exponent
    let mantissa := roundDiv n d
    let (mantissa, exponent) :=
      if mantissa = Nat.pow 2 53 then (Nat.pow 2 52, exponent + 1) else (mantissa, exponent)
    if greatestExponent < exponent then .infinite negative
    else .finite negative mantissa exponent

/-- The binary number nearest to `significand * 10 ^ power`. Powers far outside the range of the
finite numbers are not computed. -/
def ofDecimal (negative : Bool) (significand : Nat) (power : Int) : Binary64 :=
  let magnitude : Int := (Decimal.ofNat significand).length + power
  if significand = 0 ∨ magnitude < -330 then .finite negative 0 leastExponent
  else if 310 < magnitude then .infinite negative
  else if 0 ≤ power then ofRatio negative (significand * Nat.pow 10 power.toNat) 1
  else ofRatio negative significand (Nat.pow 10 (-power).toNat)

/-- The integer that a finite number without a fraction is. -/
def toInt? : Binary64 → Option Int
  | .finite negative mantissa exponent =>
    let signed (n : Nat) : Int := if negative then -(n : Int) else n
    if 0 ≤ exponent then some (signed (mantissa * Nat.pow 2 exponent.toNat))
    else
      let unit := Nat.pow 2 (-exponent).toNat
      if mantissa % unit = 0 then some (signed (mantissa / unit)) else none
  | _ => none

/-- A number is zero when its mantissa is. -/
def isZero : Binary64 → Bool
  | .finite _ mantissa _ => mantissa = 0
  | _ => false

/-! ## The fewest digits that read back -/

/-- A positive number and the ends of the interval that rounds to it, over one denominator; the ends
belong to the interval when the mantissa is even. -/
structure Neighbourhood where
  value : Nat
  low : Nat
  high : Nat
  den : Nat
  closed : Bool

/-- The neighbourhood of `mantissa * 2 ^ exponent`. Below a power of two the gap is half as wide. -/
def neighbourhood (mantissa : Nat) (exponent : Int) : Neighbourhood :=
  let narrow := mantissa = Nat.pow 2 52 ∧ leastExponent < exponent
  let (unit, den) := scaledUnit (exponent - 2)
  { value := 4 * mantissa * unit
    low := (4 * mantissa - if narrow then 1 else 2) * unit
    high := (4 * mantissa + 2) * unit
    den
    closed := mantissa % 2 = 0 }
where
  /-- A power of two as a fraction. -/
  scaledUnit (power : Int) : Nat × Nat :=
    if 0 ≤ power then (Nat.pow 2 power.toNat, 1) else (1, Nat.pow 2 (-power).toNat)

/-- A power of ten as a fraction. -/
def tenPower (power : Int) : Nat × Nat :=
  if 0 ≤ power then (Nat.pow 10 power.toNat, 1) else (1, Nat.pow 10 (-power).toNat)

/-- The least `point`, from the given one upwards, such that the value is below `10 ^ point`. -/
def pointFrom (value den : Nat) (point : Int) : Nat → Int
  | 0 => point
  | fuel + 1 =>
    let (num, below) := tenPower point
    if value * below < num * den then point else pointFrom value den (point + 1) fuel

/-- Does `digits * 10 ^ power` round to the number of this neighbourhood? -/
def Neighbourhood.holds (n : Neighbourhood) (digits : Nat) (power : Int) : Bool :=
  let (num, below) := tenPower power
  let given := digits * num * n.den
  if n.closed then n.low * below ≤ given && given ≤ n.high * below
  else n.low * below < given && given < n.high * below

/-- The nearer of the two neighbours of the value on the grid of multiples of `10 ^ power`, among
those that round to the number. -/
def Neighbourhood.onGrid? (n : Neighbourhood) (power : Int) : Option Nat :=
  let (num, below) := tenPower power
  let step := num * n.den
  let down := n.value * below / step
  let rest := n.value * below - down * step
  match n.holds down power, n.holds (down + 1) power with
  | true, true =>
    some (if 2 * rest < step ∨ (2 * rest = step ∧ down % 2 = 0) then down else down + 1)
  | true, false => some down
  | false, true => some (down + 1)
  | false, false => none

/-- The first grid, of the given number of digits and finer ones, with a point that rounds to the
number. -/
def Neighbourhood.search (n : Neighbourhood) (point : Int) (count : Nat) : Nat → Nat × Int
  | 0 => (n.value / n.den, 0)
  | fuel + 1 =>
    match n.onGrid? (point - count) with
    | some digits => (digits, point - count)
    | none => n.search point (count + 1) fuel

/-- The shortest decimal of a positive number: its digits, and the place of the decimal point
counted from the first digit. -/
def shortest (mantissa : Nat) (exponent : Int) : Text × Int :=
  let n := neighbourhood mantissa exponent
  let start := ((n.value.log2 : Int) - n.den.log2) * 30103 / 100000 - 1
  let point := pointFrom n.value n.den start 6
  let (digits, power) := n.search point 1 17
  let text := Decimal.ofNat digits
  (Text.trimEnd (· = '0') text, text.length + power)

/-! ## Written forms -/

/-- How numbers are written: the places of the decimal point that keep positional notation, the form
of the exponent, and the words for the special values. -/
structure Style where
  lowestPoint : Int
  highestPoint : Int
  plusSign : Bool
  exponentWidth : Nat
  infinity : Text
  negativeInfinity : Text
  notANumber : Text

/-- Digits with a decimal point at a place that may lie before or after them. -/
def positional (digits : Text) (point : Int) : Text :=
  if point ≤ 0 then "0.".toList ++ List.replicate (-point).toNat '0' ++ digits
  else if digits.length ≤ point.toNat then
    Text.padEnd point.toNat '0' digits ++ ".0".toList
  else digits.take point.toNat ++ '.' :: digits.drop point.toNat

/-- Digits with the decimal point after the first one, and an exponent of ten. -/
def scientific (style : Style) (digits : Text) (point : Int) : Text :=
  let exponent := point - 1
  let sign := if exponent < 0 then ['-'] else if style.plusSign then ['+'] else []
  let fraction := if digits.length ≤ 1 then [] else '.' :: digits.drop 1
  digits.take 1 ++ fraction ++ 'e' :: sign ++
    Text.padStart style.exponentWidth '0' (Decimal.ofNat exponent.natAbs)

/-- The text of a number. -/
def render (style : Style) : Binary64 → Text
  | .nan => style.notANumber
  | .infinite false => style.infinity
  | .infinite true => style.negativeInfinity
  | .finite negative mantissa exponent =>
    let body :=
      if mantissa = 0 then "0.0".toList
      else
        let (digits, point) := shortest mantissa exponent
        if style.lowestPoint ≤ point ∧ point ≤ style.highestPoint then positional digits point
        else scientific style digits point
    if negative then '-' :: body else body

end Binary64

end MaskPolicy
