import MaskPolicy.Number.Rounded
import MaskPolicy.Template.Layout

/-!
# Layouts of numbers with a fraction

A number with a fraction is shown with a number of places, with a number of significant digits, or
with the fewest digits that read back; positional, with an exponent, or as the size of the number
asks. Without a presentation it always keeps a digit after the point.
-/

namespace MaskPolicy.Layout

/-- How the digits of a number are laid out. -/
structure Arrangement where
  /-- The digits, and the place of the point counted from the first of them. -/
  digits : Text
  point : Int
  /-- Is an exponent shown? -/
  exponent : Bool
  /-- The place up to which digits are shown. -/
  last : Int
  /-- Is there always a digit after the point? -/
  fraction : Bool
  /-- Is the point kept when nothing follows it? -/
  keepPoint : Bool

/-- The digit at a place; places beyond the digits hold zeros. -/
def digitAt (digits : Text) (place : Int) : Char :=
  if place < 0 then '0' else (digits[place.toNat]?).getD '0'

/-- The digits from one place to before another. -/
def digitsFrom (digits : Text) (first past : Int) : Text :=
  (List.range (past - first).toNat).map fun (i : Nat) => digitAt digits (first + (i : Int))

/-- An exponent of ten with its sign and two digits at least. -/
def exponentText (exponent : Int) : Text :=
  'e' :: (if exponent < 0 then '-' else '+') ::
    Text.padStart 2 '0' (Decimal.ofNat exponent.natAbs)

/-- The digits before the point, and everything from the point on. -/
def Arrangement.parts (a : Arrangement) : Text × Text :=
  let point := if a.exponent then 1 else a.point
  let last := max a.last (if a.fraction && !a.exponent then point + 1 else point)
  let after := digitsFrom a.digits point last
  let tail := if after.isEmpty && !a.keepPoint then [] else '.' :: after
  (digitsFrom a.digits (min 0 (point - 1)) point,
    tail ++ if a.exponent then exponentText (a.point - 1) else [])

/-- The precision of a presentation that asks for none. -/
def standardPrecision : Nat := 6

/-- A number of significant digits, with an exponent unless the point lies among them or not far
before them. -/
def general (count : Nat) (fraction keepPoint : Bool) (mantissa : Nat) (exponent : Int) :
    Arrangement :=
  let count := max 1 count
  let (digits, point) := Binary64.toSignificant count mantissa exponent
  { digits, point, fraction, keepPoint
    exponent := point ≤ -4 || (if fraction then (count : Int) - 1 else count) < point
    last := if keepPoint then count else digits.length }

/-- The arrangement of a finite number for a presentation. -/
def arrangement (l : Layout) (mantissa : Nat) (exponent : Int) : Arrangement :=
  let count := l.precision.getD standardPrecision
  match l.kind.map Char.toLower with
  | none =>
    match l.precision with
    | some count => general count true l.alternate mantissa exponent
    | none =>
      let (digits, point) :=
        if mantissa = 0 then (['0'], 1) else Binary64.shortest mantissa exponent
      { digits, point, exponent := point ≤ -4 || 16 < point, last := digits.length
        fraction := true, keepPoint := l.alternate }
  | some 'e' =>
    let (digits, point) := Binary64.toSignificant (count + 1) mantissa exponent
    { digits, point, exponent := true, last := count + 1, fraction := false
      keepPoint := l.alternate }
  | some 'g' => general count false l.alternate mantissa exponent
  | some 'n' => general count false l.alternate mantissa exponent
  | some _ =>
    let (digits, point) := Binary64.toPlaces count mantissa exponent
    { digits, point, exponent := false, last := point + count, fraction := false
      keepPoint := l.alternate }

/-- The presentations of numbers with a fraction. -/
def realKinds : List Char := ['e', 'E', 'f', 'F', 'g', 'G', 'n', '%']

/-- The largest precision of a number with a fraction. -/
def precisionLimit : Nat := Nat.pow 2 31 - 1

/-- Numbers with a fraction, for layouts. -/
def realKind : Presented := ⟨"float".toList, none⟩

/-- The sign of a number, its digits before the point, and the rest. -/
def realParts (l : Layout) : Binary64 → Bool × Text × Text
  | .nan => (false, [], "nan".toList)
  | .infinite negative => (negative, [], "inf".toList)
  | .finite negative mantissa exponent =>
    let a := l.arrangement mantissa exponent
    let isZero := a.digits.all (· = '0')
    (negative && !(l.plainZero && isZero), a.parts.1, a.parts.2)

/-- A number with a fraction in its field. -/
def real (l : Layout) (x : Binary64) : Except LayoutError Text :=
  match l.kind.filter fun kind => kind ∉ realKinds with
  | some kind => .error (unknownKind kind realKind)
  | none =>
    if precisionLimit < l.precision.getD 0 then .error (.refused "precision too big".toList)
    else
      let isPercent := l.kind = some '%'
      let (negative, digits, rest) := l.realParts (if isPercent then x.percent else x)
      let rest := if isPercent then rest ++ ['%'] else rest
      let rest := if l.kind.any Char.isUpper then Text.upper rest else rest
      l.number 3 (l.signOf negative) digits rest

/-- A whole number in its field: as an integer, or as a number with a fraction if that is asked for.
-/
def whole (l : Layout) (value : Presented) (n : Int) : Except LayoutError Text :=
  if l.kind.any (· ∈ realKinds.erase 'n') then
    match Binary64.ofInt n with
    | .infinite _ => .error .overflow
    | x => l.real x
  else l.integer value n

end MaskPolicy.Layout
