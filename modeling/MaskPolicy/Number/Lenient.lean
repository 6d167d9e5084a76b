import MaskPolicy.Number.Decimal
import MaskPolicy.Text.Blank

/-!
# Integers in settings

A setting may spell an integer in a few more ways than its decimal notation: with blanks around it,
a plus sign, zeros in front, a fraction of zeros, and single underscores between its digits.
`normal?` brings such a text to decimal notation and `read` reads it. Numbers with too many digits
are not read.
-/

namespace MaskPolicy.Decimal

/-- What comes of reading a text as an integer. -/
inductive Reading where
  | number (n : Int)
  | tooLong
  | unreadable
  deriving DecidableEq, Repr

/-- Read decimal notation, in which a zero in front of other digits is not allowed. -/
def readPlain (t : Text) : Reading :=
  let digits := match t with
    | '-' :: rest => rest
    | _ => t
  match digits with
  | '0' :: _ :: _ => .unreadable
  | _ =>
    match toInt? t with
    | none => .unreadable
    | some n => if digitLimit < digits.length then .tooLong else .number n

/-- The rest of a text after zeros and underscores. A zero is kept when nothing else follows, or the
decimal point. -/
def afterZeros (last : Char) : Text → Option Text
  | [] => some [last]
  | c :: cs =>
    if c = '0' ∨ c = '_' then afterZeros c cs
    else if c.isDigit then some (c :: cs)
    else if c = '.' then some (last :: c :: cs)
    else none

/-- The text without zeros in front; nothing when it does not start like a number. -/
def dropZeros : Text → Option Text
  | [] => none
  | c :: cs =>
    if c = '0' then afterZeros c cs
    else if c.isDigit ∨ c = '-' then some (c :: cs)
    else none

/-- The text without a fraction of zeros. -/
def dropFraction (t : Text) : Text :=
  match t.dropWhile (· ≠ '.') with
  | [] => t
  | _ :: fraction => if fraction.all (· = '0') then t.takeWhile (· ≠ '.') else t

/-- Do underscores stand in the text one at a time and between other characters? -/
def separated : Text → Bool
  | [] => true
  | ['_'] => false
  | '_' :: '_' :: _ => false
  | _ :: rest => separated rest

/-- The text without its underscores, if each separates two characters. -/
def dropSeparators (t : Text) : Text :=
  if t.head? ≠ some '_' ∧ separated t then t.filter (· ≠ '_') else t

/-- The decimal notation of what a text spells, if it starts like a number. -/
def normal? (t : Text) : Option Text :=
  let trimmed := Text.trim Text.isBlank t
  let unsigned? := match trimmed with
    | '+' :: '-' :: _ => none
    | '+' :: rest => some rest
    | rest => some rest
  (unsigned?.bind dropZeros).map (dropSeparators ∘ dropFraction)

/-- Read an integer in any of its spellings. -/
def read (t : Text) : Reading :=
  match normal? t with
  | none => .unreadable
  | some plain => readPlain plain

end MaskPolicy.Decimal
