/-!
# Text

A text is the list of its code points. Lengths, positions and "one character" are all counted in
code points, and every format of this library is a function on such lists.
-/

namespace MaskPolicy

/-- A text, as the list of its code points. -/
abbrev Text := List Char

namespace Text

/-- Membership of a code point in a list of ranges, ends included. -/
def inRanges (ranges : List (Nat × Nat)) (n : Nat) : Bool :=
  ranges.any fun (lo, hi) => decide (lo ≤ n ∧ n ≤ hi)

/-- The pieces between the occurrences of `sep`; there is always at least one. -/
def splitOn (sep : Char) : Text → List Text
  | [] => [[]]
  | c :: cs =>
    if c = sep then [] :: splitOn sep cs
    else match splitOn sep cs with
      | [] => [[c]]
      | piece :: pieces => (c :: piece) :: pieces

/-- Texts one after another, with `sep` between neighbours. -/
def joinWith (sep : Text) (parts : List Text) : Text := List.intercalate sep parts

/-- The text without the characters at its end that satisfy `p`. -/
def trimEnd (p : Char → Bool) (t : Text) : Text := (t.reverse.dropWhile p).reverse

/-- The text without the characters at its two ends that satisfy `p`. -/
def trim (p : Char → Bool) (t : Text) : Text := trimEnd p (t.dropWhile p)

/-- The rest after `start`, when the text begins with it. -/
def dropStart? : (start : Text) → Text → Option Text
  | [], t => some t
  | _ :: _, [] => none
  | s :: ss, c :: cs => if s = c then dropStart? ss cs else none

/-- Letters of the two cases are the same letter here; the Kelvin sign is an uppercase `k`. -/
def lowerChar (c : Char) : Char := if c = '\u212a' then 'k' else c.toLower

/-- The text in lower case. -/
def lower (t : Text) : Text := t.map lowerChar

/-- The text in ASCII upper case. -/
def upper (t : Text) : Text := t.map Char.toUpper

/-- The text with characters added on the left up to a length. -/
def padStart (width : Nat) (fill : Char) (t : Text) : Text :=
  List.replicate (width - t.length) fill ++ t

/-- The text with characters added on the right up to a length. -/
def padEnd (width : Nat) (fill : Char) (t : Text) : Text :=
  t ++ List.replicate (width - t.length) fill

end Text

end MaskPolicy
