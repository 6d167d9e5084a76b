import MaskPolicy.Text.CellRanges

/-!
# Cells

The width of a text on a terminal, in cells. A character takes none, one or two. A joiner merges the
character after it into the one before, and a variation selector widens the narrow pictograph before
it.
-/

namespace MaskPolicy.Text

/-- Is the character a control character? -/
def isControl (c : Char) : Bool := c.toNat < 0x20 || (0x7f ≤ c.toNat && c.toNat < 0xa0)

/-- The cells of a character on its own. -/
def cellWidth (c : Char) : Nat :=
  if isControl c || inRanges zeroWidthRanges c.toNat then 0
  else if inRanges doubleWidthRanges c.toNat then 2
  else 1

/-- Joins the characters on its two sides. -/
def joiner : Char := '\u200d'

/-- Asks for the pictograph form of the character before it. -/
def selector : Char := '\ufe0f'

/-- Does the pictograph form of a character take one more cell? -/
def isWidened (c : Char) : Bool := inRanges widenedRanges c.toNat

/-- The cells of a text that follows `last`, the latest character that took cells and has not been
widened. -/
def cellsAfter (last : Option Char) : Text → Nat
  | [] => 0
  | c :: rest =>
    if c = joiner then
      match rest with
      | [] => 0
      | _ :: rest => cellsAfter last rest
    else if c = selector then
      (if last.any isWidened then 1 else 0) + cellsAfter none rest
    else if cellWidth c = 0 then cellsAfter last rest
    else cellWidth c + cellsAfter (some c) rest

/-- The cells of a text. -/
def cells (t : Text) : Nat := cellsAfter none t

/-- The text with blanks added up to a number of cells. -/
def padCells (width : Nat) (t : Text) : Text := t ++ List.replicate (width - cells t) ' '

/-- The longest start of a reversed text, read forwards, that fits in a number of cells. -/
def cropReversed (width : Nat) : Text → Text
  | [] => []
  | c :: rest =>
    if cells (c :: rest).reverse ≤ width then (c :: rest).reverse else cropReversed width rest

/-- The longest start of a text that fits in a number of cells. -/
def crop (width : Nat) (t : Text) : Text := cropReversed width t.reverse

end MaskPolicy.Text
