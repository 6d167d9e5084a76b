import MaskPolicy.Text.Basic

/-!
# Blank characters

Two classes of blank characters. `isBlank` is the white space of the Unicode character database and
is what may surround a number. `isSpacing` adds the four information separators; it is what
separates words in wrapped text and what may surround the word for a switch.
-/

namespace MaskPolicy.Text

/-- White space: controls that move the cursor, the spaces, and the line and paragraph separators.
-/
def isBlank (c : Char) : Bool :=
  inRanges [(0x09, 0x0d), (0x20, 0x20), (0x85, 0x85), (0xa0, 0xa0), (0x1680, 0x1680),
    (0x2000, 0x200a), (0x2028, 0x2029), (0x202f, 0x202f), (0x205f, 0x205f),
    (0x3000, 0x3000)] c.toNat

/-- White space or an information separator. -/
def isSpacing (c : Char) : Bool := isBlank c || inRanges [(0x1c, 0x1f)] c.toNat

end MaskPolicy.Text
