import MaskPolicy.Text.Blank
import MaskPolicy.Text.Cells

/-!
# Wrapped text

Text is laid out in lines of a bounded number of cells. Its words, each with the spacing after it,
go on a line as long as the word itself fits. A word wider than a line is cut, and spacing that
reaches over the end of a line is cropped. Every line fits, and splitting into words loses nothing.
-/

namespace MaskPolicy.Text

/-- Characters that move the cursor of a terminal in ways a layout cannot follow. -/
def isCursorControl (c : Char) : Bool := [7, 8, 11, 12, 13].contains c.toNat

/-- The spacing at the start of a text, and its words, each with the spacing after it. -/
def words : Text → Text × List Text
  | [] => ([], [])
  | c :: rest =>
    match words rest with
    | (space, ws) =>
      if isSpacing c then (c :: space, ws)
      else match space, ws with
        | [], w :: ws => ([], (c :: w) :: ws)
        | space, ws => ([], (c :: space) :: ws)

/-- The words of a text, each with the spacing after it, and the first with the spacing before it.
-/
def chunks (t : Text) : List Text :=
  match words t with
  | (space, []) => if space.isEmpty then [] else [space]
  | (space, w :: ws) => (space ++ w) :: ws

/-- A text cut into pieces that each fit in a number of cells, after a piece with some cells in use.
-/
def cut (width : Nat) : (piece : Text) → (used : Nat) → Text → List Text
  | piece, _, [] => [piece]
  | piece, used, c :: rest =>
    if width < used + cellWidth c then piece :: cut width [c] (cellWidth c) rest
    else cut width (piece ++ [c]) (used + cellWidth c) rest

/-- The lines of some chunks, after a line with some cells in use. -/
def fill (width : Nat) : (line : Text) → (used : Nat) → List Text → List Text
  | line, _, [] => [line]
  | line, used, chunk :: rest =>
    let word := cells (trimEnd isSpacing chunk)
    if used + word ≤ width then fill width (line ++ chunk) (used + cells chunk) rest
    else if word ≤ width then line :: fill width chunk (cells chunk) rest
    else
      let pieces := cut width [] 0 chunk
      let last := (pieces.getLast?).getD []
      (if line.isEmpty then [] else [line]) ++ pieces.dropLast ++ fill width last (cells last) rest

/-- The number of columns between tab stops. -/
def tabWidth : Nat := 8

/-- Texts that tabs separate, with each tab replaced by blanks up to the next stop. -/
def expandPieces (column : Nat) : List Text → Text
  | [] => []
  | [piece] => piece
  | piece :: rest =>
    let after := column + cells (piece ++ [' '])
    let more := (tabWidth - after % tabWidth) % tabWidth
    piece ++ ' ' :: List.replicate more ' ' ++ expandPieces (after + more) rest

/-- The text with its tabs replaced by blanks. -/
def expandTabs (t : Text) : Text := expandPieces 0 (splitOn '\t' t)

/-- The text without as much of the spacing at its end as there are characters over a number. -/
def trimOverhang (width : Nat) (t : Text) : Text :=
  t.take (t.length - min (t.length - width) (t.reverse.takeWhile isSpacing).length)

/-- The lines of a text without line ends. -/
def wrapLine (width : Nat) (t : Text) : List Text :=
  (fill width [] 0 (chunks (expandTabs t))).map fun line => crop width (trimOverhang width line)

/-- The lines of a text. -/
def wrap (width : Nat) (t : Text) : List Text :=
  (splitOn '\n' (t.filter fun c => !isCursorControl c)).flatMap (wrapLine width)

end MaskPolicy.Text
