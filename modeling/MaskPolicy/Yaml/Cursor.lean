import MaskPolicy.Text.Basic

/-!
# A place in a document

A cursor is the rest of a document together with the line and the column of its first character.
Past the end a cursor shows the null character, which no document holds.
-/

namespace MaskPolicy.Yaml

/-- The rest of a document and where it starts. -/
structure Cursor where
  rest : Text
  index : Nat := 0
  line : Nat := 0
  column : Nat := 0

/-- The characters that break lines. -/
def isBreak (c : Char) : Bool :=
  c = '\n' || c = '\r' || c = '\x85' || c = '\u2028' || c = '\u2029'

/-- The ends of a line, with the end of the document. -/
def isLineEnd (c : Char) : Bool := c = '\n' || c = '\r' || c = '\x85' || c = '\x00'

/-- What may follow an indicator: a blank, a tab or the end of a line. -/
def isGap (c : Char) : Bool := c = ' ' || c = '\t' || isLineEnd c

/-- What may follow a name or a directive: a blank or a line break. -/
def endsWord (c : Char) : Bool := c = ' ' || c = '\x00' || isBreak c

namespace Cursor

/-- The character at a distance. -/
def peek (c : Cursor) (distance : Nat) : Char := (c.rest[distance]?).getD '\x00'

/-- The first character. -/
def first (c : Cursor) : Char := c.peek 0

/-- The cursor after its first character. A byte order mark takes no column. -/
def next (c : Cursor) : Cursor :=
  match c.rest with
  | [] => c
  | x :: rest =>
    let newLine := x = '\n' || x = '\x85' || x = '\u2028' || x = '\u2029' ||
      (x = '\r' && rest.head? ≠ some '\n')
    { rest
      index := c.index + 1
      line := if newLine then c.line + 1 else c.line
      column := if newLine then 0 else if x = '\ufeff' then c.column else c.column + 1 }

/-- The cursor some characters on. -/
def skip (c : Cursor) : Nat → Cursor
  | 0 => c
  | n + 1 => c.next.skip n

/-- The characters from the cursor on that satisfy `p`, and the cursor after them. -/
def run (p : Char → Bool) (c : Cursor) : Text × Cursor :=
  let taken := c.rest.takeWhile p
  (taken, c.skip taken.length)

/-- The cursor after the characters that satisfy `p`. -/
def skipRun (p : Char → Bool) (c : Cursor) : Cursor := (c.run p).2

/-- The line break at the cursor as it stands in a value, or nothing, and the cursor after it. -/
def lineBreak (c : Cursor) : Text × Cursor :=
  let x := c.first
  if x = '\u2028' ∨ x = '\u2029' then ([x], c.next)
  else if x = '\r' ∧ c.peek 1 = '\n' then (['\n'], c.skip 2)
  else if x = '\r' ∨ x = '\n' ∨ x = '\x85' then (['\n'], c.next)
  else ([], c)

/-- Does a line that separates documents start with these marks? -/
def atMark (c : Cursor) (mark : Char) : Bool :=
  c.rest.take 3 = [mark, mark, mark] && isGap (c.peek 3)

/-- Is the cursor at a line that separates documents? -/
def atSeparator (c : Cursor) : Bool := c.atMark '-' || c.atMark '.'

/-- The line breaks from the cursor on, with the characters that satisfy `skipped` between them
dropped. A separator after a break ends the search and is reported. The fuel is the length of the
rest. -/
def breaks (skipped : Char → Bool) : Nat → Cursor → Text × Cursor × Bool
  | 0, c => ([], c, false)
  | fuel + 1, c =>
    let c := c.skipRun skipped
    if isBreak c.first then
      let (first, c) := c.lineBreak
      if c.atSeparator then (first, c, true)
      else
        let (more, c, stopped) := breaks skipped fuel c
        (first ++ more, c, stopped)
    else ([], c, false)

end Cursor

end MaskPolicy.Yaml
