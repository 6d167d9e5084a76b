import MaskPolicy.Policy.Description
import MaskPolicy.Text.Quoted
import MaskPolicy.Text.Wrap

/-!
# Sections

What commands show on a terminal comes in sections: a title, and records under it. Records are
wrapped and padded to the width of the terminal, with one column of indentation.
-/

namespace MaskPolicy.Command

/-- A section: its title and its records. -/
structure Section where
  title : Text
  records : List Text
  deriving DecidableEq, Repr

namespace Section

/-- The cells of a line after its indentation. -/
def recordWidth : Nat := 79

/-- The lines of a record. -/
def recordLines (content : Text) : List Text :=
  (Text.wrap recordWidth ("=> ".toList ++ content)).map fun line => ' ' :: line.padCells recordWidth

/-- The lines of a section. -/
def lines (s : Section) : List Text :=
  ("[+] ".toList ++ s.title) :: s.records.flatMap recordLines

/-- The section as it is shown. -/
def render (s : Section) : Text := s.lines.flatMap fun line => line ++ ['\n']

end Section

/-- What is shown for the outcome of a check. -/
def resultSection (mask : Text) (r : ValidationResult) : Section where
  title := "Validating password against mask ".toList ++ mask.quoted
  records := (if r.isValid then ["valid".toList] else []) ++ r.errors

/-- The kinds of characters that a mask allows. -/
def typesSection (mask : Text) (d : MaskDescription) : Section where
  title := "Allowed character types for mask ".toList ++ mask.quoted
  records := if d.allowedCharacterTypes.isEmpty then ["none".toList] else d.allowedCharacterTypes

/-- The rules of a mask. -/
def rulesSection (d : MaskDescription) : Section := ⟨"Rules".toList, d.rules⟩

end MaskPolicy.Command
