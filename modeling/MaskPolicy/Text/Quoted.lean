import MaskPolicy.Text.Printable

/-!
# Quoted text

A text is shown between quotes so that its ends and its invisible characters can be seen. Single
quotes are used, or double quotes when the text holds single quotes only. The quote in use, the
backslash, the line ends and the tab are escaped by a backslash, and every other character that is
not printable by the hexadecimal digits of its code point.
-/

namespace MaskPolicy.Text

/-- The quote for a text: the double quote when only single quotes occur in it. -/
def quoteOf (t : Text) : Char := if t.contains '\'' && !t.contains '"' then '"' else '\''

/-- A backslash, a letter and a code point in a fixed number of hexadecimal digits. -/
def hexEscape (letter : Char) (width : Nat) (c : Char) : Text :=
  '\\' :: letter :: padStart width '0' (Nat.toDigits 16 c.toNat)

/-- One character as it stands between two `quote`s. -/
def escapeIn (quote c : Char) : Text :=
  if c = quote ∨ c = '\\' then ['\\', c]
  else if c = '\n' then ['\\', 'n']
  else if c = '\r' then ['\\', 'r']
  else if c = '\t' then ['\\', 't']
  else if isPrintable c then [c]
  else if c.toNat < 0x100 then hexEscape 'x' 2 c
  else if c.toNat < 0x10000 then hexEscape 'u' 4 c
  else hexEscape 'U' 8 c

/-- The text between quotes. -/
def quoted (t : Text) : Text :=
  let quote := quoteOf t
  quote :: t.flatMap (escapeIn quote) ++ [quote]

end MaskPolicy.Text
