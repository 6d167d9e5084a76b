import MaskPolicy.Json.Basic
import MaskPolicy.Text.Basic

/-!
# Writing JSON

The written form of a value, on one line without blanks or with every item on a line of its own.
Only the quote, the backslash and the control characters of a string are escaped, and an empty array
or object has no line end in either form.
-/

namespace MaskPolicy.Json

/-- Numbers in JSON: positional from `0.00001` to below `10 ^ 16`, plain exponents, and no word for
the special values but `null`. -/
def numberStyle : Binary64.Style where
  lowestPoint := -4
  highestPoint := 16
  plusSign := false
  exponentWidth := 1
  infinity := "null".toList
  negativeInfinity := "null".toList
  notANumber := "null".toList

/-- One character of a string. -/
def escapeChar (c : Char) : Text :=
  if c = '"' then ['\\', '"']
  else if c = '\\' then ['\\', '\\']
  else if c = '\n' then ['\\', 'n']
  else if c = '\r' then ['\\', 'r']
  else if c = '\t' then ['\\', 't']
  else if c = '\x08' then ['\\', 'b']
  else if c = '\x0c' then ['\\', 'f']
  else if c.toNat < 0x20 then "\\u".toList ++ Text.padStart 4 '0' (Nat.toDigits 16 c.toNat)
  else [c]

/-- A string between its quotes. -/
def string (t : Text) : Text := '"' :: t.flatMap escapeChar ++ ['"']

/-- How far the lines of a written value are indented for each level; nothing is one line. -/
structure Spacing where
  indent : Option Nat

/-- The break before an item at a depth. -/
def Spacing.newline (l : Spacing) (depth : Nat) : Text :=
  match l.indent with
  | none => []
  | some width => '\n' :: List.replicate (width * depth) ' '

/-- What stands between a member's name and its value. -/
def Spacing.colon (l : Spacing) : Text := if l.indent.isSome then ": ".toList else [':']

mutual

/-- The written form of a value that starts at a depth. -/
def write (l : Spacing) (depth : Nat) : Json → Text
  | .null => "null".toList
  | .bool true => "true".toList
  | .bool false => "false".toList
  | .int n => Decimal.ofInt n
  | .real x => x.render numberStyle
  | .str t => string t
  | .arr [] => "[]".toList
  | .arr (item :: rest) =>
    '[' :: l.newline (depth + 1) ++ write l (depth + 1) item ++ writeItems l (depth + 1) rest ++
      l.newline depth ++ [']']
  | .obj [] => "\x7b\x7d".toList
  | .obj ((name, value) :: rest) =>
    '{' :: l.newline (depth + 1) ++ string name ++ l.colon ++ write l (depth + 1) value ++
      writeMembers l (depth + 1) rest ++ l.newline depth ++ ['}']

/-- The items after the first one. -/
def writeItems (l : Spacing) (depth : Nat) : List Json → Text
  | [] => []
  | item :: rest => ',' :: l.newline depth ++ write l depth item ++ writeItems l depth rest

/-- The members after the first one. -/
def writeMembers (l : Spacing) (depth : Nat) : List (Text × Json) → Text
  | [] => []
  | (name, value) :: rest =>
    ',' :: l.newline depth ++ string name ++ l.colon ++ write l depth value ++
      writeMembers l depth rest

end

/-- The written form of a value, compact or indented by a number of blanks for each level. -/
def render (indent : Option Nat) (v : Json) : Text := write ⟨indent⟩ 0 v

end MaskPolicy.Json
