import MaskPolicy.Json.Basic
import MaskPolicy.Text.Quoted

/-!
# Values in messages

How a value looks inside a message: the words `None`, `True` and `False`, numbers in decimal, texts
between quotes, lists in brackets and objects in braces, with a comma and a space between parts. A
value with an integer of too many digits is not written at all.
-/

namespace MaskPolicy.Json

/-- Numbers in messages: positional from `0.0001` to below `10 ^ 16`, exponents with a sign and at
least two digits. -/
def messageStyle : Binary64.Style where
  lowestPoint := -3
  highestPoint := 16
  plusSign := true
  exponentWidth := 2
  infinity := "inf".toList
  negativeInfinity := "-inf".toList
  notANumber := "nan".toList

mutual

/-- The value as a literal. -/
def literal : Json → Text
  | .null => "None".toList
  | .bool true => "True".toList
  | .bool false => "False".toList
  | .int n => Decimal.ofInt n
  | .real x => x.render messageStyle
  | .str t => t.quoted
  | .arr items => '[' :: literalItems items ++ [']']
  | .obj members => '{' :: literalMembers members ++ ['}']

/-- The items of a list, separated. -/
def literalItems : List Json → Text
  | [] => []
  | [item] => literal item
  | item :: next :: rest => literal item ++ ", ".toList ++ literalItems (next :: rest)

/-- The members of an object, separated. -/
def literalMembers : List (Text × Json) → Text
  | [] => []
  | [(name, value)] => name.quoted ++ ": ".toList ++ literal value
  | (name, value) :: next :: rest =>
    name.quoted ++ ": ".toList ++ literal value ++ ", ".toList ++ literalMembers (next :: rest)

end

/-- The value as running text: a string is itself, any other value is its literal. -/
def plain : Json → Text
  | .str t => t
  | v => literal v

mutual

/-- Can the value be written? Only an integer in it can keep it from that. -/
def writable : Json → Bool
  | .int n => decide (Decimal.Writable n)
  | .arr items => writableItems items
  | .obj members => writableMembers members
  | _ => true

/-- Can all items of a list be written? -/
def writableItems : List Json → Bool
  | [] => true
  | item :: rest => writable item && writableItems rest

/-- Can all members of an object be written? -/
def writableMembers : List (Text × Json) → Bool
  | [] => true
  | (_, value) :: rest => writable value && writableMembers rest

end

@[simp] theorem writable_str (t : Text) : (Json.str t).writable = true := rfl

@[simp] theorem writable_int (n : Int) : (Json.int n).writable = decide (Decimal.Writable n) := rfl

end MaskPolicy.Json
