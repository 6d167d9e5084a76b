import MaskPolicy.Number.Binary64

/-!
# JSON values

The one dynamic value type of the library. Payloads of records, entries of alphabets and the
contexts of faults hold such values. Integers are unbounded and differ from numbers with a fraction
or an exponent, and an object keeps its members in order.
-/

namespace MaskPolicy

/-- A JSON value. -/
inductive Json where
  | null
  | bool (b : Bool)
  | int (n : Int)
  | real (x : Binary64)
  | str (t : Text)
  | arr (items : List Json)
  | obj (members : List (Text × Json))
  deriving Inhabited, Repr

namespace Json

/-- The text of a string value. -/
def text? : Json → Option Text
  | .str t => some t
  | _ => none

/-- The member of an object with a name; the last one if there are several. -/
def member? (name : Text) (members : List (Text × Json)) : Option Json :=
  (members.reverse.find? fun m => decide (m.1 = name)).map Prod.snd

/-- The elements of a value: the characters of a text, the items of a list or the names of an
object. No other value has elements. -/
def elements? : Json → Option (List Json)
  | .str t => some (t.map fun c => .str [c])
  | .arr items => some items
  | .obj members => some (members.map fun m => .str m.1)
  | _ => none

/-- A list of texts as an array of strings. -/
def texts (ts : List Text) : Json := .arr (ts.map .str)

end Json

end MaskPolicy
