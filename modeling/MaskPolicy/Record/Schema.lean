import MaskPolicy.Json.Basic
import MaskPolicy.Text.Basic

/-!
# Schemas

A schema describes the payloads of a codec as a JSON value. Schemas of records are kept apart from
the places where they are used, and a place refers to them by name.
-/

namespace MaskPolicy

/-- A schema: its keywords and the named schemas it refers to. -/
structure Schema where
  keywords : List (Text × Json)
  definitions : List (Text × Json) := []
  /-- Is the schema a reference to another one? Such a schema takes no title from its field. -/
  reference : Bool := false

namespace Schema

/-- The schema of a type without conditions. -/
def ofType (name : String) : Schema where
  keywords := [("type".toList, .str name.toList)]

/-- A schema with one more keyword. -/
def withKeyword (s : Schema) (keyword : String) (v : Json) : Schema :=
  { s with keywords := s.keywords ++ [(keyword.toList, v)] }

/-- The schema of lists. -/
def list (item : Schema) : Schema :=
  { ofType "array" with
    keywords := (ofType "array").keywords ++ [("items".toList, .obj item.keywords)]
    definitions := item.definitions }

/-- The schema of what may be absent. -/
def optional (s : Schema) : Schema :=
  { s with keywords :=
      [("anyOf".toList, .arr [.obj s.keywords, .obj (ofType "null").keywords])] }

/-- A name in title form: its words with capitals, separated by blanks. -/
def title (name : Text) : Text :=
  Text.joinWith [' '] ((Text.splitOn '_' name).map fun
    | [] => []
    | c :: cs => c.toUpper :: cs)

/-- The schema of a field: the schema of its value with a title and a default. -/
def ofField (s : Schema) (name : Text) (shown : Option Json) : Json :=
  let heading := if s.reference then [] else [("title".toList, Json.str (title name))]
  let default := match shown with
    | none => []
    | some v => [("default".toList, v)]
  .obj (default ++ s.keywords ++ heading)

/-- The whole schema as a value, with the schemas it refers to. -/
def toJson (s : Schema) : Json :=
  .obj (if s.definitions.isEmpty then s.keywords
    else ("$defs".toList, .obj s.definitions) :: s.keywords)

end Schema

end MaskPolicy
