import MaskPolicy.Record.Codec

/-!
# Records and their fields

A record is made of named fields, each with a codec and maybe a default. `Fields` is a description
of some fields from which everything else follows: how they are checked, one after another and
without stopping at an issue, how they are written, and their part of the schema.
-/

namespace MaskPolicy

/-- What stands for a field that is not given. -/
inductive Default (α : Type) where
  /-- The field has to be given. -/
  | required
  /-- The field has a default, which the schema shows. -/
  | shown (a : α)
  /-- The field has a default, which the schema does not show. -/
  | silent (a : α)

/-- The default value, if there is one. -/
def Default.value? {α : Type} : Default α → Option α
  | required => none
  | shown a => some a
  | silent a => some a

/-- Fields that together hold an `α`. They are looked up by name. -/
structure Fields (α : Type) where
  names : List Text
  decode : (Text → Option Json) → Checked α
  encode : α → List (Text × Json)
  /-- The schemas of the fields. -/
  properties : List (Text × Json)
  /-- The names of the fields that have to be given. -/
  required : List Text
  definitions : List (Text × Json)
  encode_names : ∀ a, (encode a).map Prod.fst = names
  decode_encode : ∀ a look, (∀ n ∈ names, look n = Json.member? n (encode a)) → decode look = .ok a

namespace Fields

/-- One field. -/
def one {α : Type} (name : String) (c : Codec α) (d : Default α) : Fields α where
  names := [name.toList]
  decode look :=
    match look name.toList, d.value? with
    | some v, _ => (c.decode v).under (.field name.toList)
    | none, some a => .ok a
    | none, none => (Checked.refuse .missing).under (.field name.toList)
  encode a := [(name.toList, c.encode a)]
  properties :=
    let shown := match d with
      | .shown a => some (c.encode a)
      | _ => none
    [(name.toList, c.schema.ofField name.toList shown)]
  required := match d with
    | .required => [name.toList]
    | _ => []
  definitions := c.schema.definitions
  encode_names _ := rfl
  decode_encode a look h := by
    have : look name.toList = some (c.encode a) := by
      rw [h _ List.mem_cons_self]
      simp [Json.member?]
    rw [this]
    show (c.decode (c.encode a)).under _ = _
    rw [c.decode_encode]
    rfl

/-- A member of the first of two lists is found when its name is not in the second. -/
theorem member?_append_left {xs ys : List (Text × Json)} {n : Text} (h : n ∉ ys.map Prod.fst) :
    Json.member? n (xs ++ ys) = Json.member? n xs := by
  have none : ys.reverse.find? (fun m => decide (m.1 = n)) = none := by
    rw [List.find?_eq_none]
    intro m hm
    have : m.1 ∈ ys.map Prod.fst := List.mem_map_of_mem (List.mem_reverse.mp hm)
    simp only [decide_eq_true_eq]
    rintro rfl
    exact h this
  simp [Json.member?, List.reverse_append, List.find?_append, none]

/-- A member of the second of two lists is found there. -/
theorem member?_append_right {xs ys : List (Text × Json)} {n : Text} (h : n ∈ ys.map Prod.fst) :
    Json.member? n (xs ++ ys) = Json.member? n ys := by
  obtain ⟨m, hm, rfl⟩ := List.mem_map.mp h
  have found : (ys.reverse.find? fun k => decide (k.1 = m.1)).isSome := by
    rw [List.find?_isSome]
    exact ⟨m, List.mem_reverse.mpr hm, by simp⟩
  obtain ⟨k, hk⟩ := Option.isSome_iff_exists.mp found
  simp [Json.member?, List.reverse_append, List.find?_append, hk]

/-- Two groups of fields, whose names differ. -/
def pair {α β : Type} (f : Fields α) (g : Fields β) (disjoint : ∀ n ∈ f.names, n ∉ g.names) :
    Fields (α × β) where
  names := f.names ++ g.names
  decode look := .both (f.decode look) (g.decode look)
  encode p := f.encode p.1 ++ g.encode p.2
  properties := f.properties ++ g.properties
  required := f.required ++ g.required
  definitions := f.definitions ++ g.definitions
  encode_names p := by rw [List.map_append, f.encode_names, g.encode_names]
  decode_encode p look h := by
    have first : f.decode look = .ok p.1 := f.decode_encode _ _ fun n hn => by
      rw [h n (List.mem_append_left _ hn), member?_append_left]
      rw [g.encode_names]
      exact disjoint n hn
    have second : g.decode look = .ok p.2 := g.decode_encode _ _ fun n hn => by
      rw [h n (List.mem_append_right _ hn), member?_append_right]
      rw [g.encode_names]
      exact hn
    rw [first, second]
    rfl

/-- The same fields for another form of the same values. -/
def imap {α β : Type} (f : Fields α) (into : α → β) (back : β → α)
    (into_back : ∀ b, into (back b) = b) : Fields β where
  names := f.names
  decode look := (f.decode look).map into
  encode b := f.encode (back b)
  properties := f.properties
  required := f.required
  definitions := f.definitions
  encode_names b := f.encode_names _
  decode_encode b look h := by
    rw [f.decode_encode _ _ h]
    exact congrArg Except.ok (into_back b)

end Fields

/-- What a record says about itself beside its fields. -/
structure RecordInfo where
  name : Text
  description : Option Text := none
  /-- Are members that are no fields refused? -/
  closed : Bool := false

namespace RecordInfo

/-- The issues of the members that are no fields, in their order. -/
def extras (info : RecordInfo) (names : List Text) (members : List (Text × Json)) : Checked Unit :=
  if info.closed then
    match members.filter fun m => m.1 ∉ names with
    | [] => .ok ()
    | extra => .error (extra.map fun m => ⟨[.field m.1], .extraForbidden⟩)
  else .ok ()

/-- A record of fields has no other members. -/
theorem extras_names (info : RecordInfo) {names : List Text} {members : List (Text × Json)}
    (h : members.map Prod.fst = names) : info.extras names members = .ok () := by
  have : (members.filter fun m => decide (m.1 ∉ names)) = [] := by
    rw [List.filter_eq_nil_iff]
    intro m hm
    have : m.1 ∈ names := h ▸ List.mem_map_of_mem hm
    simp [this]
  unfold extras
  rw [this]
  split <;> rfl

/-- Check the fields of a record under a lookup, and then the members for those that are no fields.
-/
def check {α : Type} (info : RecordInfo) (f : Fields α) (look : Text → Option Json)
    (members : List (Text × Json)) : Checked α :=
  (Checked.both (f.decode look) (info.extras f.names members)).map Prod.fst

/-- The schema of a record, standing alone. -/
def schema {α : Type} (info : RecordInfo) (f : Fields α) : Schema where
  keywords :=
    (if info.closed then [("additionalProperties".toList, .bool false)] else []) ++
    (match info.description with
      | none => []
      | some d => [("description".toList, .str d)]) ++
    [("properties".toList, .obj f.properties)] ++
    (if f.required.isEmpty then [] else [("required".toList, Json.texts f.required)]) ++
    [("title".toList, .str info.name), ("type".toList, .str "object".toList)]
  definitions := f.definitions

/-- The codec of a record. -/
def codec {α : Type} (info : RecordInfo) (f : Fields α) : Codec α where
  decode
    | .obj members => info.check f (Json.member? · members) members
    | _ => .refuse (.notRecord info.name)
  encode a := .obj (f.encode a)
  schema := {
    keywords := [("$ref".toList, .str ("#/$defs/".toList ++ info.name))]
    definitions := f.definitions ++ [(info.name, .obj (info.schema f).keywords)]
    reference := true }
  decode_encode a := by
    show info.check f (Json.member? · (f.encode a)) (f.encode a) = _
    rw [check, f.decode_encode a _ fun _ _ => rfl, info.extras_names (f.encode_names a)]
    rfl

end RecordInfo

end MaskPolicy
