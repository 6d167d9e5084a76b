import MaskPolicy.Policy.Record
import MaskPolicy.Proofs.Json.Compact

/-!
# Records read back from their text

A codec whose values are written without fractions and exponents reads them back from their text, on
one line or indented, and the text without indentation has no line break. The codecs of records are
such codecs if those of their fields are, and so policies, results and descriptions survive being
written and read.
-/

namespace MaskPolicy

/-- A codec writes no number with a fraction or an exponent. -/
def Codec.Exact {α : Type} (c : Codec α) : Prop := ∀ a, (c.encode a).Exact

/-- Fields are written without such a number. -/
def Fields.Exact {α : Type} (f : Fields α) : Prop := ∀ a, ∀ m ∈ f.encode a, m.2.Exact

variable {α β : Type}

namespace Codec

theorem exact_bool : bool.Exact := fun b => .bool b

theorem exact_integer : integer.Exact := fun n => .int n

theorem exact_between (low : Nat) (high : Option Nat) : (between low high).Exact :=
  fun n => .int n.val

theorem exact_text : text.Exact := fun t => .str t

/-- Lists are written exactly if their items are. -/
theorem Exact.listOf {c : Codec α} (h : c.Exact) (refusal : IssueKind) :
    (c.listOf refusal).Exact := by
  intro xs
  refine .arr ?_
  intro v hv
  obtain ⟨x, -, rfl⟩ := List.mem_map.mp hv
  exact h x

/-- Optional values are written exactly if the others are. -/
theorem Exact.optional {c : Codec α} (h : c.Exact) (present : ∀ a, c.encode a ≠ .null) :
    (c.optional present).Exact := by
  intro a
  cases a with
  | none => exact .null
  | some a => exact h a

/-- What a codec writes exactly is read back from its text as the value, also if blanks follow. -/
theorem Exact.read?_render {c : Codec α} (h : c.Exact) (a : α) (indent : Option Nat) {blank : Text}
    (hblank : ∀ x ∈ blank, Json.isSpace x = true) :
    (Json.read? ((c.encode a).render indent ++ blank)).map c.decode = some (.ok a) := by
  rw [(h a).read?_render indent hblank, Option.map_some, c.decode_encode]

end Codec

namespace Fields

/-- A field is written exactly if its codec is exact. -/
theorem exact_one {c : Codec α} (h : c.Exact) (name : String) (d : Default α) :
    (one name c d).Exact := by
  intro a
  exact List.forall_mem_singleton.mpr (h a)

/-- Two groups of fields are written exactly if both are. -/
theorem Exact.pair {f : Fields α} {g : Fields β} (hf : f.Exact) (hg : g.Exact)
    (disjoint : ∀ n ∈ f.names, n ∉ g.names) : (f.pair g disjoint).Exact := by
  intro p
  exact List.forall_mem_append.mpr ⟨hf p.1, hg p.2⟩

/-- Another form of the values does not change how they are written. -/
theorem Exact.imap {f : Fields α} (h : f.Exact) (into : α → β) (back : β → α)
    (into_back : ∀ b, into (back b) = b) : (f.imap into back into_back).Exact :=
  fun b => h (back b)

end Fields

/-- A record is written exactly if its fields are. -/
theorem RecordInfo.exact_codec (info : RecordInfo) {f : Fields α} (h : f.Exact) :
    (info.codec f).Exact :=
  fun a => .obj (h a)

/-- A codec whose values survive being written and read. -/
structure Codec.Durable (c : Codec α) : Prop where
  /-- From every text of a value the value is read. -/
  decode_read? : ∀ a indent,
    (Json.read? ((c.encode a).render indent)).map c.decode = some (.ok a)
  /-- Compact or indented, the texts of a value denote the same. -/
  read?_indented : ∀ a indent,
    Json.read? ((c.encode a).render indent) = Json.read? ((c.encode a).render none)
  /-- The compact text of a value has no line break. -/
  not_mem_compact : ∀ a,
    '\n' ∉ (c.encode a).render none ∧ '\r' ∉ (c.encode a).render none

/-- The text of what is written exactly denotes it. -/
theorem Codec.Exact.read?_encode {c : Codec α} (h : c.Exact) (a : α) (indent : Option Nat) :
    Json.read? ((c.encode a).render indent) = some (c.encode a) := by
  have hread := (h a).read?_render indent (List.forall_mem_nil _)
  rwa [List.append_nil] at hread

/-- What is written exactly survives. -/
theorem Codec.Exact.durable {c : Codec α} (h : c.Exact) : c.Durable where
  decode_read? a indent := by rw [h.read?_encode, Option.map_some, c.decode_encode]
  read?_indented a indent := by rw [h.read?_encode, h.read?_encode]
  not_mem_compact a := (h a).not_mem_render

theorem exact_indexCodec : indexCodec.Exact := fun i => .int i.val

theorem exact_textsCodec : textsCodec.Exact := Codec.exact_text.listOf _

/-- The two fields about a class are written exactly. -/
theorem Rule.exact_fields (allowed index : String)
    (disjoint : ∀ n ∈ [allowed.toList], n ∉ [index.toList]) :
    (Rule.fields allowed index disjoint).Exact := by
  apply Fields.Exact.imap
  exact (Fields.exact_one Codec.exact_bool _ _).pair (Fields.exact_one exact_indexCodec _ _) _

/-- A policy is written exactly. -/
theorem Policy.exact_codec : Policy.codec.Exact := by
  have hrules : Policy.ruleFields.Exact := by
    refine (Rule.exact_fields _ _ _).pair ?_ _
    refine (Rule.exact_fields _ _ _).pair ?_ _
    refine (Rule.exact_fields _ _ _).pair ?_ _
    exact (Rule.exact_fields _ _ _).pair (Rule.exact_fields _ _ _) _
  have hlength : Policy.lengthFields.Exact :=
    (Fields.exact_one (Codec.exact_between _ _) _ _).pair
      (Fields.exact_one (Codec.exact_text.listOf _) _ _) _
  apply info.exact_codec
  apply Fields.Exact.imap
  exact hrules.pair hlength _

/-- The details of a check are written exactly. -/
theorem ValidationDetails.exact_codec : ValidationDetails.codec.Exact := by
  apply info.exact_codec
  apply Fields.Exact.imap
  refine (Fields.exact_one Codec.exact_integer _ _).pair ?_ _
  refine (Fields.exact_one Codec.exact_integer _ _).pair ?_ _
  refine (Fields.exact_one exact_textsCodec _ _).pair ?_ _
  refine (Fields.exact_one exact_textsCodec _ _).pair ?_ _
  exact Fields.exact_one exact_textsCodec _ _

/-- The outcome of a check is written exactly. -/
theorem ValidationResult.exact_codec : ValidationResult.codec.Exact := by
  apply info.exact_codec
  apply Fields.Exact.imap
  refine (Fields.exact_one Codec.exact_bool _ _).pair ?_ _
  refine (Fields.exact_one exact_textsCodec _ _).pair ?_ _
  exact Fields.exact_one (ValidationDetails.exact_codec.optional _) _ _

/-- A description is written exactly. -/
theorem MaskDescription.exact_codec : MaskDescription.codec.Exact := by
  apply info.exact_codec
  apply Fields.Exact.imap
  refine (Fields.exact_one exact_textsCodec _ _).pair ?_ _
  refine (Fields.exact_one exact_textsCodec _ _).pair ?_ _
  refine (Fields.exact_one Codec.exact_integer _ _).pair ?_ _
  refine (Fields.exact_one exact_textsCodec _ _).pair ?_ _
  exact Fields.exact_one (Codec.exact_text.optional _) _ _

/-- Policies, outcomes of checks with their details, and descriptions survive being written and
read: from its text, compact or with any indentation, the same value is read, and the compact text
is one line. -/
theorem records_durable :
    Policy.codec.Durable ∧ ValidationResult.codec.Durable ∧ ValidationDetails.codec.Durable ∧
      MaskDescription.codec.Durable :=
  ⟨Policy.exact_codec.durable, ValidationResult.exact_codec.durable,
    ValidationDetails.exact_codec.durable, MaskDescription.exact_codec.durable⟩

end MaskPolicy
