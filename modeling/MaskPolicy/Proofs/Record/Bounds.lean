import MaskPolicy.Policy.Record
import MaskPolicy.Report.Standard
import MaskPolicy.Settings.Basic

/-!
# Bounds that issues are about

An issue about a bound names a bound of the record and nothing of the payload. The bounds of the
records are small numbers, so that the standard tables can translate whatever a check of a payload
finds. This is seen from the parts of a record: a check is reportable when those of its parts are.
-/

namespace MaskPolicy

/-- A check that finds only issues whose bounds can be written. -/
def Checked.Reportable {α : Type} (c : Checked α) : Prop := ∀ i ∈ c.issues, i.kind.Writable

/-- A codec whose checks are all reportable. -/
def Codec.Reportable {α : Type} (c : Codec α) : Prop := ∀ v, (c.decode v).Reportable

/-- Fields whose checks are all reportable. -/
def Fields.Reportable {α : Type} (f : Fields α) : Prop := ∀ look, (f.decode look).Reportable

namespace Checked

variable {α β : Type} {c : Checked α}

theorem reportable_ok (a : α) : Reportable (.ok a) := nofun

theorem reportable_refuse {kind : IssueKind} (h : kind.Writable) :
    (refuse kind : Checked α).Reportable := by
  intro i hi
  obtain rfl := List.mem_singleton.mp hi
  exact h

/-- Placing issues under a step leaves what they are about. -/
theorem Reportable.under (h : c.Reportable) (step : Step) : (c.under step).Reportable := by
  cases c with
  | ok a => exact reportable_ok a
  | error found =>
    intro i hi
    obtain ⟨part, hpart, rfl⟩ := List.mem_map.mp hi
    exact h part hpart

theorem Reportable.map (h : c.Reportable) (f : α → β) :
    Reportable (Except.map f c : Checked β) := by
  intro i hi
  rw [issues_map] at hi
  exact h i hi

theorem Reportable.bind (h : c.Reportable) {f : α → Checked β} (hf : ∀ a, (f a).Reportable) :
    Reportable (Except.bind c f : Checked β) := by
  cases c with
  | ok a => exact hf a
  | error found => exact h

theorem Reportable.both (h : c.Reportable) {d : Checked β} (hd : d.Reportable) :
    (Checked.both c d).Reportable := by
  intro i hi
  rw [issues_both, List.mem_append] at hi
  exact hi.elim (h i) (hd i)

theorem Reportable.all {cs : List (Checked α)} (h : ∀ c ∈ cs, c.Reportable) :
    (Checked.all cs).Reportable := by
  intro i hi
  rw [issues_all, List.mem_flatMap] at hi
  obtain ⟨c, hc, hi⟩ := hi
  exact h c hc i hi

end Checked

namespace Codec

open Checked

variable {α β : Type} {c : Codec α}

theorem reportable_bool : bool.Reportable := by
  intro v
  simp only [bool]
  split
  · exact reportable_ok _
  · split
    · exact reportable_ok false
    · split
      · exact reportable_ok true
      · exact reportable_refuse trivial
  · next t =>
    cases wordTruth? t with
    | none => exact reportable_refuse trivial
    | some b => exact reportable_ok b
  · split
    · exact reportable_ok false
    · exact reportable_ok true
    · exact reportable_refuse trivial
  · exact reportable_refuse trivial

theorem reportable_integer : integer.Reportable := by
  intro v
  simp only [integer]
  split
  · exact reportable_ok _
  · exact reportable_ok _
  · split
    · exact reportable_ok _
    · exact reportable_refuse trivial
    · exact reportable_refuse trivial
  · split
    · split
      · exact reportable_ok _
      · exact reportable_refuse trivial
    · exact reportable_refuse trivial
  · exact reportable_refuse trivial
  · exact reportable_refuse trivial

/-- An integer out of bounds is refused for a bound. -/
theorem reportable_between {low : Nat} {high : Option Nat} (hlow : Decimal.Writable low)
    (hhigh : ∀ top ∈ high, Decimal.Writable top) : (between low high).Reportable := by
  refine fun v => (reportable_integer v).bind fun n => ?_
  unfold checkBetween
  split
  · exact reportable_refuse hlow
  · split
    · exact reportable_ok _
    · split
      · exact reportable_refuse (hhigh _ rfl)
      · exact reportable_ok _

theorem reportable_text : text.Reportable := by
  intro v
  cases v with
  | str t => exact reportable_ok t
  | _ => exact reportable_refuse trivial

theorem reportable_textFrom {least : Nat} (h : Decimal.Writable least) :
    (textFrom least).Reportable := by
  refine fun v => (reportable_text v).bind fun t => ?_
  split
  · exact reportable_ok _
  · exact reportable_refuse h

/-- The items of a list are checked one by one. -/
theorem Reportable.decodeItems (h : c.Reportable) (items : List Json) (place : Nat) :
    ∀ r ∈ c.decodeItems place items, r.Reportable := by
  induction items generalizing place with
  | nil => exact nofun
  | cons item rest ih =>
    exact List.forall_mem_cons.mpr ⟨(h item).under (.item place), ih (place + 1)⟩

theorem Reportable.listOf (h : c.Reportable) {refusal : IssueKind} (hr : refusal.Writable) :
    (c.listOf refusal).Reportable := by
  intro v
  cases v with
  | arr items => exact .all (h.decodeItems items 0)
  | _ => exact reportable_refuse hr

theorem Reportable.optional (h : c.Reportable) (present : ∀ a, c.encode a ≠ .null) :
    (c.optional present).Reportable := by
  intro v
  cases v with
  | null => exact reportable_ok none
  | _ => exact (h _).map some

theorem Reportable.imap (h : c.Reportable) (into : α → β) (back : β → α)
    (into_back : ∀ b, into (back b) = b) : (c.imap into back into_back).Reportable :=
  fun v => (h v).map into

end Codec

namespace Fields

open Checked

variable {α β : Type} {f : Fields α}

/-- A field that is not given has its default or is missing. -/
theorem reportable_one {c : Codec α} (h : c.Reportable) (name : String) (d : Default α) :
    (one name c d).Reportable := by
  intro look
  simp only [one]
  cases look name.toList with
  | some v => exact (h v).under (.field name.toList)
  | none =>
    cases d.value? with
    | some a => exact reportable_ok a
    | none => exact Reportable.under (reportable_refuse (by trivial)) (.field name.toList)

theorem Reportable.pair (h : f.Reportable) {g : Fields β} (hg : g.Reportable)
    (disjoint : ∀ n ∈ f.names, n ∉ g.names) : (f.pair g disjoint).Reportable :=
  fun look => (h look).both (hg look)

theorem Reportable.imap (h : f.Reportable) (into : α → β) (back : β → α)
    (into_back : ∀ b, into (back b) = b) : (f.imap into back into_back).Reportable :=
  fun look => (h look).map into

end Fields

namespace RecordInfo

variable {α : Type} {f : Fields α}

/-- A member that is no field is refused for itself. -/
theorem reportable_extras (info : RecordInfo) (names : List Text) (members : List (Text × Json)) :
    (info.extras names members).Reportable := by
  unfold extras
  split
  · split
    · exact Checked.reportable_ok ()
    · intro i hi
      obtain ⟨m, -, rfl⟩ := List.mem_map.mp hi
      exact trivial
  · exact Checked.reportable_ok ()

theorem reportable_check (info : RecordInfo) (h : f.Reportable) (look : Text → Option Json)
    (members : List (Text × Json)) : (info.check f look members).Reportable :=
  ((h look).both (info.reportable_extras f.names members)).map Prod.fst

/-- A record is reportable when its fields are. -/
theorem reportable_codec (info : RecordInfo) (h : f.Reportable) : (info.codec f).Reportable := by
  intro v
  cases v with
  | obj members => exact info.reportable_check h _ members
  | _ => exact Checked.reportable_refuse trivial

end RecordInfo

open Codec Fields

private theorem reportable_textsCodec : textsCodec.Reportable :=
  reportable_text.listOf (by trivial)

private theorem reportable_ruleFields (allowed index : String)
    (disjoint : ∀ n ∈ [allowed.toList], n ∉ [index.toList]) :
    (Rule.fields allowed index disjoint).Reportable :=
  have hindex : indexCodec.Reportable :=
    (reportable_between (by decide) (by decide)).imap _ _ _
  ((reportable_one reportable_bool _ _).pair (reportable_one hindex _ _) _).imap _ _ _

/-- What is wrong with a payload for a policy can be reported. -/
theorem Policy.reportable_codec : Policy.codec.Reportable := by
  have hlength : lengthFields.Reportable :=
    (reportable_one (reportable_between (by decide) (by decide)) _ _).pair
      (reportable_one (reportable_text.listOf (by trivial)) _ _) _
  have hrules : ruleFields.Reportable :=
    (reportable_ruleFields _ _ _).pair ((reportable_ruleFields _ _ _).pair
      ((reportable_ruleFields _ _ _).pair ((reportable_ruleFields _ _ _).pair
        (reportable_ruleFields _ _ _) _) _) _) _
  exact info.reportable_codec ((hrules.pair hlength _).imap _ _ _)

/-- What is wrong with a payload for the details of a check can be reported. -/
theorem ValidationDetails.reportable_codec : ValidationDetails.codec.Reportable :=
  info.reportable_codec
    (((reportable_one reportable_integer _ _).pair ((reportable_one reportable_integer _ _).pair
      ((reportable_one reportable_textsCodec _ _).pair
        ((reportable_one reportable_textsCodec _ _).pair
          (reportable_one reportable_textsCodec _ _) _) _) _) _).imap _ _ _)

/-- What is wrong with a payload for the outcome of a check can be reported. -/
theorem ValidationResult.reportable_codec : ValidationResult.codec.Reportable :=
  info.reportable_codec
    (((reportable_one reportable_bool _ _).pair ((reportable_one reportable_textsCodec _ _).pair
      (reportable_one (ValidationDetails.reportable_codec.optional _) _ _) _) _).imap _ _ _)

/-- What is wrong with a payload for a description can be reported. -/
theorem MaskDescription.reportable_codec : MaskDescription.codec.Reportable :=
  info.reportable_codec
    (((reportable_one reportable_textsCodec _ _).pair
      ((reportable_one reportable_textsCodec _ _).pair ((reportable_one reportable_integer _ _).pair
        ((reportable_one reportable_textsCodec _ _).pair
          (reportable_one (reportable_text.optional _) _ _) _) _) _) _).imap _ _ _)

/-- What is wrong with settings can be reported. -/
theorem Settings.reportable_load (members : List (Text × Json)) (env : Environment) :
    (load members env).Reportable :=
  have hfields : fields.Reportable :=
    ((reportable_one (reportable_textFrom (by decide)) _ _).pair
      ((reportable_one reportable_bool _ _).pair
        (reportable_one (reportable_between (by decide) (by simp)) _ _) _) _).imap _ _ _
  info.reportable_check hfields _ _

end MaskPolicy
