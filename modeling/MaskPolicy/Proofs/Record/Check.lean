import MaskPolicy.Record.Fields

/-!
# What checks find

A check of several parts gives a value when the check of each part does, and otherwise finds what
those of the parts find. The check of a value without parts refuses it as a whole: it finds at most
one issue, and that one at the value itself. This holds of the codecs of truth values, integers and
texts, with and without bounds.
-/

namespace MaskPolicy

/-- A check that finds at most one issue, at the value itself. -/
def Checked.Atomic {α : Type} (c : Checked α) : Prop :=
  ∀ found, c = .error found → ∃ kind, found = [⟨[], kind⟩]

namespace Checked

variable {α β : Type}

/-- Two checks give a pair when they give its parts. -/
theorem both_eq_ok_iff {c : Checked α} {d : Checked β} {p : α × β} :
    both c d = .ok p ↔ c = .ok p.1 ∧ d = .ok p.2 := by
  cases c <;> cases d <;> simp [both, Prod.ext_iff]

/-- Placing the issues of a check leaves its value. -/
theorem under_eq_ok_iff {step : Step} {c : Checked α} {a : α} :
    c.under step = .ok a ↔ c = .ok a := by
  cases c with
  | ok b => exact Iff.rfl
  | error found => constructor <;> (intro h; cases h)

/-- Giving a check another form of its value keeps which values it gives. -/
theorem map_eq_ok_iff {f : α → β} {g : β → α} (hfg : ∀ b, f (g b) = b) (hgf : ∀ a, g (f a) = a)
    {c : Checked α} {b : β} : c.map f = .ok b ↔ c = .ok (g b) := by
  cases c with
  | error found => simp [Except.map]
  | ok a =>
    simp only [Except.map, Except.ok.injEq]
    constructor
    · rintro rfl
      exact (hgf a).symm
    · rintro rfl
      exact hfg b

theorem atomic_ok (a : α) : Atomic (.ok a) := nofun

theorem atomic_refuse (kind : IssueKind) : Atomic (refuse kind : Checked α) := by
  rintro found ⟨⟩
  exact ⟨kind, rfl⟩

/-- The next check is only made when the one before found nothing. -/
theorem Atomic.bind {c : Checked α} (hc : c.Atomic) {f : α → Checked β} (hf : ∀ a, (f a).Atomic) :
    Atomic (c.bind f) := by
  cases c with
  | ok a => exact hf a
  | error found =>
    rintro found' ⟨⟩
    exact hc found rfl

/-- Under a step, the issue of a part is at the step. -/
theorem Atomic.locations_under {c : Checked α} (hc : c.Atomic) (step : Step) :
    (c.under step).issues.map Issue.location = if c.isOk then [] else [[step]] := by
  cases c with
  | ok a => rfl
  | error found =>
    obtain ⟨kind, rfl⟩ := hc found rfl
    rfl

end Checked

/-- Members that are all fields leave nothing over. -/
theorem RecordInfo.extras_eq_ok (info : RecordInfo) {names : List Text}
    {members : List (Text × Json)} (h : ∀ m ∈ members, m.1 ∈ names) :
    info.extras names members = .ok () := by
  have hnone : (members.filter fun m => decide (m.1 ∉ names)) = [] := by
    rw [List.filter_eq_nil_iff]
    intro m hm
    simpa using h m hm
  simp only [extras, hnone, ite_self]

/-- A closed record has an issue for each member that is no field. -/
theorem RecordInfo.issues_extras {info : RecordInfo} (hclosed : info.closed = true)
    (names : List Text) (members : List (Text × Json)) :
    (info.extras names members).issues =
      (members.filter fun m => m.1 ∉ names).map fun m => ⟨[.field m.1], .extraForbidden⟩ := by
  rw [extras, if_pos hclosed]
  cases members.filter fun m => decide (m.1 ∉ names) <;> rfl

/-- The check of a closed record finds the members that are no fields. -/
theorem RecordInfo.mem_issues_check {α : Type} {info : RecordInfo} (hclosed : info.closed = true)
    (f : Fields α) (look : Text → Option Json) {members : List (Text × Json)} {m : Text × Json}
    (hm : m ∈ members) (hname : m.1 ∉ f.names) :
    ⟨[.field m.1], .extraForbidden⟩ ∈ (info.check f look members).issues := by
  rw [check, Checked.issues_map, Checked.issues_both, issues_extras hclosed]
  have hextra : m ∈ members.filter fun m => decide (m.1 ∉ f.names) :=
    List.mem_filter.mpr ⟨hm, decide_eq_true hname⟩
  exact List.mem_append_right _ (List.mem_map_of_mem hextra)

namespace Codec

/-- Reading a truth value finds at most one issue. -/
theorem atomic_bool (v : Json) : (bool.decode v).Atomic := by
  cases v with
  | bool b => exact Checked.atomic_ok b
  | int n =>
    show Checked.Atomic (if n = 0 then _ else if n = 1 then _ else _)
    split
    · exact Checked.atomic_ok false
    · split
      · exact Checked.atomic_ok true
      · exact Checked.atomic_refuse _
  | str t =>
    show Checked.Atomic ((wordTruth? t).elim _ _)
    cases wordTruth? t with
    | none => exact Checked.atomic_refuse _
    | some b => exact Checked.atomic_ok b
  | real x =>
    simp only [bool]
    split
    · exact Checked.atomic_ok false
    · exact Checked.atomic_ok true
    · exact Checked.atomic_refuse _
  | null => exact Checked.atomic_refuse _
  | arr items => exact Checked.atomic_refuse _
  | obj members => exact Checked.atomic_refuse _

/-- Reading an integer finds at most one issue. -/
theorem atomic_integer (v : Json) : (integer.decode v).Atomic := by
  simp only [integer]
  split
  · exact Checked.atomic_ok _
  · exact Checked.atomic_ok _
  · split
    · exact Checked.atomic_ok _
    · exact Checked.atomic_refuse _
    · exact Checked.atomic_refuse _
  · split
    · split
      · exact Checked.atomic_ok _
      · exact Checked.atomic_refuse _
    · exact Checked.atomic_refuse _
  · exact Checked.atomic_refuse _
  · exact Checked.atomic_refuse _

/-- Reading a text finds at most one issue. -/
theorem atomic_text (v : Json) : (text.decode v).Atomic := by
  cases v with
  | str t => exact Checked.atomic_ok t
  | _ => exact Checked.atomic_refuse _

/-- Reading a text of some length finds at most one issue. -/
theorem atomic_textFrom (least : Nat) (v : Json) : ((textFrom least).decode v).Atomic := by
  refine (atomic_text v).bind fun t => ?_
  split
  · exact Checked.atomic_ok _
  · exact Checked.atomic_refuse _

/-- Reading an integer from a bound on finds at most one issue. -/
theorem atomic_between (low : Nat) (v : Json) : ((between low none).decode v).Atomic := by
  refine (atomic_integer v).bind fun n => ?_
  unfold checkBetween
  split
  · exact Checked.atomic_refuse _
  · exact Checked.atomic_ok _

/-- An integer within bounds is read as itself. -/
theorem between_eq_ok_iff {low : Nat} {high : Option Nat} {n : Int} {k : Between low high} :
    (between low high).decode (.int n) = .ok k ↔ k.val = n := by
  show checkBetween low high n = .ok k ↔ _
  constructor
  · intro h
    unfold checkBetween at h
    split at h
    · cases h
    · next hlow =>
      split at h
      · cases h
        exact Int.toNat_of_nonneg (by omega)
      · split at h
        · cases h
        · cases h
          exact Int.toNat_of_nonneg (by omega)
  · rintro rfl
    exact checkBetween_val k

/-- Another form of the values is read from the same payloads. -/
theorem imap_eq_ok_iff {α β : Type} {c : Codec α} {into : α → β} {back : β → α}
    {into_back : ∀ b, into (back b) = b} (hback : ∀ a, back (into a) = a) {v : Json} {b : β} :
    (c.imap into back into_back).decode v = .ok b ↔ c.decode v = .ok (back b) :=
  Checked.map_eq_ok_iff into_back hback

end Codec

namespace Fields

variable {α β : Type} {look : Text → Option Json}

/-- A field that is given is read from what is given. -/
theorem one_eq_ok_iff {name : String} {c : Codec α} {d : Default α} {v : Json}
    (h : look name.toList = some v) {a : α} :
    (one name c d).decode look = .ok a ↔ c.decode v = .ok a := by
  simp only [one, h, Checked.under_eq_ok_iff]

/-- A field that is not given has its default. -/
theorem one_of_default {name : String} {c : Codec α} {d : Default α}
    (h : look name.toList = none) {a : α} (hd : d.value? = some a) :
    (one name c d).decode look = .ok a := by
  simp only [one, h, hd]

/-- Another form of the values is read from the same members. -/
theorem imap_eq_ok_iff {f : Fields α} {into : α → β} {back : β → α}
    {into_back : ∀ b, into (back b) = b} (hback : ∀ a, back (into a) = a) {b : β} :
    (f.imap into back into_back).decode look = .ok b ↔ f.decode look = .ok (back b) :=
  Checked.map_eq_ok_iff into_back hback

/-- Two groups of fields are read when each of them is. -/
theorem pair_eq_ok_iff {f : Fields α} {g : Fields β} {disjoint : ∀ n ∈ f.names, n ∉ g.names}
    {p : α × β} : (f.pair g disjoint).decode look = .ok p ↔
      f.decode look = .ok p.1 ∧ g.decode look = .ok p.2 :=
  Checked.both_eq_ok_iff

end Fields

end MaskPolicy
