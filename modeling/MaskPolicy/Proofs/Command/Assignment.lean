import MaskPolicy.Proofs.Command.Requests
import MaskPolicy.Proofs.Number.AnyScript

/-!
# Values by their sources

An option has at most one source: what the words say last about it, or else its variable, unless
that is empty. A command that is asked for no page gets values for all its options or for none of
them. It gets them when each option can be read from its source, and every option then has the value
of its source, wherever the words mention it.
-/

namespace MaskPolicy.Command

/-- What a source says about a switch; a switch is off if nothing is said. -/
def Switches : Option Mention → Bool → Prop
  | none, b => b = false
  | some .on, b => b = true
  | some .off, b => b = false
  | some (.given t), b => readSwitch t = .ok (.switch b)

/-- A text spells an integer: in a way that is read, or in decimal notation of any length. -/
def Spells (t : Text) (n : Int) : Prop := Decimal.readAnyScript? t = some n ∨ t = Decimal.ofInt n

/-- What a source says about an integer, with a default if nothing is said. -/
def Numbers (default : Int) : Option Mention → Int → Prop
  | none, n => n = default
  | some (.given t), n => Spells t n
  | _, _ => False

variable {t : Text} {n : Int}

private theorem Spells.eq_of_read (h : Spells t n) {m : Int}
    (hm : Decimal.readAnyScript? t = some m) : m = n := by
  rcases h with h | rfl
  · exact Option.some.inj (hm.symm.trans h)
  · rw [Decimal.readAnyScript?_ofInt] at hm
    split at hm
    · cases hm
    · exact (Option.some.inj hm).symm

private theorem Spells.read_of_digit (h : Spells t n) (hn : n.natAbs < 10) :
    Decimal.readAnyScript? t = some n := by
  rcases h with h | rfl
  · exact h
  · have hlength : (Decimal.ofNat n.natAbs).length = 1 := by
      rw [Decimal.ofNat, Nat.toDigits_of_lt_base hn]
      rfl
    rw [Decimal.readAnyScript?_ofInt, hlength, if_neg (by decide)]

/-- The integer of a value. -/
def Value.int? : Value → Option Int
  | .int n => some n
  | _ => none

/-- The integer of an option is that of its value. -/
theorem Assignment.int?_eq (a : Assignment) (o : OptionSpec) :
    a.int? o = (a.value? o).bind Value.int? := by
  unfold int?
  cases a.value? o with
  | none => rfl
  | some v => cases v <;> rfl

namespace Inputs

variable {i : Inputs} {o : OptionSpec}

/-- Where the value of an option comes from. -/
def source? (i : Inputs) (o : OptionSpec) : Option Mention :=
  (i.words.last? o).or (((i.lookup o.key).filter fun t => !t.isEmpty).map .given)

/-- The value of an option is read from its source. -/
theorem value?_eq (i : Inputs) (o : OptionSpec) : i.value? o =
    match i.source? o with
    | none => .ok none
    | some .on => .ok (some (.switch true))
    | some .off => .ok (some (.switch false))
    | some (.given t) => (i.read o t).map some := by
  unfold value? source?
  cases i.words.last? o with
  | some m => cases m <;> rfl
  | none =>
    cases i.lookup o.key with
    | none => rfl
    | some t => cases t <;> rfl

/-- A switch has the value that its source says. -/
theorem value?_of_switches {off : Option Text} (hform : o.form = .switch off) {b : Bool}
    (h : Switches (i.source? o) b) :
    ∃ v, i.value? o = .ok v ∧ decide (v = some (.switch true)) = b := by
  rw [value?_eq]
  cases hs : i.source? o with
  | none =>
    rw [hs] at h
    exact ⟨none, rfl, h.symm⟩
  | some m =>
    rw [hs] at h
    cases m with
    | on => exact ⟨_, rfl, h.symm⟩
    | off => exact ⟨_, rfl, h.symm⟩
    | given t =>
      have hread : i.read o t = .ok (.switch b) := by
        have hswitch : readSwitch t = .ok (.switch b) := h
        simp only [read, OptionSpec.read, hform, hswitch]
        rfl
      simp only [hread]
      exact ⟨some (.switch b), rfl, by cases b <;> rfl⟩

/-- An option for an integer of one digit has the value that its source says, if that is within the
bounds. -/
theorem value?_of_numbers {low high : Int} (hform : o.form = .valued (.range low (some high)))
    {default : Int} (h : Numbers default (i.source? o) n) (hn : n.natAbs < 10)
    (hrange : inRange low (some high) n = true) :
    ∃ v, i.value? o = .ok v ∧ (v.bind Value.int?).getD default = n := by
  rw [value?_eq]
  cases hs : i.source? o with
  | none =>
    rw [hs] at h
    exact ⟨none, rfl, h.symm⟩
  | some m =>
    rw [hs] at h
    cases m with
    | on => exact h.elim
    | off => exact h.elim
    | given t =>
      have hread : i.read o t = .ok (.int n) := by
        have hint : Decimal.readAnyScript? t = some n := Spells.read_of_digit h hn
        simp only [read, OptionSpec.read, hform, ValueKind.read, hint, hrange, if_true]
        rfl
      simp only [hread]
      exact ⟨some (.int n), rfl, rfl⟩

/-- An option for an integer has no value when its source says one that is not within the bounds. -/
theorem value?_of_numbers_outside {low : Int} {high : Option Int}
    (hform : o.form = .valued (.range low high)) {default : Int}
    (hdefault : inRange low high default = true) (h : Numbers default (i.source? o) n)
    (hrange : inRange low high n = false) : ∃ e, i.value? o = .error e := by
  rw [value?_eq]
  cases hs : i.source? o with
  | none =>
    rw [hs] at h
    obtain rfl : n = default := h
    rw [hdefault] at hrange
    cases hrange
  | some m =>
    rw [hs] at h
    cases m with
    | on => exact h.elim
    | off => exact h.elim
    | given t =>
      have hread : ∃ e, i.read o t = .error e := by
        simp only [read, OptionSpec.read, hform, ValueKind.read]
        cases hint : Decimal.readAnyScript? t with
        | none => exact ⟨_, rfl⟩
        | some m =>
          obtain rfl := Spells.eq_of_read h hint
          simp only [hrange]
          exact ⟨_, rfl⟩
      obtain ⟨e, he⟩ := hread
      simp only [he]
      exact ⟨e, rfl⟩

variable {os : List OptionSpec}

/-- Options have values when each of them can be read. -/
theorem exists_values_iff :
    (∃ vs, i.values os = .ok vs) ↔ ∀ o ∈ os, ∃ v, i.value? o = .ok v := by
  induction os with
  | nil => simp [values]
  | cons o rest ih =>
    rw [values, List.forall_mem_cons, ← ih]
    cases i.value? o with
    | error e => simp
    | ok v => cases i.values rest <;> simp [Except.map]

private theorem mem_values {vs : List (Text × Value)} (h : i.values os = .ok vs) (ho : o ∈ os)
    {v : Value} (hv : i.value? o = .ok (some v)) : (o.key, v) ∈ vs := by
  induction os generalizing vs with
  | nil => cases ho
  | cons p rest ih =>
    rw [values] at h
    split at h
    · cases h
    · next found hfound =>
      obtain ⟨later, hlater, rfl⟩ := exists_of_map_eq_ok h
      rcases List.mem_cons.mp ho with rfl | hrest
      · obtain rfl := Except.ok.inj (hfound.symm.trans hv)
        exact List.mem_append_left _ (List.mem_singleton.mpr rfl)
      · exact List.mem_append_right _ (ih hlater hrest)

private theorem page?_eq_none (h : ∀ o ∈ os, ∃ v, i.value? o = .ok v ∧ v ≠ some (.switch true)) :
    i.page? os = .ok none := by
  induction os with
  | nil => rfl
  | cons o rest ih =>
    obtain ⟨⟨v, hv, hne⟩, hrest⟩ := List.forall_mem_cons.mp h
    rw [page?, hv]
    split
    · next he => cases he
    · next he => exact absurd (Except.ok.inj he) hne
    · exact ih hrest

private theorem mem_paged_iff : o ∈ paged os ↔ o ∈ os ∧ o.page.isSome = true := by
  rw [paged, List.partition_eq_filter_filter]
  exact List.mem_filter

private theorem mem_pageless_iff : o ∈ pageless os ↔ o ∈ os ∧ o.page = none := by
  rw [pageless, List.partition_eq_filter_filter]
  simp

section Assign

variable {c : CommandName} (hwithin : i.words.options ⊆ c.spec.options)

include hwithin

/-- The options of a command are those that the words mention and the others. -/
theorem mem_options_iff :
    o ∈ c.spec.options ↔ o ∈ i.words.options ∨ o ∈ i.unmentioned c.spec := by
  constructor
  · intro ho
    by_cases hmentioned : ∃ p ∈ i.words.options, p.key = o.key
    · obtain ⟨p, hp, hkey⟩ := hmentioned
      obtain rfl := c.option_eq_of_key_eq (hwithin hp) ho hkey
      exact .inl hp
    · exact .inr (List.mem_filter.mpr ⟨ho, by simpa using hmentioned⟩)
  · rintro (ho | ho)
    · exact hwithin ho
    · exact (List.mem_filter.mp ho).1

/-- An option has the value that it gets. -/
theorem value?_of_assign {a : Assignment} (h : i.assign c.spec = .ok a) (ho : o ∈ c.spec.options)
    (hpage : o.page = none) : i.value? o = .ok (a.value? o) := by
  obtain ⟨before, after, hbefore, hafter, rfl⟩ := exists_values_of_assign h
  have hmem : ∀ v, i.value? o = .ok (some v) → (o.key, v) ∈ before ++ after := by
    intro v hv
    rcases (mem_options_iff hwithin).mp ho with hmentioned | hother
    · exact List.mem_append_left _
        (mem_values hbefore (mem_pageless_iff.mpr ⟨hmentioned, hpage⟩) hv)
    · exact List.mem_append_right _ (mem_values hafter (mem_pageless_iff.mpr ⟨hother, hpage⟩) hv)
  have hread : ∃ v, i.value? o = .ok v := by
    rcases (mem_options_iff hwithin).mp ho with hmentioned | hother
    · exact exists_values_iff.mp ⟨_, hbefore⟩ o (mem_pageless_iff.mpr ⟨hmentioned, hpage⟩)
    · exact exists_values_iff.mp ⟨_, hafter⟩ o (mem_pageless_iff.mpr ⟨hother, hpage⟩)
  cases hfind : (before ++ after).find? fun v => decide (v.1 = o.key) with
  | none =>
    obtain ⟨_ | v, hv⟩ := hread
    · simp [hv, Assignment.value?, hfind]
    · have hnot := List.find?_eq_none.mp hfind _ (hmem v hv)
      exact absurd (decide_eq_true rfl) hnot
  | some found =>
    obtain ⟨k, v⟩ := found
    have hkey : k = o.key := by simpa using List.find?_some hfind
    obtain ⟨p, hp, hpkey, hvalue⟩ :=
      exists_option_of_assign hwithin h (List.mem_of_find?_eq_some hfind)
    obtain rfl := c.option_eq_of_key_eq hp ho (hpkey.trans hkey)
    simp [hvalue, Assignment.value?, hfind]

variable (hpages : ∀ o ∈ c.spec.options, o.page.isSome = true →
    ∃ v, i.value? o = .ok v ∧ v ≠ some (.switch true))
  (harguments : checkArguments c.spec.arguments i.words.arguments = .ok ())

include hpages harguments

/-- A command that is asked for no page and has its arguments gets values for all its options or for
none of them. -/
theorem assign_eq : i.assign c.spec =
    Except.mapError .wrong (do
      let before ← i.values (pageless i.words.options)
      let after ← i.values (pageless (i.unmentioned c.spec))
      .ok ⟨before ++ after, i.words.arguments⟩) := by
  have hnone : i.page? (paged i.words.options ++ paged (i.unmentioned c.spec)) = .ok none := by
    refine page?_eq_none fun o ho => ?_
    rcases List.mem_append.mp ho with ho | ho
    · have hpaged := mem_paged_iff.mp ho
      exact hpages o (hwithin hpaged.1) hpaged.2
    · have hpaged := mem_paged_iff.mp ho
      exact hpages o ((mem_options_iff hwithin).mpr (.inr hpaged.1)) hpaged.2
  simp only [paged, unmentioned] at hnone
  simp only [assign, hnone, harguments, pageless, unmentioned]
  rfl

/-- A command gets values when each of its options can be read. -/
theorem exists_assign (h : ∀ o ∈ c.spec.options, o.page = none → ∃ v, i.value? o = .ok v) :
    ∃ a, i.assign c.spec = .ok a ∧ a.arguments = i.words.arguments := by
  obtain ⟨before, hbefore⟩ : ∃ vs, i.values (pageless i.words.options) = .ok vs := by
    refine exists_values_iff.mpr fun o ho => ?_
    obtain ⟨hmentioned, hpage⟩ := mem_pageless_iff.mp ho
    exact h o (hwithin hmentioned) hpage
  obtain ⟨after, hafter⟩ : ∃ vs, i.values (pageless (i.unmentioned c.spec)) = .ok vs := by
    refine exists_values_iff.mpr fun o ho => ?_
    obtain ⟨hother, hpage⟩ := mem_pageless_iff.mp ho
    exact h o ((mem_options_iff hwithin).mpr (.inr hother)) hpage
  rw [assign_eq hwithin hpages harguments, hbefore, hafter]
  exact ⟨_, rfl, rfl⟩

/-- A command is called in a wrong way when one of its options cannot be read. -/
theorem exists_wrong_of_value? (ho : o ∈ c.spec.options) (hpage : o.page = none) {e : UsageError}
    (h : i.value? o = .error e) : ∃ e', i.assign c.spec = .error (.wrong e') := by
  have hunread : ∀ os, o ∈ os → ∀ vs, i.values (pageless os) ≠ .ok vs := by
    intro os hos vs hvs
    obtain ⟨v, hv⟩ := exists_values_iff.mp ⟨vs, hvs⟩ o (mem_pageless_iff.mpr ⟨hos, hpage⟩)
    cases hv.symm.trans h
  rw [assign_eq hwithin hpages harguments]
  cases hbefore : i.values (pageless i.words.options) with
  | error e' => exact ⟨e', rfl⟩
  | ok before =>
    cases hafter : i.values (pageless (i.unmentioned c.spec)) with
    | error e' => exact ⟨e', rfl⟩
    | ok after =>
      rcases (mem_options_iff hwithin).mp ho with hmentioned | hother
      · exact absurd hbefore (hunread _ hmentioned before)
      · exact absurd hafter (hunread _ hother after)

end Assign

end Inputs

end MaskPolicy.Command
