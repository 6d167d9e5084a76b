import MaskPolicy.Policy.Basic

/-!
# Required symbols

The symbols that a policy requires are chosen class by class: an index other than zero chooses one
from the charset of its class, counting from one and wrapping around the end, and zero chooses none.
What a policy requires it also allows, since only allowed classes are chosen from.
-/

namespace MaskPolicy

section Cyclic

variable {α : Type} {charset : List α} {index : Int}

private theorem cyclic_eq_none_iff : cyclic charset index = .ok none ↔ index = 0 := by
  unfold cyclic
  split
  · next h => simp [h]
  · next h =>
    split
    · simp [h]
    · split <;> simp [h]

/-- Any other index that is not negative counts from one and wraps around the end. -/
theorem cyclic_eq_some_iff {x : α} :
    cyclic charset index = .ok (some x) ↔
      0 < index ∧ charset[(index - 1).toNat % charset.length]? = some x := by
  unfold cyclic
  split
  · next h => simp [h]
  · next h =>
    split
    · next hneg =>
      have hpos : ¬0 < index := by omega
      simp [hpos]
    · next hneg =>
      have hpos : 0 < index := by omega
      rw [and_iff_right hpos]
      split
      · next hnone => rw [hnone]; exact ⟨nofun, nofun⟩
      · next y hy => rw [hy, Except.ok.injEq]

theorem mem_of_cyclic {x : α} (h : cyclic charset index = .ok (some x)) : x ∈ charset :=
  List.mem_of_getElem? (cyclic_eq_some_iff.mp h).2

end Cyclic

namespace Policy

variable {σ : Type} [Symbol σ]

/-- A class whose selection succeeds chooses a symbol exactly when its index is not zero. -/
theorem index_ne_zero_iff_of_selected {p : Policy σ} {c : CharClass} {choice : Option σ}
    (h : p.selected c = .ok choice) : (p.rule c).index.val ≠ 0 ↔ choice.isSome = true := by
  cases choice with
  | none =>
    have hzero : ((p.rule c).index.val : Int) = 0 := cyclic_eq_none_iff.mp h
    simp [Int.natCast_eq_zero.mp hzero]
  | some x =>
    have hpos : 0 < ((p.rule c).index.val : Int) := (cyclic_eq_some_iff.mp h).1
    simp only [Option.isSome_some, iff_true]
    omega

/-- The selected symbols are the choices of the classes with an index, one of each and in order. -/
theorem exists_choices_of_selections {p : Policy σ} {cs : List CharClass} {xs : List σ}
    (h : p.selections cs = .ok xs) :
    ∃ choices : List (CharClass × σ), choices.map Prod.snd = xs ∧
      choices.map Prod.fst = cs.filter (fun c => (p.rule c).index.val ≠ 0) ∧
      ∀ s ∈ choices, p.selected s.1 = .ok (some s.2) := by
  induction cs generalizing xs with
  | nil =>
    obtain rfl : [] = xs := by simpa [selections] using h
    exact ⟨[], rfl, rfl, by simp⟩
  | cons c cs ih =>
    rw [selections] at h
    cases hc : p.selected c with
    | error e => simp [hc] at h
    | ok choice =>
      cases hcs : p.selections cs with
      | error e => simp [hc, hcs, Except.map] at h
      | ok rest =>
        obtain rfl : choice.toList ++ rest = xs := by simpa [hc, hcs, Except.map] using h
        obtain ⟨choices, rfl, hclasses, hselected⟩ := ih hcs
        have hindex := index_ne_zero_iff_of_selected hc
        cases choice with
        | none =>
          have hskip : ¬(p.rule c).index.val ≠ 0 := mt hindex.mp (by simp)
          refine ⟨choices, rfl, ?_, hselected⟩
          rw [hclasses, List.filter_cons, if_neg (by rwa [decide_eq_true_iff])]
        | some x =>
          have hkeep : (p.rule c).index.val ≠ 0 := hindex.mpr rfl
          refine ⟨(c, x) :: choices, rfl, ?_, ?_⟩
          · rw [List.map_cons, hclasses, List.filter_cons, if_pos (by rwa [decide_eq_true_iff])]
          · intro s hs
            rcases List.mem_cons.mp hs with rfl | hs
            · exact hc
            · exact hselected s hs

private theorem exists_charset_of_selections (p : Policy σ) {cs : List CharClass} {xs : List σ}
    (h : p.selections cs = .ok xs) {x : σ} (hx : x ∈ xs) : ∃ c ∈ cs, x ∈ p.charset c := by
  obtain ⟨choices, rfl, hclasses, hselected⟩ := exists_choices_of_selections h
  obtain ⟨s, hs, rfl⟩ := List.mem_map.mp hx
  have hclass : s.1 ∈ cs.filter (fun c => (p.rule c).index.val ≠ 0) :=
    hclasses ▸ List.mem_map_of_mem hs
  exact ⟨s.1, (List.mem_filter.mp hclass).1, mem_of_cyclic (hselected s hs)⟩

/-- Required symbols are allowed. -/
theorem mem_allowed_of_required? (p : Policy σ) {xs : List σ} (h : p.required? = .ok xs) {x : σ}
    (hx : x ∈ xs) : x ∈ p.allowed := by
  obtain ⟨c, hc, hxc⟩ := p.exists_charset_of_selections h hx
  exact List.mem_flatMap.mpr ⟨c, hc, hxc⟩

end Policy

/-- Required characters are allowed. -/
theorem UsablePolicy.mem_allowed_of_mem_required (p : UsablePolicy) {c : Char}
    (hc : c ∈ p.required) : c ∈ p.allowed :=
  p.toPolicy.mem_allowed_of_required? p.required?_eq hc

end MaskPolicy
