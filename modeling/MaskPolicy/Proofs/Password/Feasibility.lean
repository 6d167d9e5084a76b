import MaskPolicy.Proofs.Password.Composition
import MaskPolicy.Proofs.Password.Observation
import Mathlib.Data.List.Dedup

/-!
# When generating gives up

The generator keeps a place for each required character, and two places where two classes require
the same one. A check is content with one place for both. So generating fails exactly when no
accepted text of the length holds every required character as often as it is required. As long as no
character is required twice these are the lengths for which no text is accepted at all; otherwise
there are lengths for which a text is accepted and generating fails all the same.
-/

namespace MaskPolicy

namespace UsablePolicy

variable {p : UsablePolicy}

private theorem exists_fill {text : Text} (hne : p.allowed ≠ [])
    (hallowed : ∀ c ∈ text, c ∈ p.allowed) (hrequired : ∀ c ∈ p.required, c ∈ text) {length : Int}
    (hm : p.minLength ≤ length) (hle : text.length ≤ length) :
    ∃ fill : Text, ((text ++ fill).length : Int) = length ∧ p.Accepts (text ++ fill) := by
  obtain ⟨c, hc⟩ := List.exists_mem_of_ne_nil _ hne
  let fill : Text := List.replicate (length.toNat - text.length) c
  have hlength : ((text ++ fill).length : Int) = length := by
    rw [List.length_append, List.length_replicate]
    omega
  refine ⟨fill, hlength, by omega, ?_, ?_⟩
  · intro x hx
    rcases List.mem_append.mp hx with htext | hfill
    · exact hallowed x htext
    · rw [List.eq_of_mem_replicate hfill]
      exact hc
  · intro x hx
    exact List.mem_append_left _ (hrequired x hx)

private theorem Accepts.allowed_ne_nil {password : Text} (h : p.Accepts password) :
    p.allowed ≠ [] := by
  have hpos : 0 < password.length := Nat.lt_of_lt_of_le p.one_le_minLength h.1
  obtain ⟨c, hc⟩ := List.exists_mem_of_length_pos hpos
  exact List.ne_nil_of_mem (h.2.1 c hc)

/-- A text of a length is accepted exactly when there are characters, the length is not too short,
and it leaves a place for each of the different required characters. -/
theorem exists_accepted_iff (p : UsablePolicy) (length : Int) :
    (∃ w : Text, (w.length : Int) = length ∧ p.Accepts w) ↔
      p.allowed ≠ [] ∧ p.minLength ≤ length ∧ p.required.dedup.length ≤ length := by
  constructor
  · rintro ⟨w, rfl, h⟩
    have hsubset : p.required.dedup ⊆ w := fun c hc => h.2.2 c (List.mem_dedup.mp hc)
    have hle := (List.subperm_of_subset (List.nodup_dedup p.required) hsubset).length_le
    have hm := h.1
    exact ⟨h.allowed_ne_nil, by omega, by omega⟩
  · rintro ⟨hne, hm, hle⟩
    have hallowed : ∀ c ∈ p.required.dedup, c ∈ p.allowed := fun c hc =>
      p.mem_allowed_of_mem_required (List.mem_dedup.mp hc)
    obtain ⟨fill, hlength, h⟩ :=
      exists_fill hne hallowed (fun c hc => List.mem_dedup.mpr hc) hm hle
    exact ⟨_, hlength, h⟩

/-- A text of a length is accepted that holds every required character as often as it is required
exactly when nothing keeps a password of the length from being generated. -/
theorem exists_accepted_repeating_iff (p : UsablePolicy) (mask : Text) (length : Int) :
    (∃ w : Text, (w.length : Int) = length ∧ p.Accepts w ∧
      ∀ c, p.required.count c ≤ w.count c) ↔ p.obstacle? mask (some length) = none := by
  have htarget : p.targetLength (some length) = length := rfl
  rw [obstacle?_eq_none_iff, htarget]
  constructor
  · rintro ⟨w, rfl, h, hcount⟩
    have hle := (List.subperm_ext_iff.mpr fun c _ => hcount c).length_le
    have hm := h.1
    exact ⟨h.allowed_ne_nil, by omega, by omega⟩
  · rintro ⟨hne, hm, hle⟩
    obtain ⟨fill, hlength, h⟩ :=
      exists_fill hne (fun c hc => p.mem_allowed_of_mem_required hc) (fun c hc => hc) hm hle
    refine ⟨_, hlength, h, fun c => ?_⟩
    rw [List.count_append]
    exact Nat.le_add_right _ _

/-- Where no character is required twice, an accepted text holds each as often as it is required. -/
theorem Accepts.count_le {password : Text} (h : p.Accepts password) (hnodup : p.required.Nodup)
    (c : Char) : p.required.count c ≤ password.count c := by
  by_cases hc : c ∈ p.required
  · rw [List.count_eq_one_of_mem hnodup hc]
    exact List.count_pos_iff.mpr (h.2.2 c hc)
  · rw [List.count_eq_zero_of_not_mem hc]
    exact Nat.zero_le _

/-- Generating fails exactly when something stands in the way. -/
theorem exists_error_iff {σ : Type} (p : UsablePolicy) (source : Source σ) (mask : Text)
    (requested : Option Int) (state : σ) :
    (∃ e, (p.generate source mask requested state).1 = .error e) ↔
      p.obstacle? mask requested ≠ none := by
  simp only [generate_eq_error_iff]
  exact Option.ne_none_iff_exists'.symm

end UsablePolicy

/-- A check finds nothing wrong exactly with the accepted passwords. -/
theorem isValid_validate_iff {mask : Json} {entries : List Json} {p : UsablePolicy}
    (hp : Policy.parse mask entries = .ok p) (password : Text) :
    (validate password mask entries).isValid = true ↔ p.Accepts password := by
  rw [validate_of_parse hp, ← p.violations_eq_nil_iff]
  exact List.isEmpty_iff

/-- Generating a password of some length fails, and then with a fault of generation, exactly when no
text of the length that holds every required character as often as it is required passes the check.
When no character is required twice, it fails exactly when no text of the length passes. A text
passes although generating fails exactly when the length leaves a place for each of the different
required characters, but not for each as often as it is required. -/
theorem generate_fails_iff {mask : Json} {entries : List Json} {p : UsablePolicy}
    (hp : Policy.parse mask entries = .ok p) {σ : Type} (source : Source σ) (length : Int)
    (state : σ) :
    (∀ e, (generate source mask entries (some length) state).1 = .error e →
      e.kind.parent? = some .generation) ∧
    ((∃ e, (generate source mask entries (some length) state).1 = .error e) ↔
      ¬∃ w : Text, (w.length : Int) = length ∧ (validate w mask entries).isValid = true ∧
        ∀ c, p.required.count c ≤ w.count c) ∧
    (p.required.Nodup →
      ((∃ e, (generate source mask entries (some length) state).1 = .error e) ↔
        ¬∃ w : Text, (w.length : Int) = length ∧ (validate w mask entries).isValid = true)) ∧
    (((∃ e, (generate source mask entries (some length) state).1 = .error e) ∧
        ∃ w : Text, (w.length : Int) = length ∧ (validate w mask entries).isValid = true) ↔
      p.allowed ≠ [] ∧ p.minLength ≤ length ∧ p.required.dedup.length ≤ length ∧
        length < p.required.length) := by
  simp only [isValid_validate_iff hp, generate_of_parse hp]
  have hfails := p.exists_error_iff source mask.plain (some length) state
  have hrepeating := p.exists_accepted_repeating_iff mask.plain length
  refine ⟨fun e => UsablePolicy.parent_kind_of_generate, ?_, ?_, ?_⟩
  · rw [hfails, hrepeating]
  · intro hnodup
    have hsame : (∃ w : Text, (w.length : Int) = length ∧ p.Accepts w) ↔
        p.obstacle? mask.plain (some length) = none := by
      rw [← hrepeating]
      constructor
      · rintro ⟨w, hlength, h⟩
        exact ⟨w, hlength, h, h.count_le hnodup⟩
      · rintro ⟨w, hlength, h, -⟩
        exact ⟨w, hlength, h⟩
    rw [hfails, hsame]
  · have htarget : p.targetLength (some length) = length := rfl
    rw [hfails, p.exists_accepted_iff, Ne, p.obstacle?_eq_none_iff, htarget]
    constructor
    · rintro ⟨hobstacle, hne, hm, hdistinct⟩
      refine ⟨hne, hm, hdistinct, ?_⟩
      by_contra hlt
      exact hobstacle ⟨hne, hm, Int.not_lt.mp hlt⟩
    · rintro ⟨hne, hm, hdistinct, hlt⟩
      exact ⟨fun h => absurd h.2.2 (Int.not_le.mpr hlt), hne, hm, hdistinct⟩

/-- Two classes require the character one. Its text of length one passes the check, and generating a
password of this length fails. -/
theorem generate_fails_on_accepted :
    (∃ p, Policy.parse (.str "00001200111".toList) [.str ['1']] = .ok p) ∧
    (generate Source.ofList (.str "00001200111".toList) [.str ['1']] (some 1) []).1 =
      .error (.belowRequired 1 2) ∧
    (['1'] : Text).length = 1 ∧
    (validate ['1'] (.str "00001200111".toList) [.str ['1']]).isValid = true :=
  ⟨⟨_, rfl⟩, rfl, rfl, rfl⟩

/-- Three characters are required, all of them different, so no text of length two passes. -/
theorem generate_fails_iff_distinct :
    ∃ p, Policy.parse (.str "11111100001".toList) [] = .ok p ∧ p.required.Nodup ∧
      ((∃ e, (generate Source.ofList (.str "11111100001".toList) [] (some 2) []).1 = .error e) ↔
        ¬∃ w : Text, (w.length : Int) = 2 ∧
          (validate w (.str "11111100001".toList) []).isValid = true) :=
  have hparse : ∃ p, Policy.parse (.str "11111100001".toList) [] = .ok p ∧
      p.required = ['A', 'a', '0'] := ⟨_, rfl, rfl⟩
  let ⟨p, hp, hr⟩ := hparse
  have hnodup : p.required.Nodup := by
    rw [hr]
    decide
  ⟨p, hp, hnodup, (generate_fails_iff hp Source.ofList 2 []).2.2.1 hnodup⟩

end MaskPolicy
