import MaskPolicy.Policy.Record
import MaskPolicy.Policy.Parse
import MaskPolicy.Proofs.Policy.Required

/-!
# Policies that lack a required symbol

A policy built by hand may ask for a special symbol and have none. Its required symbols cannot be
selected, and this is the only way in which a selection fails. Every other policy, and so every one
that is read from a mask, has its required symbols: at most one for each allowed class, in the order
of the classes and from their charsets.
-/

namespace MaskPolicy.Policy

/-- The policy asks for a special symbol and has none. -/
def LacksRequired {σ : Type} (p : Policy σ) : Prop :=
  p.special.allowed = true ∧ p.special.index.val ≠ 0 ∧ p.alphabet = []

variable {σ : Type} [Symbol σ]

/-- A selection fails only for an index other than zero, and only if there is nothing to select. -/
theorem selected_eq_error_iff {p : Policy σ} {c : CharClass} {e : SelectionError} :
    p.selected c = .error e ↔
      e = .emptyCharset ∧ (p.rule c).index.val ≠ 0 ∧ p.charset c = [] := by
  by_cases hi : (p.rule c).index.val = 0
  · simp [selected, cyclic, hi]
  · cases hs : p.charset c with
    | nil =>
      have hselected : p.selected c = .error .emptyCharset := by
        rw [selected, hs, cyclic, if_neg (by omega), if_neg (by omega)]
        rfl
      simp [hselected, hi, eq_comm]
    | cons x xs =>
      obtain ⟨y, hy⟩ := cyclic_isOk (List.cons_ne_nil x xs)
        (Int.natCast_nonneg (p.rule c).index.val)
      simp [selected, hs, hy]

/-- Selections fail when that of one of the classes does. -/
theorem selections_eq_error_iff {p : Policy σ} {cs : List CharClass} {e : SelectionError} :
    p.selections cs = .error e ↔
      e = .emptyCharset ∧ ∃ c ∈ cs, (p.rule c).index.val ≠ 0 ∧ p.charset c = [] := by
  induction cs with
  | nil => simp [selections]
  | cons c cs ih =>
    rw [selections]
    cases hc : p.selected c with
    | error e' =>
      obtain ⟨rfl, hbad⟩ := selected_eq_error_iff.mp hc
      constructor
      · intro h
        exact ⟨(Except.error.inj h).symm, c, List.mem_cons_self, hbad⟩
      · rintro ⟨rfl, -⟩
        rfl
    | ok x =>
      have hgood : ¬((p.rule c).index.val ≠ 0 ∧ p.charset c = []) := by
        intro hbad
        rw [selected_eq_error_iff.mpr ⟨rfl, hbad⟩] at hc
        cases hc
      have hmap :
          (p.selections cs).map (x.toList ++ ·) = .error e ↔ p.selections cs = .error e := by
        cases p.selections cs <;> simp [Except.map]
      simp only [hmap, ih, List.mem_cons, or_and_right, exists_or, exists_eq_left, hgood, false_or]

/-- The required symbols cannot be selected exactly when a special one is lacking. -/
theorem required?_eq_error_iff {p : Policy σ} {e : SelectionError} :
    p.required? = .error e ↔ e = .emptyCharset ∧ p.LacksRequired := by
  rw [required?, selections_eq_error_iff]
  refine and_congr_right fun _ => ⟨?_, ?_⟩
  · rintro ⟨c, hc, hi, hs⟩
    have hallowed : (p.rule c).allowed = true := (List.mem_filter.mp hc).2
    by_cases hspecial : c = .special
    · subst hspecial
      exact ⟨hallowed, hi, hs⟩
    · rw [charset, if_neg hspecial, List.map_eq_nil_iff, CharClass.letters_eq_nil_iff] at hs
      exact absurd hs hspecial
  · rintro ⟨hallowed, hi, hs⟩
    exact ⟨.special, List.mem_filter.mpr ⟨CharClass.mem_all _, hallowed⟩, hi, hs⟩

private theorem exists_chosen_of_selections {p : Policy σ} {cs : List CharClass} {xs : List σ}
    (h : p.selections cs = .ok xs) :
    ∃ chosen : List (CharClass × σ), chosen.map Prod.snd = xs ∧
      (chosen.map Prod.fst).Sublist cs ∧ ∀ s ∈ chosen, s.2 ∈ p.charset s.1 := by
  obtain ⟨chosen, hsymbols, hclasses, hselected⟩ := exists_choices_of_selections h
  refine ⟨chosen, hsymbols, ?_, fun s hs => mem_of_cyclic (hselected s hs)⟩
  rw [hclasses]
  exact List.filter_sublist

private theorem not_lacksRequired_of_usable (p : UsablePolicy) : ¬p.withTexts.LacksRequired := by
  rintro ⟨hallowed, -, hnil⟩
  exact p.usable hallowed (List.map_eq_nil_iff.mp hnil)

/-- The required symbols of a policy are allowed. A policy has them unless it lacks one, which none
that is read from a mask does; they are at most one for each allowed class, in the order of the
classes, each from the charset of its class and so allowed; and where nothing is allowed nothing is
required. -/
theorem required?_allowed (p : Policy Text) :
    (∀ e, p.required? = .error e ↔ e = .emptyCharset ∧ p.LacksRequired) ∧
    (¬p.LacksRequired → ∃ chosen : List (CharClass × Text),
      p.required? = .ok (chosen.map Prod.snd) ∧
      (chosen.map Prod.fst).Sublist p.allowedClasses ∧
      (∀ s ∈ chosen, s.2 ∈ p.charset s.1 ∧ s.2 ∈ p.allowed) ∧
      (p.allowed = [] → chosen = [])) ∧
    ∀ mask entries q, parse mask entries = .ok q → q.withTexts = p → ¬p.LacksRequired := by
  refine ⟨fun e => required?_eq_error_iff, fun hp => ?_, ?_⟩
  · obtain ⟨xs, hxs⟩ : ∃ xs, p.required? = .ok xs := by
      cases h : p.required? with
      | ok xs => exact ⟨xs, rfl⟩
      | error e => exact absurd (required?_eq_error_iff.mp h).2 hp
    obtain ⟨chosen, rfl, hsub, hmem⟩ := exists_chosen_of_selections hxs
    have hallowed : ∀ s ∈ chosen, s.2 ∈ p.allowed := fun s hs =>
      p.mem_allowed_of_required? hxs (List.mem_map_of_mem hs)
    refine ⟨chosen, hxs, hsub, fun s hs => ⟨hmem s hs, hallowed s hs⟩, fun hnil => ?_⟩
    rw [List.eq_nil_iff_forall_not_mem]
    intro s hs
    have hs' := hallowed s hs
    rw [hnil] at hs'
    exact List.not_mem_nil hs'
  · rintro mask entries q - rfl
    exact not_lacksRequired_of_usable q

/-- The members of a policy that wants the first special symbol and has none. -/
def withoutSymbols : Json := .obj [
  ("special_allowed".toList, .bool true),
  ("required_special_index".toList, .int 1),
  ("special_alphabet".toList, .arr [])]

/-- It is a policy like any other, and has no required symbols. -/
theorem required?_withoutSymbols :
    ∃ p, codec.decode withoutSymbols = .ok p ∧ ¬∃ xs, p.required? = .ok xs := by
  refine ⟨_, rfl, ?_⟩
  rintro ⟨xs, hxs⟩
  cases hxs

/-- A policy whose indexes wrap around, with a special symbol that is no character. -/
def wrapped : Policy Text where
  uppercase := ⟨false, Fin.last 9⟩
  lowercase := ⟨false, Fin.last 9⟩
  digitsLow := ⟨true, Fin.last 9⟩
  digitsHigh := ⟨false, Fin.last 9⟩
  special := ⟨true, Fin.last 9⟩
  minLength := 4
  alphabet := [['<', '>'], ['|']]

/-- Its required symbols are the third of its digits and its first special symbol. -/
theorem required?_allowed_wrapped :
    ¬wrapped.LacksRequired ∧ wrapped.required? = .ok [['2'], ['<', '>']] ∧
    ∃ chosen : List (CharClass × Text), wrapped.required? = .ok (chosen.map Prod.snd) ∧
      (chosen.map Prod.fst).Sublist wrapped.allowedClasses := by
  have h : ¬wrapped.LacksRequired := by
    rintro ⟨-, -, hnil⟩
    cases hnil
  obtain ⟨chosen, hxs, hsub, -⟩ := (required?_allowed wrapped).2.1 h
  exact ⟨h, rfl, chosen, hxs, hsub⟩

end MaskPolicy.Policy
