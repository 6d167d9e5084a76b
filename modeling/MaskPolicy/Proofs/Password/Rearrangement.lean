import MaskPolicy.Proofs.Password.Feasibility

/-!
# Rearranged and extended passwords

A check counts the characters of a password and asks which of them there are, so that their order
does not matter: it only shows in the order in which the characters that are not allowed are
reported. Allowed characters may be added to a password at either end. They make it longer, bring no
character that is not allowed and take none away that is required, so that they remove errors and
cause none.
-/

namespace MaskPolicy

namespace UsablePolicy

variable {p : UsablePolicy} {w w' : Text}

/-- A longer password does not break the minimum length when a shorter one keeps it. -/
theorem lengthViolations_sublist (h : w.length ≤ w'.length) :
    (p.lengthViolations w').Sublist (p.lengthViolations w) := by
  unfold lengthViolations
  split
  · next hshort =>
    have hshorter : w.length < p.minLength := Nat.lt_of_le_of_lt h hshort
    rw [if_pos hshorter]
  · exact List.nil_sublist _

theorem lengthViolations_perm (h : w.Perm w') : p.lengthViolations w = p.lengthViolations w' := by
  rw [lengthViolations, lengthViolations, h.length_eq]

/-- The characters that are not allowed are rearranged with the password. -/
theorem characterViolations_perm (h : w.Perm w') :
    (p.characterViolations w).Perm (p.characterViolations w') :=
  (h.filter _).map _

/-- The characters that are not allowed are those of the parts of a password. -/
theorem characterViolations_append (p : UsablePolicy) (w w' : Text) :
    p.characterViolations (w ++ w') = p.characterViolations w ++ p.characterViolations w' := by
  simp only [characterViolations, List.filter_append, List.map_append]

/-- Allowed characters are no violations. -/
theorem characterViolations_of_allowed (h : ∀ c ∈ w, c ∈ p.allowed) :
    p.characterViolations w = [] := by
  rw [characterViolations, List.map_eq_nil_iff, List.filter_eq_nil_iff]
  intro c hc
  simpa using h c hc

/-- A password that holds the characters of another one misses no more of the required ones. -/
theorem requirementViolations_sublist (h : w ⊆ w') :
    (p.requirementViolations w').Sublist (p.requirementViolations w) := by
  refine (List.monotone_filter_right _ fun c hc => ?_).map _
  rw [decide_eq_true_iff] at hc ⊢
  exact fun hw => hc (h hw)

/-- Passwords that hold the same characters miss the same required ones. -/
theorem requirementViolations_congr (h : ∀ c, c ∈ w ↔ c ∈ w') :
    p.requirementViolations w = p.requirementViolations w' := by
  simp only [requirementViolations, h]

theorem found_congr (h : ∀ c, c ∈ w ↔ c ∈ w') : p.found w = p.found w' := by
  simp only [found, h]

/-- A rearranged password has the same violations in some order. -/
theorem violations_perm (h : w.Perm w') : (p.violations w).Perm (p.violations w') := by
  have hmissing : p.requirementViolations w = p.requirementViolations w' :=
    requirementViolations_congr fun _ => h.mem_iff
  rw [violations, violations, lengthViolations_perm h, hmissing]
  exact ((characterViolations_perm h).append_left _).append_right _

/-- A password that holds another one and no further character that is not allowed has no more
violations. -/
theorem violations_sublist (hlength : w.length ≤ w'.length) (hsubset : w ⊆ w')
    (hcharacters : p.characterViolations w' = p.characterViolations w) :
    (p.violations w').Sublist (p.violations w) := by
  rw [violations, violations, hcharacters]
  exact ((lengthViolations_sublist hlength).append_right _).append
    (requirementViolations_sublist hsubset)

/-- Allowed characters around a password cause no violations. -/
theorem violations_surrounded_sublist {before after : Text} (hbefore : ∀ c ∈ before, c ∈ p.allowed)
    (hafter : ∀ c ∈ after, c ∈ p.allowed) :
    (p.violations (before ++ w ++ after)).Sublist (p.violations w) := by
  refine violations_sublist ?_ ?_ ?_
  · simp only [List.length_append]
    omega
  · exact fun c hc => List.mem_append_left _ (List.mem_append_right _ hc)
  · rw [characterViolations_append, characterViolations_append,
      characterViolations_of_allowed hbefore, characterViolations_of_allowed hafter,
      List.nil_append, List.append_nil]

end UsablePolicy

/-- A check is indifferent to the order of characters, and allowed characters that are added only
improve its outcome. A rearranged password is as valid, with the same details and the same errors in
some order: those about the length and about missing characters are the same, and only those about
characters that are not allowed may change places. After allowed characters are added at an end of a
password, its errors are some of those from before in the same order, and it stays valid if it was.
-/
theorem validate_perm_append {mask : Json} {entries : List Json} {p : UsablePolicy}
    (hp : Policy.parse mask entries = .ok p) :
    (∀ w, (validate w mask entries).errors =
      (p.lengthViolations w ++ p.characterViolations w ++ p.requirementViolations w).map
        Violation.message) ∧
    (∀ w w' : Text, w.Perm w' →
      (validate w mask entries).isValid = (validate w' mask entries).isValid ∧
      (validate w mask entries).details = (validate w' mask entries).details ∧
      (validate w mask entries).errors.Perm (validate w' mask entries).errors ∧
      p.lengthViolations w = p.lengthViolations w' ∧
      (p.characterViolations w).Perm (p.characterViolations w') ∧
      p.requirementViolations w = p.requirementViolations w') ∧
    ∀ w extra : Text, (∀ c ∈ extra, c ∈ p.allowed) →
      (validate (w ++ extra) mask entries).errors.Sublist (validate w mask entries).errors ∧
      (validate (extra ++ w) mask entries).errors.Sublist (validate w mask entries).errors ∧
      ((validate w mask entries).isValid = true →
        (validate (w ++ extra) mask entries).isValid = true ∧
          (validate (extra ++ w) mask entries).isValid = true) := by
  simp only [validate_of_parse hp, ValidationResult.ofPolicy, List.isEmpty_iff]
  refine ⟨fun w => rfl, ?_, ?_⟩
  · intro w w' h
    have hviolations := p.violations_perm h
    have hmem : ∀ c, c ∈ w ↔ c ∈ w' := fun c => h.mem_iff
    refine ⟨hviolations.isEmpty_eq, ?_, hviolations.map _, p.lengthViolations_perm h,
      p.characterViolations_perm h, p.requirementViolations_congr hmem⟩
    simp only [h.length_eq, p.found_congr hmem]
  · intro w extra h
    have hafter : (p.violations (w ++ extra)).Sublist (p.violations w) :=
      p.violations_surrounded_sublist (List.forall_mem_nil _) h
    have hbefore : (p.violations (extra ++ w)).Sublist (p.violations w) := by
      have hsublist := p.violations_surrounded_sublist (w := w) h (List.forall_mem_nil _)
      rwa [List.append_nil] at hsublist
    refine ⟨hafter.map _, hbefore.map _, fun hvalid => ?_⟩
    rw [hvalid] at hafter hbefore
    exact ⟨List.sublist_nil.mp hafter, List.sublist_nil.mp hbefore⟩

/-- A password that is too short, holds three characters that are not allowed and lacks a letter;
the letter is added, and another one that makes it long enough. -/
theorem validate_perm_append_short :
    (validate "x1x".toList (.str "12000000005".toList) []).errors =
      ["Password must be at least 5 characters long".toList, "Character 'x' is not allowed".toList,
        "Character '1' is not allowed".toList, "Character 'x' is not allowed".toList,
        "Required character 'B' is missing".toList] ∧
    (validate "x1x".toList (.str "12000000005".toList) []).errors.Perm
      (validate "1xx".toList (.str "12000000005".toList) []).errors ∧
    (validate "x1xBA".toList (.str "12000000005".toList) []).errors.Sublist
      (validate "x1x".toList (.str "12000000005".toList) []).errors :=
  have hp : ∃ p, Policy.parse (.str "12000000005".toList) [] = .ok p ∧
      "BA".toList.all (· ∈ p.allowed) = true := ⟨_, rfl, by decide⟩
  let ⟨p, hparse, hall⟩ := hp
  let ⟨_, hperm, happend⟩ := validate_perm_append hparse
  have hallowed : ∀ c ∈ "BA".toList, c ∈ p.allowed :=
    fun c hc => of_decide_eq_true (List.all_eq_true.mp hall c hc)
  have hmoved : "x1x".toList.Perm "1xx".toList := by decide
  ⟨by decide +kernel, (hperm _ _ hmoved).2.2.1, (happend "x1x".toList _ hallowed).1⟩

end MaskPolicy
