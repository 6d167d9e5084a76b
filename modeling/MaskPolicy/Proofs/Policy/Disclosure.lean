import MaskPolicy.Policy.Description
import MaskPolicy.Proofs.Password.Observation

/-!
# What a description discloses

A description shows every part of a policy that checks and generations use. Its labels tell which
classes are allowed, and the label of the special class lists the special characters in a way that
can be read off again: whatever the characters are, commas, spaces and brackets among them, the same
separator stands before each of them but the first. The required characters and the minimum length
are shown as they are. So masks with the same description accept the same passwords for the same
reasons, and generate the same passwords from the same draws.
-/

namespace MaskPolicy

namespace Text

theorem singletons_injective {s t : Text} (h : singletons s = singletons t) : s = t :=
  (List.map_inj_right fun _ _ he => (List.cons.inj he).1).mp h

private theorem joinWith_singletons_cons (sep : Text) (c : Char) (cs : Text) :
    joinWith sep (singletons (c :: cs)) = c :: cs.flatMap fun d => sep ++ [d] := by
  induction cs generalizing c with
  | nil => exact List.intercalate_singleton
  | cons d ds ih =>
    have hstep : joinWith sep (singletons (c :: d :: ds)) =
        [c] ++ sep ++ joinWith sep (singletons (d :: ds)) := List.intercalate_cons_cons
    rw [hstep, ih, List.flatMap_cons]
    simp only [List.cons_append, List.nil_append, List.append_assoc]

private theorem eq_of_flatMap_separated (sep : Text) {s t : Text}
    (h : (s.flatMap fun d => sep ++ [d]) = t.flatMap fun d => sep ++ [d]) : s = t := by
  induction s generalizing t with
  | nil =>
    cases t with
    | nil => rfl
    | cons d t => simp at h
  | cons c s ih =>
    cases t with
    | nil => simp at h
    | cons d t =>
      rw [List.flatMap_cons, List.flatMap_cons, List.append_assoc, List.append_assoc] at h
      obtain ⟨rfl, hrest⟩ := List.cons.inj (List.append_cancel_left h)
      rw [ih hrest]

/-- Joined characters are read off again, whatever they are and whatever stands between them. -/
theorem joinWith_singletons_injective (sep : Text) {s t : Text}
    (h : joinWith sep (singletons s) = joinWith sep (singletons t)) : s = t := by
  cases s with
  | nil =>
    cases t with
    | nil => rfl
    | cons d t =>
      rw [joinWith_singletons_cons] at h
      cases h
  | cons c s =>
    cases t with
    | nil =>
      rw [joinWith_singletons_cons] at h
      cases h
    | cons d t =>
      rw [joinWith_singletons_cons, joinWith_singletons_cons] at h
      obtain ⟨rfl, hrest⟩ := List.cons.inj h
      rw [eq_of_flatMap_separated sep hrest]

end Text

namespace CharClass

/-- The class that a label is about. The labels differ within their first eight characters. -/
def ofLabel? (label : Text) : Option CharClass :=
  all.find? fun c => (c.label []).take 8 = label.take 8

/-- The class is read off its label. -/
theorem ofLabel?_label (c : CharClass) (symbols : List Text) :
    ofLabel? (c.label symbols) = some c := by
  cases c <;> rfl

end CharClass

namespace Policy

variable {p q : Policy Char}

private theorem map_ofLabel?_labels (p : Policy Char) :
    (p.allowedClasses.map p.label).map CharClass.ofLabel? = p.allowedClasses.map some := by
  rw [List.map_map]
  exact List.map_congr_left fun c _ => c.ofLabel?_label _

/-- Policies with the same labels allow the same classes. -/
theorem allowedClasses_eq_of_labels
    (h : p.allowedClasses.map p.label = q.allowedClasses.map q.label) :
    p.allowedClasses = q.allowedClasses := by
  have hread := congrArg (List.map CharClass.ofLabel?) h
  rw [map_ofLabel?_labels, map_ofLabel?_labels] at hread
  exact (List.map_inj_right fun _ _ => Option.some.inj).mp hread

/-- The label of the special class tells the alphabet. -/
theorem alphabet_eq_of_label (h : p.label .special = q.label .special) :
    p.alphabet = q.alphabet := by
  have hlabel (r : Policy Char) : r.label .special = "Special characters (".toList ++
      (Text.joinWith ", ".toList (Text.singletons r.alphabet) ++ [')']) := List.append_assoc ..
  rw [hlabel, hlabel] at h
  exact Text.joinWith_singletons_injective _
    (List.append_cancel_right (List.append_cancel_left h))

/-- Classes with the same label have the same characters. -/
theorem charset_eq_of_label {c : CharClass} (h : p.label c = q.label c) :
    p.charset c = q.charset c := by
  unfold charset
  by_cases hc : c = .special
  · subst hc
    rw [if_pos rfl, if_pos rfl, alphabet_eq_of_label h]
  · rw [if_neg hc, if_neg hc]

/-- Policies with the same labels allow the same characters. -/
theorem allowed_eq_of_labels (h : p.allowedClasses.map p.label = q.allowedClasses.map q.label) :
    p.allowed = q.allowed := by
  have hclasses := allowedClasses_eq_of_labels h
  rw [hclasses] at h
  have hlabel : ∀ c ∈ q.allowedClasses, p.label c = q.label c := List.map_inj_left.mp h
  have hcharset : q.allowedClasses.map p.charset = q.allowedClasses.map q.charset :=
    List.map_congr_left fun c hc => charset_eq_of_label (hlabel c hc)
  rw [allowed, allowed, hclasses, List.flatMap_def, List.flatMap_def, hcharset]

end Policy

namespace UsablePolicy

variable {p q : UsablePolicy}

/-- The parts of a policy that checks and generations use can be read off its description. -/
theorem shown_of_description (h : p.description = q.description) :
    p.allowed = q.allowed ∧ p.required = q.required ∧ p.minLength = q.minLength := by
  obtain ⟨-, hrequired, hlength, hlabels, -⟩ := MaskDescription.mk.inj h
  exact ⟨Policy.allowed_eq_of_labels hlabels, Text.singletons_injective hrequired,
    Int.ofNat.inj hlength⟩

end UsablePolicy

/-- A check uses nothing of a policy but its characters and its minimum length. -/
theorem ValidationResult.ofPolicy_congr {p q : UsablePolicy} (ha : p.allowed = q.allowed)
    (hr : p.required = q.required) (hm : p.minLength = q.minLength) (password : Text) :
    ofPolicy p password = ofPolicy q password := by
  have hviolations : p.violations password = q.violations password := by
    simp only [UsablePolicy.violations, UsablePolicy.lengthViolations,
      UsablePolicy.characterViolations, UsablePolicy.requirementViolations, ha, hr, hm]
  simp only [ofPolicy, UsablePolicy.found, hviolations, ha, hr, hm]

/-- A description without an error is that of the policy that the mask denotes. -/
theorem exists_policy_of_describe {mask : Json} {entries : List Json}
    (h : (describe mask entries).error = none) :
    ∃ p, Policy.parse mask entries = .ok p ∧ describe mask entries = p.description := by
  cases hp : Policy.parse mask entries with
  | error e => simp [describe, hp] at h
  | ok p => exact ⟨p, rfl, describe_of_parse hp⟩

/-- Masks with alphabets that have the same description, and not that of an error, cannot be told
apart by checking passwords nor by generating them. -/
theorem describe_determines {mask mask' : Json} {entries entries' : List Json}
    (h : describe mask entries = describe mask' entries')
    (hne : (describe mask entries).error = none) :
    (∀ password, validate password mask entries = validate password mask' entries') ∧
    ∀ (σ : Type) (source : Source σ) (requested : Option Int) (state : σ),
      observed (generate source mask entries requested state) =
        observed (generate source mask' entries' requested state) := by
  obtain ⟨p, hp, hd⟩ := exists_policy_of_describe hne
  obtain ⟨q, hq, hd'⟩ := exists_policy_of_describe (h ▸ hne)
  obtain ⟨ha, hr, hm⟩ := UsablePolicy.shown_of_description (hd.symm.trans (h.trans hd'))
  constructor
  · intro password
    rw [validate_of_parse hp, validate_of_parse hq]
    exact ValidationResult.ofPolicy_congr ha hr hm password
  · intro σ source requested state
    rw [generate_of_parse hp, generate_of_parse hq]
    exact UsablePolicy.generate_observed_congr ha hr hm source _ _ requested state

/-- Two masks over an alphabet of brackets and commas, which differ in a flag that allows nothing,
in the index beside it, in an index that wraps around to the same character and in a last digit of
zero. -/
theorem describe_determines_wrapped :
    describe (.str "00000000111".toList) [.str [','], .str [')']] =
      describe (.str "95000000130".toList) [.str [','], .str [')']] ∧
    (∀ password, validate password (.str "00000000111".toList) [.str [','], .str [')']] =
      validate password (.str "95000000130".toList) [.str [','], .str [')']]) ∧
    observed (generate Source.ofList (.str "00000000111".toList) [.str [','], .str [')']] none
        [1, 0, 2]) =
      observed (generate Source.ofList (.str "95000000130".toList) [.str [','], .str [')']] none
        [1, 0, 2]) :=
  have h : describe (.str "00000000111".toList) [.str [','], .str [')']] =
      describe (.str "95000000130".toList) [.str [','], .str [')']] := by decide +kernel
  have hsame := describe_determines h (by decide +kernel)
  ⟨h, hsame.1, hsame.2 _ Source.ofList none [1, 0, 2]⟩

end MaskPolicy
