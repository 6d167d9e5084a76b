import Mathlib.Data.List.Basic
import MaskPolicy.Policy.Description
import MaskPolicy.Proofs.Policy.Required

/-!
# Descriptions and checks agree

A description goes through the allowed classes on its own and selects a character from each that
asks for one; its required characters, and those of a check, are selected separately. All three come
out alike: there is one list of choices, a class with a character each, and the required characters,
the rules and the details of a check are read off it. The labels and the allowed characters are in
turn both read off the list of allowed classes.
-/

namespace MaskPolicy

namespace Policy

/-- The allowed classes are listed in mask order. -/
theorem allowedClasses_sublist {σ : Type} (p : Policy σ) :
    p.allowedClasses.Sublist CharClass.all := List.filter_sublist

/-- Every allowed class is listed. -/
theorem mem_allowedClasses_iff {σ : Type} {p : Policy σ} {c : CharClass} :
    c ∈ p.allowedClasses ↔ (p.rule c).allowed = true := by
  rw [allowedClasses, List.mem_filter, and_iff_right (CharClass.mem_all c)]

end Policy

namespace UsablePolicy

variable {p : UsablePolicy}

private theorem requirement?_of_selected {c : CharClass} {x : Char}
    (h : p.toPolicy.selected c = .ok (some x)) : p.requirement? c = some (c.requirement [x]) := by
  rw [requirement?, h]

private theorem index_ne_zero_of_requirement? {c : CharClass} {rule : Text}
    (h : p.requirement? c = some rule) : (p.rule c).index.val ≠ 0 := by
  unfold requirement? at h
  split at h
  · next x hx => exact (Policy.index_ne_zero_iff_of_selected hx).mpr rfl
  · cases h

private theorem filterMap_requirement?_filter (p : UsablePolicy) (cs : List CharClass) :
    (cs.filter fun c => (p.rule c).index.val ≠ 0).filterMap p.requirement? =
      cs.filterMap p.requirement? := by
  rw [List.filterMap_filter]
  refine List.filterMap_congr fun c _ => ?_
  split
  · rfl
  · next hzero =>
    cases hrule : p.requirement? c with
    | none => rfl
    | some rule => exact absurd (decide_eq_true (index_ne_zero_of_requirement? hrule)) hzero

/-- The rules about classes are those of the choices of the classes. -/
theorem filterMap_requirement?_eq {cs : List CharClass} {choices : List (CharClass × Char)}
    (hclasses : choices.map Prod.fst = cs.filter fun c => (p.rule c).index.val ≠ 0)
    (hselected : ∀ s ∈ choices, p.toPolicy.selected s.1 = .ok (some s.2)) :
    cs.filterMap p.requirement? = choices.map fun s => s.1.requirement [s.2] := by
  rw [← filterMap_requirement?_filter, ← hclasses, List.filterMap_map, ← List.filterMap_eq_map]
  exact List.filterMap_congr fun s hs => requirement?_of_selected (hselected s hs)

/-- The choices of the allowed classes: one for each of them with an index, of the character that
the index counts off. -/
theorem exists_choices (p : UsablePolicy) :
    ∃ choices : List (CharClass × Char),
      choices.map Prod.fst = p.allowedClasses.filter (fun c => (p.rule c).index.val ≠ 0) ∧
      (∀ s ∈ choices, (p.charset s.1)[((p.rule s.1).index.val - 1) % (p.charset s.1).length]? =
        some s.2) ∧
      p.required = choices.map Prod.snd ∧
      p.allowedClasses.filterMap p.requirement? = choices.map fun s => s.1.requirement [s.2] := by
  obtain ⟨choices, hsymbols, hclasses, hselected⟩ :=
    Policy.exists_choices_of_selections p.required?_eq
  refine ⟨choices, hclasses, ?_, hsymbols.symm, filterMap_requirement?_eq hclasses hselected⟩
  intro s hs
  have hcounted := (cyclic_eq_some_iff.mp (hselected s hs)).2
  have hsub : (((p.rule s.1).index.val : Int) - 1).toNat = (p.rule s.1).index.val - 1 := by omega
  rwa [hsub] at hcounted

/-- There is at most one required character for each class. -/
theorem length_required_le (p : UsablePolicy) : p.required.length ≤ CharClass.all.length := by
  obtain ⟨choices, hclasses, -, hrequired, -⟩ := p.exists_choices
  have hlength : p.required.length = (choices.map Prod.fst).length := by simp [hrequired]
  rw [hlength, hclasses]
  exact (List.filter_sublist.trans p.allowedClasses_sublist).length_le

end UsablePolicy

/-- Describing a mask and checking any password against it show the same policy. The minimum lengths
and the required characters are the same. There are the classes that are allowed, each once and in
mask order, and their choices, one for each of them with an index. The description has one label for
each class, and the characters that the check allows are the charsets of the classes one after
another. The required characters are those chosen, and the rules are one for each choice, about the
class and with the character, and at the end the one about the minimum length. -/
theorem describe_agrees {mask : Json} {entries : List Json} {p : UsablePolicy}
    (hp : Policy.parse mask entries = .ok p) (password : Text) :
    ∃ (details : ValidationDetails) (classes : List CharClass)
      (choices : List (CharClass × Char)),
      (validate password mask entries).details = some details ∧
      (describe mask entries).requiredCharacters = details.requiredChars ∧
      (describe mask entries).minLength = details.minLength ∧
      classes.Sublist CharClass.all ∧ (∀ c, c ∈ classes ↔ (p.rule c).allowed = true) ∧
      choices.map Prod.fst = classes.filter (fun c => (p.rule c).index.val ≠ 0) ∧
      (∀ s ∈ choices, (p.charset s.1)[((p.rule s.1).index.val - 1) % (p.charset s.1).length]? =
        some s.2) ∧
      details.requiredChars = choices.map (fun s => [s.2]) ∧
      (describe mask entries).rules =
        choices.map (fun s => s.1.requirement [s.2]) ++ [lengthRule p.minLength] ∧
      details.minLength = p.minLength ∧
      (describe mask entries).allowedCharacterTypes = classes.map p.label ∧
      details.allowedChars = Text.singletons (classes.flatMap p.charset) := by
  obtain ⟨choices, hclasses, hcounted, hrequired, hrules⟩ := p.exists_choices
  rw [validate_of_parse hp, describe_of_parse hp]
  refine ⟨_, p.allowedClasses, choices, rfl, rfl, rfl, p.allowedClasses_sublist,
    fun c => Policy.mem_allowedClasses_iff, hclasses, hcounted, ?_, ?_, rfl, rfl, rfl⟩
  · show Text.singletons p.required = choices.map fun s => [s.2]
    rw [hrequired, Text.singletons, List.map_map]
    rfl
  · rw [UsablePolicy.description, hrules]

/-- Two classes ask for the same digit, with indexes that wrap around, and a third one that asks for
a character is not allowed. -/
theorem describe_agrees_wrapped :
    (describe (.str "03001900143".toList) [.str ['x'], .str ['2']]).rules =
      ["Must contain digit 0-5: 2".toList, "Must contain special character: 2".toList,
        "Minimum length: 3 characters".toList] ∧
    ∃ p, Policy.parse (.str "03001900143".toList) [.str ['x'], .str ['2']] = .ok p ∧
      ∃ details, (validate [] (.str "03001900143".toList) [.str ['x'], .str ['2']]).details =
          some details ∧
        (describe (.str "03001900143".toList) [.str ['x'], .str ['2']]).requiredCharacters =
          details.requiredChars :=
  have hp : ∃ p, Policy.parse (.str "03001900143".toList) [.str ['x'], .str ['2']] = .ok p :=
    ⟨_, rfl⟩
  let ⟨p, hparse⟩ := hp
  let ⟨details, _, _, hdetails, hrequired, _⟩ := describe_agrees hparse []
  ⟨by decide +kernel, p, hparse, details, hdetails, hrequired⟩

end MaskPolicy
