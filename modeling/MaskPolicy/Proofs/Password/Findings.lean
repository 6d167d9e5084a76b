import MaskPolicy.Proofs.Password.Feasibility
import Mathlib.Data.List.FinRange

/-!
# What a check reports

A check goes through a password position by position, and then through the required characters. Its
findings are the positions where a character is not allowed, those where a required character is
missing and those where it is found. Positions are listed in increasing order and each once, so a
character that is wrong twice is reported twice, and a character that two classes require is found
twice or missing twice. The errors of a check are the findings in words and nothing else.
-/

namespace MaskPolicy

/-- A list of the positions that satisfy a condition: each of them once, in increasing order. -/
structure ListsPositions {n : Nat} (positions : List (Fin n)) (P : Fin n → Prop) : Prop where
  increasing : positions.Pairwise (· < ·)
  mem_iff : ∀ i, i ∈ positions ↔ P i

section Positions

variable {α : Type}

/-- The positions of the entries that satisfy a condition. -/
def positionsOf (xs : List α) (P : α → Prop) [DecidablePred P] : List (Fin xs.length) :=
  (List.finRange xs.length).filter fun i => P (xs.get i)

/-- They are listed in order. -/
theorem listsPositions_positionsOf (xs : List α) (P : α → Prop) [DecidablePred P] :
    ListsPositions (positionsOf xs P) fun i => P (xs.get i) where
  increasing := (List.pairwise_lt_finRange xs.length).filter _
  mem_iff i := by simp [positionsOf]

/-- Their entries are the ones that satisfy the condition. -/
theorem map_positionsOf (xs : List α) (P : α → Prop) [DecidablePred P] :
    (positionsOf xs P).map (fun i => xs.get i) = xs.filter fun x => P x := by
  have hall : (List.finRange xs.length).map (fun i => xs.get i) = xs := List.map_getElem_finRange xs
  have hfilter : ((List.finRange xs.length).map fun i => xs.get i).filter (fun x => decide (P x)) =
      (positionsOf xs P).map fun i => xs.get i := List.filter_map
  rw [← hfilter, hall]

end Positions

/-- What a check of a password against a policy finds. -/
structure Findings (p : UsablePolicy) (password : Text) where
  /-- The positions of the password whose character is not allowed. -/
  outside : List (Fin password.length)
  /-- The places of the required characters that the password does not hold. -/
  missing : List (Fin p.required.length)
  /-- The places of the other required characters. -/
  found : List (Fin p.required.length)
  lists_outside : ListsPositions outside fun i => password[i] ∉ p.allowed
  lists_missing : ListsPositions missing fun i => p.required[i] ∉ password
  lists_found : ListsPositions found fun i => i ∉ missing

namespace UsablePolicy

/-- The findings of a check. -/
def findings (p : UsablePolicy) (password : Text) : Findings p password where
  outside := positionsOf password (· ∉ p.allowed)
  missing := positionsOf p.required (· ∉ password)
  found := positionsOf p.required (· ∈ password)
  lists_outside := listsPositions_positionsOf _ _
  lists_missing := listsPositions_positionsOf _ _
  lists_found := by
    obtain ⟨hincreasing, hfound⟩ := listsPositions_positionsOf p.required (· ∈ password)
    refine ⟨hincreasing, fun i => ?_⟩
    have hmissing := (listsPositions_positionsOf p.required (· ∉ password)).mem_iff i
    rw [hfound i, hmissing, not_not]

/-- The violations of the allowed characters stand for the positions outside. -/
theorem characterViolations_eq (p : UsablePolicy) (password : Text) :
    p.characterViolations password =
      (p.findings password).outside.map fun i => .notAllowed password[i] := by
  rw [characterViolations, ← map_positionsOf, List.map_map]
  rfl

/-- The violations of the required characters stand for the missing ones. -/
theorem requirementViolations_eq (p : UsablePolicy) (password : Text) :
    p.requirementViolations password =
      (p.findings password).missing.map fun i => .missing p.required[i] := by
  rw [requirementViolations, ← map_positionsOf, List.map_map]
  rfl

/-- The required characters that are found stand at the other places. -/
theorem found_eq (p : UsablePolicy) (password : Text) :
    p.found password = (p.findings password).found.map fun i => p.required[i] :=
  (map_positionsOf p.required (· ∈ password)).symm

private theorem map_message_lengthViolations (p : UsablePolicy) (password : Text) :
    (p.lengthViolations password).map Violation.message =
      if password.length < p.minLength then [(Violation.tooShort p.minLength).message]
      else [] := by
  rw [lengthViolations]
  split <;> rfl

end UsablePolicy

/-- A check against a mask that can be used reports exactly what is wrong. Its errors are one for
the length if the password is too short, one for each position whose character is not allowed and
one for each place of a required character that is missing, in this order; the required characters
at the other places are the ones it says are found. The password is valid exactly when it is long
enough, is made of allowed characters and holds the required ones. -/
theorem validate_reports {mask : Json} {entries : List Json} {p : UsablePolicy}
    (hp : Policy.parse mask entries = .ok p) (password : Text) :
    ∃ f : Findings p password,
      (validate password mask entries).errors =
        (if password.length < p.minLength then [(Violation.tooShort p.minLength).message]
          else []) ++
          (f.outside.map fun i => (Violation.notAllowed password[i]).message) ++
          (f.missing.map fun i => (Violation.missing p.required[i]).message) ∧
      (validate password mask entries).details = some {
        length := password.length
        minLength := p.minLength
        allowedChars := Text.singletons p.allowed
        requiredChars := Text.singletons p.required
        foundRequiredChars := f.found.map fun i => [p.required[i]] } ∧
      ((validate password mask entries).isValid = true ↔
        p.minLength ≤ password.length ∧ (∀ c ∈ password, c ∈ p.allowed) ∧
          ∀ c ∈ p.required, c ∈ password) := by
  have hvalid := isValid_validate_iff hp password
  rw [validate_of_parse hp] at hvalid ⊢
  refine ⟨p.findings password, ?_, ?_, hvalid⟩
  · simp only [ValidationResult.ofPolicy, UsablePolicy.violations, List.map_append,
      p.map_message_lengthViolations, p.characterViolations_eq, p.requirementViolations_eq,
      List.map_map]
    rfl
  · simp only [ValidationResult.ofPolicy, p.found_eq, Text.singletons, List.map_map]
    rfl

/-- The character one is required twice and missing twice, and the letter is wrong twice. -/
theorem validate_reports_repeated :
    (validate "x0x".toList (.str "00001200115".toList) [.str ['1']]).errors =
      ["Password must be at least 5 characters long".toList, "Character 'x' is not allowed".toList,
        "Character 'x' is not allowed".toList, "Required character '1' is missing".toList,
        "Required character '1' is missing".toList] ∧
    ∃ p, Policy.parse (.str "00001200115".toList) [.str ['1']] = .ok p ∧
      ∃ f : Findings p "x0x".toList,
        (validate "x0x".toList (.str "00001200115".toList) [.str ['1']]).errors =
          [(Violation.tooShort p.minLength).message] ++
            (f.outside.map fun i => (Violation.notAllowed "x0x".toList[i]).message) ++
            (f.missing.map fun i => (Violation.missing p.required[i]).message) :=
  have hp : ∃ p, Policy.parse (.str "00001200115".toList) [.str ['1']] = .ok p ∧
      "x0x".toList.length < p.minLength := ⟨_, rfl, by decide⟩
  let ⟨p, hparse, hshort⟩ := hp
  let ⟨f, herrors, _⟩ := validate_reports hparse "x0x".toList
  ⟨by decide +kernel, p, hparse, f, by rw [herrors, if_pos hshort]⟩

end MaskPolicy
