import MaskPolicy.Policy.Parse

/-!
# Verdicts on passwords

A password is checked against a policy rule by rule. All violations are collected: its length first,
then each character that may not occur, in password order and once for each occurrence, then each
required character that is missing, in mask order.
-/

namespace MaskPolicy

/-- One way in which a password breaks a policy. -/
inductive Violation where
  | tooShort (minLength : Nat)
  | notAllowed (c : Char)
  | missing (c : Char)
  deriving DecidableEq, Repr

/-- The wording of a violation. -/
def Violation.message : Violation → Text
  | tooShort n =>
    "Password must be at least ".toList ++ Decimal.ofNat n ++ " characters long".toList
  | notAllowed c => "Character '".toList ++ c :: "' is not allowed".toList
  | missing c => "Required character '".toList ++ c :: "' is missing".toList

namespace UsablePolicy

/-- The violation of the minimum length. -/
def lengthViolations (p : UsablePolicy) (password : Text) : List Violation :=
  if password.length < p.minLength then [.tooShort p.minLength] else []

/-- The violations of the allowed characters. -/
def characterViolations (p : UsablePolicy) (password : Text) : List Violation :=
  (password.filter (· ∉ p.allowed)).map .notAllowed

/-- The violations of the required characters. -/
def requirementViolations (p : UsablePolicy) (password : Text) : List Violation :=
  (p.required.filter (· ∉ password)).map .missing

/-- Every violation of the policy by a password, in order. -/
def violations (p : UsablePolicy) (password : Text) : List Violation :=
  p.lengthViolations password ++ p.characterViolations password ++ p.requirementViolations password

/-- The required characters that a password holds. -/
def found (p : UsablePolicy) (password : Text) : Text := p.required.filter (· ∈ password)

/-- A password is accepted when it is long enough, is made of allowed characters and holds every
required one. -/
def Accepts (p : UsablePolicy) (password : Text) : Prop :=
  p.minLength ≤ password.length ∧ (∀ c ∈ password, c ∈ p.allowed) ∧
    ∀ c ∈ p.required, c ∈ password

/-- Exactly the accepted passwords have no violations. -/
theorem violations_eq_nil_iff (p : UsablePolicy) (password : Text) :
    p.violations password = [] ↔ p.Accepts password := by
  simp only [violations, List.append_eq_nil_iff, lengthViolations, characterViolations,
    requirementViolations, List.map_eq_nil_iff, List.filter_eq_nil_iff, Accepts, decide_eq_true_eq,
    Decidable.not_not, and_assoc]
  refine and_congr ?_ Iff.rfl
  by_cases h : password.length < p.minLength
  · simp [h]
  · simp only [h, if_false, true_iff]
    omega

end UsablePolicy

/-- What a check measured. -/
structure ValidationDetails where
  length : Int
  minLength : Int
  allowedChars : List Text
  requiredChars : List Text
  foundRequiredChars : List Text
  deriving DecidableEq, Repr

/-- The outcome of checking a password against a mask. There are no details only when the mask could
not be used, and then the one error says why. -/
structure ValidationResult where
  isValid : Bool
  errors : List Text
  details : Option ValidationDetails
  deriving DecidableEq, Repr

/-- Each character as a text of its own. -/
def Text.singletons (t : Text) : List Text := t.map fun c => [c]

namespace ValidationResult

/-- The outcome for a mask that cannot be used. -/
def unusable (e : MaskError) : ValidationResult := ⟨false, [e.message], none⟩

/-- The outcome for a policy. -/
def ofPolicy (p : UsablePolicy) (password : Text) : ValidationResult where
  isValid := (p.violations password).isEmpty
  errors := (p.violations password).map Violation.message
  details := some {
    length := password.length
    minLength := p.minLength
    allowedChars := Text.singletons p.allowed
    requiredChars := Text.singletons p.required
    foundRequiredChars := Text.singletons (p.found password) }

end ValidationResult

/-- Check a password against a mask with an alphabet. -/
def validate (password : Text) (mask : Json) (entries : List Json) : ValidationResult :=
  match Policy.parse mask entries with
  | .error e => .unusable e
  | .ok p => .ofPolicy p password

/-- Where a policy comes from a mask, checking against the mask is checking against the policy. -/
theorem validate_of_parse {mask : Json} {entries : List Json} {p : UsablePolicy}
    (hp : Policy.parse mask entries = .ok p) (password : Text) :
    validate password mask entries = .ofPolicy p password := by
  rw [validate, hp]

end MaskPolicy
