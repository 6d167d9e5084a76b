import MaskPolicy.Policy.Verdict

/-!
# Descriptions of masks

A description lists the kinds of characters that a policy allows, the characters that it requires,
and the rules a password has to follow, in words.
-/

namespace MaskPolicy

/-- The rules of a mask in words, or the error that keeps it from being used. -/
structure MaskDescription where
  rules : List Text := []
  requiredCharacters : List Text := []
  minLength : Int := 0
  allowedCharacterTypes : List Text := []
  error : Option Text := none
  deriving DecidableEq, Repr

namespace CharClass

/-- The label of a class; the special class lists its symbols. -/
def label (c : CharClass) (symbols : List Text) : Text :=
  match c with
  | uppercase => "Uppercase letters (A-Z)".toList
  | lowercase => "Lowercase letters (a-z)".toList
  | digitsLow => "Digits 0-5".toList
  | digitsHigh => "Digits 6-9".toList
  | special => "Special characters (".toList ++ Text.joinWith ", ".toList symbols ++ [')']

/-- The kind of character that a rule about the class asks for. -/
def noun : CharClass → Text
  | uppercase => "uppercase letter".toList
  | lowercase => "lowercase letter".toList
  | digitsLow => "digit 0-5".toList
  | digitsHigh => "digit 6-9".toList
  | special => "special character".toList

/-- The rule that a character of the class must occur. -/
def requirement (c : CharClass) (symbol : Text) : Text :=
  "Must contain ".toList ++ c.noun ++ ": ".toList ++ symbol

end CharClass

/-- The label of a class under a policy. -/
def Policy.label [Symbol σ] (p : Policy σ) (c : CharClass) : Text :=
  c.label (p.alphabet.map Symbol.text)

/-- The rule about the minimum length. -/
def lengthRule (minLength : Nat) : Text :=
  "Minimum length: ".toList ++ Decimal.ofNat minLength ++ " characters".toList

namespace UsablePolicy

/-- The rule about one class, if its index asks for a character. -/
def requirement? (p : UsablePolicy) (c : CharClass) : Option Text :=
  match p.toPolicy.selected c with
  | .ok (some x) => some (c.requirement [x])
  | _ => none

/-- The description of a policy. -/
def description (p : UsablePolicy) : MaskDescription where
  rules := p.allowedClasses.filterMap p.requirement? ++ [lengthRule p.minLength]
  requiredCharacters := Text.singletons p.required
  minLength := p.minLength
  allowedCharacterTypes := p.allowedClasses.map p.toPolicy.label

end UsablePolicy

/-- Describe a mask with an alphabet. -/
def describe (mask : Json) (entries : List Json) : MaskDescription :=
  match Policy.parse mask entries with
  | .error e => { error := some e.message }
  | .ok p => p.description

/-- Where a policy comes from a mask, the mask is described as the policy. -/
theorem describe_of_parse {mask : Json} {entries : List Json} {p : UsablePolicy}
    (hp : Policy.parse mask entries = .ok p) : describe mask entries = p.description := by
  rw [describe, hp]

end MaskPolicy
