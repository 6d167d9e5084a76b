import MaskPolicy.Text.Basic

/-!
# Character classes

A password is made of five classes of characters, in a fixed order. Four of them have fixed
characters; the special class takes its characters from an alphabet that comes with the policy.
-/

namespace MaskPolicy

/-- The classes of characters, in mask order. -/
inductive CharClass where
  | uppercase
  | lowercase
  | digitsLow
  | digitsHigh
  | special
  deriving DecidableEq, Repr

namespace CharClass

/-- Every class, in mask order. -/
def all : List CharClass := [uppercase, lowercase, digitsLow, digitsHigh, special]

theorem mem_all (c : CharClass) : c ∈ all := by cases c <;> decide

/-- The name of a class. -/
def name : CharClass → Text
  | uppercase => "uppercase".toList
  | lowercase => "lowercase".toList
  | digitsLow => "digits_low".toList
  | digitsHigh => "digits_high".toList
  | special => "special".toList

/-- The fixed characters of a class, in index order; the special class has none. -/
def letters : CharClass → Text
  | uppercase => "ABCDEFGHIJKLMNOPQRSTUVWXYZ".toList
  | lowercase => "abcdefghijklmnopqrstuvwxyz".toList
  | digitsLow => "012345".toList
  | digitsHigh => "6789".toList
  | special => []

/-- Only the special class has no fixed characters. -/
theorem letters_eq_nil_iff (c : CharClass) : c.letters = [] ↔ c = special := by
  cases c <;> decide

end CharClass

/-- The special alphabet of a policy that names no other. -/
def defaultAlphabet : Text := "!@#$%^&*()".toList

end MaskPolicy
