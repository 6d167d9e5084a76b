import MaskPolicy.Policy.Record

/-!
# Choices of rules

The rules of a policy may be chosen freely: a flag and any integer for each class, and any integer
for the minimum length. The record of policies checks the members that are made of a choice, and
refuses it when a number is not within the bounds.
-/

namespace MaskPolicy

/-- The names under which the record of a policy holds the flag and the index of a class. -/
def CharClass.fieldNames : CharClass → String × String
  | .uppercase => ("uppercase_allowed", "required_uppercase_index")
  | .lowercase => ("lowercase_allowed", "required_lowercase_index")
  | .digitsLow => ("digits_low_allowed", "required_digit_low_index")
  | .digitsHigh => ("digits_high_allowed", "required_digit_high_index")
  | .special => ("special_allowed", "required_special_index")

/-- A flag and a number for each class, and a number for the minimum length. -/
@[ext]
structure Choice where
  allowed : CharClass → Bool
  index : CharClass → Int
  minLength : Int

/-- The members from which the record of the policy is made. -/
def Choice.members (choice : Choice) : List (Text × Json) :=
  (CharClass.all.flatMap fun c => [
    (c.fieldNames.1.toList, .bool (choice.allowed c)),
    (c.fieldNames.2.toList, .int (choice.index c))]) ++
  [("min_length".toList, .int choice.minLength)]

/-- The record of the policy, if the choice is within the bounds. -/
def Choice.record (choice : Choice) : Checked (Policy Text) :=
  Policy.codec.decode (.obj choice.members)

end MaskPolicy
