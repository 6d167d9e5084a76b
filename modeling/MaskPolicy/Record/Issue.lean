import MaskPolicy.Json.Basic

/-!
# Issues

An issue is one thing that is wrong with a payload: where it is and what it is. Each kind of issue
has a code, a wording, and the values that the wording is about.
-/

namespace MaskPolicy

/-- A step from a value to one of its parts. -/
inductive Step where
  | field (name : Text)
  | item (place : Nat)
  deriving DecidableEq, Repr

/-- The text of a step. -/
def Step.text : Step → Text
  | field name => name
  | item place => Decimal.ofNat place

/-- The kinds of issues. -/
inductive IssueKind where
  | missing
  | extraForbidden
  | frozenInstance
  | notRecord (name : Text)
  | notBool
  | unreadableBool
  | notInteger
  | unreadableInteger
  | tooLongInteger
  | fraction
  | notFinite
  | belowMinimum (minimum : Int)
  | aboveMaximum (maximum : Int)
  | notText
  | unreadableText
  | tooShort (minLength : Nat)
  | notList
  | notTuple
  deriving DecidableEq, Repr

namespace IssueKind

/-- The code of a kind of issue. -/
def code : IssueKind → Text
  | missing => "missing".toList
  | extraForbidden => "extra_forbidden".toList
  | frozenInstance => "frozen_instance".toList
  | notRecord _ => "model_type".toList
  | notBool => "bool_type".toList
  | unreadableBool => "bool_parsing".toList
  | notInteger => "int_type".toList
  | unreadableInteger => "int_parsing".toList
  | tooLongInteger => "int_parsing_size".toList
  | fraction => "int_from_float".toList
  | notFinite => "finite_number".toList
  | belowMinimum _ => "greater_than_equal".toList
  | aboveMaximum _ => "less_than_equal".toList
  | notText => "string_type".toList
  | unreadableText => "string_unicode".toList
  | tooShort _ => "string_too_short".toList
  | notList => "list_type".toList
  | notTuple => "tuple_type".toList

/-- The wording of a kind of issue. -/
def message : IssueKind → Text
  | missing => "Field required".toList
  | extraForbidden => "Extra inputs are not permitted".toList
  | frozenInstance => "Instance is frozen".toList
  | notRecord name => "Input should be a valid dictionary or instance of ".toList ++ name
  | notBool => "Input should be a valid boolean".toList
  | unreadableBool => "Input should be a valid boolean, unable to interpret input".toList
  | notInteger => "Input should be a valid integer".toList
  | unreadableInteger =>
    "Input should be a valid integer, unable to parse string as an integer".toList
  | tooLongInteger =>
    "Unable to parse input string as an integer, exceeded maximum size".toList
  | fraction => "Input should be a valid integer, got a number with a fractional part".toList
  | notFinite => "Input should be a finite number".toList
  | belowMinimum n => "Input should be greater than or equal to ".toList ++ Decimal.ofInt n
  | aboveMaximum n => "Input should be less than or equal to ".toList ++ Decimal.ofInt n
  | notText => "Input should be a valid string".toList
  | unreadableText =>
    "Input should be a valid string, unable to parse raw data as a unicode string".toList
  | tooShort n => "String should have at least ".toList ++ Decimal.ofNat n ++
      if n = 1 then " character".toList else " characters".toList
  | notList => "Input should be a valid list".toList
  | notTuple => "Input should be a valid tuple".toList

/-- The values that the wording of an issue is about, if there are any. -/
def context : IssueKind → Option (List (Text × Json))
  | notRecord name => some [("class_name".toList, .str name)]
  | belowMinimum n => some [("ge".toList, .int n)]
  | aboveMaximum n => some [("le".toList, .int n)]
  | tooShort n => some [("min_length".toList, .int n)]
  | _ => none

end IssueKind

/-- An issue at a place of a payload. -/
structure Issue where
  location : List Step
  kind : IssueKind
  deriving DecidableEq, Repr

/-- The issue as seen from a value that the payload is a part of. -/
def Issue.under (step : Step) (i : Issue) : Issue := { i with location := step :: i.location }

end MaskPolicy
