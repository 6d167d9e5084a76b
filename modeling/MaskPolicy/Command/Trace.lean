import MaskPolicy.Policy.Record

/-!
# The trace of a run

A run can leave a trace of what it did, one line for each event. Of a password an event holds only
the length and the number of violations, so that no trace can give a password away.
-/

namespace MaskPolicy.Command

/-- What a run can do. -/
inductive Event where
  /-- A mask was read as a policy. -/
  | parsed (mask : Text) (p : Policy Char)
  /-- A password was checked. -/
  | validated (length : Nat) (mask : Text) (violations : Nat)
  /-- A password was not checked, because the mask cannot be used. -/
  | unchecked (mask : Text) (e : MaskError)
  /-- A mask was not described, because it cannot be used. -/
  | undescribed (mask : Text) (e : MaskError)
  /-- A password was generated, with a number of required characters. -/
  | generated (length : Nat) (mask : Text) (required : Nat)
  /-- A command rejected a password. -/
  | rejected (violations : Nat)
  deriving Repr

/-- The value of a field in a trace: lists are written between parentheses. -/
def fieldText : Json → Text
  | .arr [item] => '(' :: item.literal ++ ",)".toList
  | .arr items => '(' :: Text.joinWith ", ".toList (items.map Json.literal) ++ [')']
  | v => v.literal

/-- A policy in a trace: its fields with their values. -/
def policyText (p : Policy Char) : Text :=
  Policy.info.name ++ '(' ::
    Text.joinWith ", ".toList
      ((Policy.fields.encode p.withTexts).map fun m => m.1 ++ '=' :: fieldText m.2) ++ [')']

namespace Event

/-- The part of the program in which an event happens. -/
def origin : Event → Text
  | parsed _ _ => "password_mask.parser".toList
  | validated _ _ _ => "password_mask.validator".toList
  | unchecked _ _ => "password_mask.validator".toList
  | undescribed _ _ => "password_mask.descriptor".toList
  | generated _ _ _ => "password_mask.generator".toList
  | rejected _ => "password_mask._cli.commands.validate".toList

/-- What a trace says about an event. -/
def text : Event → Text
  | parsed mask p => "parsed mask ".toList ++ mask.quoted ++ " into ".toList ++ policyText p
  | validated length mask violations =>
    "validated password of length ".toList ++ Decimal.ofNat length ++ " against mask ".toList ++
      mask.quoted ++ ": ".toList ++ Decimal.ofNat violations ++ " error(s)".toList
  | unchecked mask e =>
    "rejecting password, mask ".toList ++ mask.quoted ++ " is unusable: ".toList ++ e.message
  | undescribed mask e =>
    "unable to describe mask ".toList ++ mask.quoted ++ ": ".toList ++ e.message
  | generated length mask required =>
    "generated password of length ".toList ++ Decimal.ofNat length ++ " for mask ".toList ++
      mask.quoted ++ " (".toList ++ Decimal.ofNat required ++ " required character(s))".toList
  | rejected violations =>
    "password rejected with ".toList ++ Decimal.ofNat violations ++ " error(s)".toList

/-- The line of an event. -/
def line (e : Event) : Text := "DEBUG:".toList ++ e.origin ++ ':' :: e.text ++ ['\n']

end Event

end MaskPolicy.Command
