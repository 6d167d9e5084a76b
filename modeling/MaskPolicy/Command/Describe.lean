import MaskPolicy.Command.Validate

/-!
# Describing a mask

The command shows the description of a mask, as two sections or as JSON without the member for an
error, and fails without showing anything when the mask cannot be used.
-/

namespace MaskPolicy.Command

/-- What the command is asked for. -/
structure DescribeRequest where
  mask : Text
  /-- The special alphabet, unless it is to be that of the settings. -/
  alphabet : Option Text
  asJson : Bool
  deriving DecidableEq, Repr

namespace DescribeRequest

/-- The members of a description that are shown. -/
def members (d : MaskDescription) : List (Text × Json) :=
  (MaskDescription.fields.encode d).filter fun m => m.1 ≠ "error".toList

/-- What is shown for a description. -/
def display (r : DescribeRequest) (d : MaskDescription) : Text :=
  if r.asJson then jsonText (.obj (members d))
  else (typesSection r.mask d).render ++ (rulesSection d).render

/-- Run the command. -/
def run (r : DescribeRequest) (c : Context) : Outcome :=
  match c.alphabet r.alphabet with
  | .error e => .ofEnding e
  | .ok alphabet =>
    match Policy.parse (.str r.mask) (Alphabet.entriesOf alphabet) with
    | .error e => { trace := [.undescribed r.mask e], ending := .failed (.unusable e) }
    | .ok p => { output := r.display p.description, trace := [.parsed r.mask p.toPolicy] }

end DescribeRequest

end MaskPolicy.Command
