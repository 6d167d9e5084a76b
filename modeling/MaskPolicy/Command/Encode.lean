import MaskPolicy.Command.Outcome
import MaskPolicy.Policy.Choice

/-!
# Building a mask

The command writes the mask of a policy that is given rule by rule. The rules are handed to the
record of policies as they are. It refuses none that the options admit, since both keep the same
bounds; a refusal would not be reported.
-/

namespace MaskPolicy.Command

/-- What the command is asked for. The alphabet has no part in a mask. -/
structure EncodeRequest where
  choice : Choice

/-- The outcome for the record of a policy, if it can be made. -/
def encodeOutcome : Checked (Policy Text) → Outcome
  | .error issues => .ofEnding (.crashed (.policy issues))
  | .ok p => { output := p.encode ++ ['\n'] }

/-- Run the command. -/
def EncodeRequest.run (r : EncodeRequest) : Outcome := encodeOutcome r.choice.record

end MaskPolicy.Command
