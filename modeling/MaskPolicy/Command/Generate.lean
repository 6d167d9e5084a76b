import MaskPolicy.Command.Context
import MaskPolicy.Draw.Supply

/-!
# Generating passwords

The command generates passwords one after another from one supply of draws. Each is written, on a
line of its own, as soon as it is there, and the command ends with the first that cannot be
generated.
-/

namespace MaskPolicy.Command

/-- What the command is asked for. -/
structure GenerateRequest where
  mask : Text
  /-- The special alphabet, unless it is to be that of the settings. -/
  alphabet : Option Text
  length : Option Int
  /-- The number of passwords, unless it is to be that of the settings. -/
  count : Option Nat
  seed : Option Int
  deriving DecidableEq, Repr

/-- What passwords are asked for, apart from their number and the randomness. -/
structure Job where
  mask : Text
  alphabet : Text
  length : Option Int

namespace Job

/-- The policy of a job. -/
def policy (j : Job) : Except MaskError UsablePolicy :=
  Policy.parse (.str j.mask) (Alphabet.entriesOf j.alphabet)

/-- The events of generating a password. -/
def eventsOf (j : Job) (p : UsablePolicy) (password : Text) : List Event :=
  [.parsed j.mask p.toPolicy, .generated password.length j.mask p.required.length]

/-- Generate and write one password. -/
def writeOne (j : Job) (supply : Supply) : Outcome × Supply :=
  match j.policy with
  | .error e => (.ofEnding (.failed (.generation (.unusable e))), supply)
  | .ok p =>
    match p.generate Supply.source.recording j.mask j.length (supply, []) with
    | (.error e, supply, bounds) =>
      ({ trace := [.parsed j.mask p.toPolicy]
         bounds := bounds.reverse
         ending := .failed (.generation e) }, supply)
    | (.ok password, supply, bounds) =>
      ({ output := password ++ ['\n']
         trace := j.eventsOf p password
         bounds := bounds.reverse }, supply)

/-- Write some passwords. What was written before a failure stays written. -/
def write (j : Job) : Nat → Supply → Outcome
  | 0, _ => {}
  | count + 1, supply =>
    let (first, supply) := j.writeOne supply
    match first.ending with
    | .done => first.followedBy (j.write count supply)
    | _ => first

end Job

namespace GenerateRequest

/-- The job of a request, with the alphabet of the settings if the request has none. -/
def job (r : GenerateRequest) (s : Settings) : Job := ⟨r.mask, r.alphabet.getD s.alphabet, r.length⟩

/-- The number of passwords, that of the settings if the request has none. -/
def number (r : GenerateRequest) (s : Settings) : Nat := r.count.getD s.defaultCount

/-- Where the draws for a request come from. -/
def supply (r : GenerateRequest) (s : Settings) (answers : List Nat) : Supply :=
  .start (.choose s.secureRandom r.seed) answers

/-- Run the command. -/
def run (r : GenerateRequest) (c : Context) : Outcome :=
  match c.settings with
  | .error e => .ofEnding e
  | .ok s => (r.job s).write (r.number s) (r.supply s c.answers)

end GenerateRequest

end MaskPolicy.Command
