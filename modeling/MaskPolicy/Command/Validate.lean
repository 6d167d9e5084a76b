import MaskPolicy.Command.Context
import MaskPolicy.Command.Prompt
import MaskPolicy.Command.Section
import MaskPolicy.Json.Printer

/-!
# Checking a password

The command shows the outcome of a check, as a section or as JSON, and fails when the password is
rejected. It fails without showing anything when the mask cannot be used.
-/

namespace MaskPolicy.Command

/-- What the command is asked for. -/
structure ValidateRequest where
  mask : Text
  /-- The password, unless it is to be asked for. -/
  password : Option Text
  /-- The special alphabet, unless it is to be that of the settings. -/
  alphabet : Option Text
  asJson : Bool
  deriving DecidableEq, Repr

/-- The written form of a value that is shown. -/
def jsonText (v : Json) : Text := v.render (some 2) ++ ['\n']

namespace ValidateRequest

/-- What is shown for the outcome of a check. -/
def display (r : ValidateRequest) (result : ValidationResult) : Text :=
  if r.asJson then jsonText (ValidationResult.codec.encode result)
  else (resultSection r.mask result).render

/-- The outcome of checking a password against a policy. -/
def judge (r : ValidateRequest) (p : UsablePolicy) (password : Text) : Outcome :=
  let result := ValidationResult.ofPolicy p password
  let violations := result.errors.length
  let trace := [.parsed r.mask p.toPolicy, .validated password.length r.mask violations]
  if result.isValid then { output := r.display result, trace }
  else {
    output := r.display result
    trace := trace ++ [.rejected violations]
    ending := .failed (.rejected violations) }

/-- The outcome of checking a password. -/
def check (r : ValidateRequest) (c : Context) (password : Text) : Outcome :=
  match c.alphabet r.alphabet with
  | .error e => .ofEnding e
  | .ok alphabet =>
    match Policy.parse (.str r.mask) (Alphabet.entriesOf alphabet) with
    | .error e => { trace := [.unchecked r.mask e], ending := .failed (.unusable e) }
    | .ok p => r.judge p password

/-- Run the command. -/
def run (r : ValidateRequest) (c : Context) : Outcome :=
  match r.password with
  | some password => r.check c password
  | none =>
    match askPassword (inputLines c.input) with
    | (shown, none) => { output := shown, ending := .failed .aborted }
    | (shown, some password) => (r.check c password).after shown

end ValidateRequest

end MaskPolicy.Command
