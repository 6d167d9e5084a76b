import MaskPolicy.Draw.Generate
import MaskPolicy.Policy.Description

/-!
# Calls of the library

A caller may offer any values. A call of the library comes to a result or a fault, or it breaks off:
a value lacks what is asked of it, an integer has too many digits to be written, or there is nothing
to select from. What is broken off is no fault of the mask, and no consumer of masks reports it.
-/

namespace MaskPolicy

/-- Why a call breaks off. -/
inductive Breakdown where
  /-- A value without elements is offered for an alphabet. -/
  | noElements
  /-- No text is offered for a password. -/
  | noPassword
  /-- An integer in a mask has more digits than are written. -/
  | tooManyDigits
  /-- The message of a fault cannot be filled. -/
  | message (e : TemplateError)
  /-- A required character cannot be selected. -/
  | selection (e : SelectionError)
  deriving Repr

/-- The policy that a mask denotes with an alphabet. A mask that is no text of digits is kept in the
error as its text, so that the text is written first; no alphabet is looked at then. -/
def Policy.parse? (mask alphabet : Json) : Except Breakdown (Except MaskError UsablePolicy) :=
  match Mask.ofValue mask with
  | .error e => if mask.writable then .ok (.error e) else .error .tooManyDigits
  | .ok _ =>
    match alphabet.elements? with
    | none => .error .noElements
    | some entries => .ok (Policy.parse mask entries)

/-- The message of a fault, which has to be filled when it is shown. -/
def Fault.message? (f : Fault) : Except Breakdown Text := f.message.mapError .message

namespace UsablePolicy

/-- The outcome of checking a password. The required characters are selected first. -/
def check? (p : UsablePolicy) (password : Option Text) : Except Breakdown ValidationResult :=
  match p.toPolicy.required? with
  | .error e => .error (.selection e)
  | .ok required =>
    match password with
    | none => .error .noPassword
    | some password =>
      let violations := p.lengthViolations password ++ p.characterViolations password ++
        (required.filter (· ∉ password)).map .missing
      .ok {
        isValid := violations.isEmpty
        errors := violations.map Violation.message
        details := some {
          length := password.length
          minLength := p.minLength
          allowedChars := Text.singletons p.allowed
          requiredChars := Text.singletons required
          foundRequiredChars := Text.singletons (required.filter (· ∈ password)) } }

/-- The rules about some classes, each with the character that it asks for. -/
def requirements? (p : UsablePolicy) : List CharClass → Except SelectionError (List Text)
  | [] => .ok []
  | c :: cs =>
    match p.toPolicy.selected c with
    | .error e => .error e
    | .ok x => (p.requirements? cs).map ((x.map fun x => c.requirement [x]).toList ++ ·)

/-- The description of a policy. -/
def description? (p : UsablePolicy) : Except SelectionError MaskDescription :=
  match p.toPolicy.required? with
  | .error e => .error e
  | .ok required => (p.requirements? p.allowedClasses).map fun rules =>
    { rules := rules ++ [lengthRule p.minLength]
      requiredCharacters := Text.singletons required
      minLength := p.minLength
      allowedCharacterTypes := p.allowedClasses.map p.toPolicy.label }

end UsablePolicy

/-- Check a password against a mask with an alphabet. -/
def validate? (password : Option Text) (mask alphabet : Json) :
    Except Breakdown ValidationResult :=
  match Policy.parse? mask alphabet with
  | .error b => .error b
  | .ok (.error e) => e.fault.message?.map fun message => ⟨false, [message], none⟩
  | .ok (.ok p) => p.check? password

/-- Describe a mask with an alphabet. -/
def describe? (mask alphabet : Json) : Except Breakdown MaskDescription :=
  match Policy.parse? mask alphabet with
  | .error b => .error b
  | .ok (.error e) => e.fault.message?.map fun message => { error := some message }
  | .ok (.ok p) => p.description?.mapError .selection

/-- Generate a password for a mask with an alphabet. -/
def generate? {σ : Type} (source : Source σ) (mask alphabet : Json) (requested : Option Int)
    (state : σ) : Except Breakdown (Except GenerationError Text) × σ :=
  match Policy.parse? mask alphabet with
  | .error b => (.error b, state)
  | .ok (.error e) => (.ok (.error (.unusable e)), state)
  | .ok (.ok p) =>
    let (result, state) := p.generate source mask.plain requested state
    (.ok result, state)

end MaskPolicy
