import MaskPolicy.Policy.Parse
import MaskPolicy.Proofs.Template.Filling

/-!
# What faults show

A fault shows its kind, its context and its message. The message is the template filled from the
context, and each kind of fault has few templates. For every error about a mask the template is one
of them, and gives the wording of the error. It can be filled whatever value the error is about, as
long as the value can be written.
-/

namespace MaskPolicy

/-- The kind and the context of the fault with which something fails. -/
def failure? {ε α : Type} (fault : ε → Fault) :
    Except ε α → Option (FaultKind × Option (List (Text × Json)))
  | .ok _ => none
  | .error e => some ((fault e).kind, (fault e).context)

/-- What is shown is of the fault with which it fails. -/
theorem failure?_eq_some_iff {ε α : Type} {fault : ε → Fault} {r : Except ε α} {kind : FaultKind}
    {context : Option (List (Text × Json))} :
    failure? fault r = some (kind, context) ↔
      ∃ e, r = .error e ∧ (fault e).kind = kind ∧ (fault e).context = context := by
  cases r with
  | ok a => simp [failure?]
  | error e => simp [failure?]

open Template

/-- The entry of the context under a key. -/
def ofContext (key : Name) : Reference := .entry { text := "ctx".toList } key

/-- The name of a minimum length in templates. -/
def minLengthName : Name := { text := "min_length".toList }

/-- The name of a requested length in templates. -/
def targetLengthName : Name := { text := "target_length".toList }

/-- The name of the number of required characters in templates. -/
def requiredCountName : Name := { text := "required_count".toList }

/-- The templates of a kind of fault. -/
def FaultKind.templates : FaultKind → List (List Part)
  | malformedMask => [[.text "Mask must be exactly 11 digits".toList]]
  | invalidSpecialAlphabet => [
    [.text "Special alphabet entries must be single characters, got ".toList,
      .literal (ofContext { text := "entry".toList })],
    [.text "Special alphabet must not be empty when special characters are allowed".toList]]
  | noAllowedCharacters => [[.text "No character types are allowed".toList]]
  | lengthBelowMinimum => [
    [.text "Target length ".toList, .plain (ofContext targetLengthName),
      .text " is less than minimum required length ".toList, .plain (ofContext minLengthName)]]
  | lengthBelowRequiredCount => [
    [.text "Target length ".toList, .plain (ofContext targetLengthName),
      .text " is less than number of required characters ".toList,
      .plain (ofContext requiredCountName)]]
  | _ => []

/-- A fault shows a message: the template is one of those of its kind, and the values of the context
stand in place of its fields. -/
def Fault.Shows (f : Fault) (message : Text) : Prop :=
  ∃ parts ∈ f.kind.templates, f.template = write parts ∧
    show? [("ctx".toList, .obj (f.context.getD []))] parts = some message

/-- What a fault shows is its message. -/
theorem Fault.Shows.message_eq {f : Fault} {message : Text} (h : f.Shows message) :
    f.message = .ok message := by
  obtain ⟨parts, -, htemplate, hshow⟩ := h
  rw [Fault.message, htemplate]
  exact format_write hshow

/-- All values of the context of a fault can be written. -/
def Fault.Writable (f : Fault) : Prop := (Json.obj (f.context.getD [])).writable = true

instance (f : Fault) : Decidable f.Writable := decEq _ true

/-- An entry of an alphabet that is refused can be written when the fault can. -/
theorem MaskError.writable_notCharacter_iff {entry : Json} :
    (notCharacter entry).fault.Writable ↔ entry.writable = true := by
  show (entry.writable && true) = true ↔ _
  rw [Bool.and_true]

/-- An error about a mask shows its wording, if that can be written. -/
theorem MaskError.shows {e : MaskError} (h : e.fault.Writable) : e.fault.Shows e.message := by
  cases e with
  | malformed mask => exact ⟨_, List.mem_cons_self, rfl, rfl⟩
  | notCharacter entry =>
    have hentry : Option.filter Json.writable (some entry) = some entry :=
      Option.filter_eq_some_iff.mpr ⟨rfl, writable_notCharacter_iff.mp h⟩
    have hvalue : (ofContext { text := "entry".toList }).value?
        [("ctx".toList, .obj [("entry".toList, entry)])] = some entry := rfl
    refine ⟨_, List.mem_cons_self, rfl, ?_⟩
    simp only [show?, Part.shown?, fault, context, Option.getD_some, hvalue, hentry,
      Option.map_some, List.append_nil]
    rfl
  | emptyAlphabet => exact ⟨_, List.mem_cons_of_mem _ List.mem_cons_self, rfl, rfl⟩

/-- The message of an error about a mask is its wording, if that can be written. -/
theorem MaskError.message_of_writable {e : MaskError} (h : e.fault.Writable) :
    e.fault.message = .ok e.message :=
  (shows h).message_eq

/-- An error whose wording cannot be written has no message. -/
theorem MaskError.message_of_not_writable {e : MaskError} (h : ¬e.fault.Writable) :
    e.fault.message = .error .tooManyDigits := by
  cases e with
  | malformed mask => exact absurd rfl h
  | notCharacter entry =>
    rw [writable_notCharacter_iff, Bool.not_eq_true] at h
    have hbefore : show? [("ctx".toList, .obj [("entry".toList, entry)])]
        [.text "Special alphabet entries must be single characters, got ".toList] =
          some "Special alphabet entries must be single characters, got ".toList := rfl
    have hvalue : (ofContext { text := "entry".toList }).value?
        [("ctx".toList, .obj [("entry".toList, entry)])] = some entry := rfl
    exact format_write_unwritable hbefore hvalue h (.inr rfl) []
  | emptyAlphabet => exact absurd rfl h

end MaskPolicy
