import MaskPolicy.Template.Basic

/-!
# Faults

A fault is what the library reports to its caller: a kind, a message template and a context whose
values the template may name as `ctx`. The kinds form a small tree, and two of them cannot be made
without a context.
-/

namespace MaskPolicy

/-- The kinds of faults. -/
inductive FaultKind where
  | application
  | mask
  | malformedMask
  | invalidSpecialAlphabet
  | generation
  | noAllowedCharacters
  | lengthBelowMinimum
  | lengthBelowRequiredCount
  deriving DecidableEq, Repr

namespace FaultKind

/-- The kind that a kind is a special case of. -/
def parent? : FaultKind → Option FaultKind
  | application => none
  | mask => some application
  | generation => some application
  | malformedMask => some mask
  | invalidSpecialAlphabet => some mask
  | noAllowedCharacters => some generation
  | lengthBelowMinimum => some generation
  | lengthBelowRequiredCount => some generation

/-- The kinds above a kind, nearest first. The tree has three levels. -/
def ancestors (k : FaultKind) : List FaultKind :=
  match k.parent? with
  | none => []
  | some p => p :: p.parent?.toList

/-- Must a fault of this kind come with a context? -/
def needsContext : FaultKind → Bool
  | lengthBelowMinimum => true
  | lengthBelowRequiredCount => true
  | _ => false

end FaultKind

/-- A fault: its kind, the template of its message, and its context. -/
structure Fault where
  kind : FaultKind
  template : Text
  context : Option (List (Text × Json))

/-- A fault of a kind, unless the kind needs a context and there is none. -/
def Fault.make? (kind : FaultKind) (template : Text) (context : Option (List (Text × Json))) :
    Option Fault :=
  if kind.needsContext && context.isNone then none else some ⟨kind, template, context⟩

/-- The message: the template filled from the context. -/
def Fault.message (f : Fault)
    (attributes : Template.Attributes := Template.Attributes.none) : Except TemplateError Text :=
  Template.format f.template [("ctx".toList, .obj (f.context.getD []))] attributes

end MaskPolicy
