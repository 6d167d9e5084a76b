import MaskPolicy.Fault
import MaskPolicy.Policy.Mask

/-!
# Policies from masks

Any value may be offered as a mask and any list of values as the entries of an alphabet. A policy
comes out when the mask spells eleven digits, every entry is one character, and the alphabet is not
empty if the mask allows special characters. The three conditions are tested in this order, and a
failure says which value broke which of them.
-/

namespace MaskPolicy

/-- Why a mask, or the alphabet given with it, cannot be used. -/
inductive MaskError where
  /-- The mask is not eleven digits; kept as its plain text. -/
  | malformed (mask : Text)
  /-- An entry of the alphabet is not a single character. -/
  | notCharacter (entry : Json)
  /-- The mask allows special characters and there are none. -/
  | emptyAlphabet
  deriving Repr

namespace MaskError

/-- The template of the message. -/
def template : MaskError → Text
  | malformed _ => "Mask must be exactly 11 digits".toList
  | notCharacter _ =>
    "Special alphabet entries must be single characters, got ".toList ++
      '{' :: "ctx[entry]!r".toList ++ ['}']
  | emptyAlphabet => "Special alphabet must not be empty when special characters are allowed".toList

/-- The values that the message is about. -/
def context : MaskError → Option (List (Text × Json))
  | malformed mask => some [("mask".toList, .str mask)]
  | notCharacter entry => some [("entry".toList, entry)]
  | emptyAlphabet => none

/-- The kind of fault that an unusable mask is. -/
def kind : MaskError → FaultKind
  | malformed _ => .malformedMask
  | notCharacter _ => .invalidSpecialAlphabet
  | emptyAlphabet => .invalidSpecialAlphabet

/-- The fault to report. -/
def fault (e : MaskError) : Fault := ⟨e.kind, e.template, e.context⟩

/-- The message, with the offending entry as a literal. -/
def message : MaskError → Text
  | malformed _ => "Mask must be exactly 11 digits".toList
  | notCharacter entry =>
    "Special alphabet entries must be single characters, got ".toList ++ entry.literal
  | emptyAlphabet => "Special alphabet must not be empty when special characters are allowed".toList

end MaskError

namespace Alphabet

/-- The characters of an alphabet, as entries. -/
def entriesOf (alphabet : Text) : List Json := alphabet.map fun c => .str [c]

/-- The character that an entry is. -/
def character? : Json → Option Char
  | .str [c] => some c
  | _ => none

/-- The characters of an alphabet, or its first entry that is not a character. -/
def normalize : List Json → Except MaskError Text
  | [] => .ok []
  | entry :: rest =>
    match character? entry with
    | none => .error (.notCharacter entry)
    | some c => (normalize rest).map (c :: ·)

/-- The entries of an alphabet are its characters. -/
theorem normalize_entriesOf (alphabet : Text) : normalize (entriesOf alphabet) = .ok alphabet := by
  induction alphabet with
  | nil => rfl
  | cons c cs ih =>
    rw [entriesOf, List.map_cons, normalize, character?]
    simp only [entriesOf] at ih
    rw [ih]
    rfl

end Alphabet

/-- The mask that a value spells; only a text can be one. -/
def Mask.ofValue (v : Json) : Except MaskError Mask :=
  match v.text?.bind Mask.ofText? with
  | some m => .ok m
  | none => .error (.malformed v.plain)

/-- The policy that a mask denotes with an alphabet, when special characters have characters. -/
def Mask.usablePolicy (m : Mask) (alphabet : Text) : Except MaskError UsablePolicy :=
  if h : (m.policy alphabet).Usable then .ok ⟨m.policy alphabet, h⟩ else .error .emptyAlphabet

/-- The policy that a mask and the entries of an alphabet denote. -/
def Policy.parse (mask : Json) (entries : List Json) : Except MaskError UsablePolicy := do
  let m ← Mask.ofValue mask
  let alphabet ← Alphabet.normalize entries
  m.usablePolicy alphabet

end MaskPolicy
