import MaskPolicy.Policy.Description
import MaskPolicy.Record.Fields

/-!
# Records of policies and results

The records that leave the library: policies, the outcome of a check with its details, and
descriptions of masks. Each is given by its fields, in the order in which they are written. A policy
admits no other members and cannot be changed.
-/

namespace MaskPolicy

/-- The indexes from zero to nine. -/
def indexCodec : Codec (Fin 10) :=
  (Codec.between 0 (some 9)).imap (fun n => ⟨n.val, by have := n.property.2 9 rfl; omega⟩)
    (fun i => ⟨i.val, by omega, by intro h hh; cases hh; omega⟩) fun _ => rfl

/-- Lists of texts. -/
def textsCodec : Codec (List Text) := Codec.text.listOf .notList

/-- The two fields about one class. -/
def Rule.fields (allowed index : String)
    (disjoint : ∀ n ∈ [allowed.toList], n ∉ [index.toList]) : Fields Rule :=
  ((Fields.one allowed .bool (.shown false)).pair
    (.one index indexCodec (.shown ⟨0, by decide⟩)) disjoint).imap
    (fun p => ⟨p.1, p.2⟩) (fun r => (r.allowed, r.index)) fun _ => rfl

namespace Policy

/-- The minimum length and the alphabet of a policy. -/
def lengthFields : Fields (Codec.Between 1 (some 9) × List Text) :=
  (Fields.one "min_length" (.between 1 (some 9)) (.shown ⟨1, by simp⟩)).pair
    (.one "special_alphabet" (Codec.text.listOf .notTuple)
      (.shown (Text.singletons defaultAlphabet)))
    (by decide)

/-- The rules of a policy. -/
def ruleFields : Fields (Rule × Rule × Rule × Rule × Rule) :=
  (Rule.fields "uppercase_allowed" "required_uppercase_index" (by decide)).pair
    ((Rule.fields "lowercase_allowed" "required_lowercase_index" (by decide)).pair
      ((Rule.fields "digits_low_allowed" "required_digit_low_index" (by decide)).pair
        ((Rule.fields "digits_high_allowed" "required_digit_high_index" (by decide)).pair
          (Rule.fields "special_allowed" "required_special_index" (by decide))
          (by decide)) (by decide)) (by decide)) (by decide)

/-- The fields of a policy. -/
def fields : Fields (Policy Text) :=
  (ruleFields.pair lengthFields (by decide)).imap
    (fun ((u, l, dl, dh, s), n, a) => {
      uppercase := u, lowercase := l, digitsLow := dl, digitsHigh := dh, special := s
      minLength := n.val, one_le_minLength := n.property.1
      minLength_le_nine := n.property.2 9 rfl, alphabet := a })
    (fun p => ((p.uppercase, p.lowercase, p.digitsLow, p.digitsHigh, p.special),
      ⟨p.minLength, p.one_le_minLength, by intro h hh; cases hh; exact p.minLength_le_nine⟩,
      p.alphabet))
    fun _ => rfl

/-- The record of a policy. -/
def info : RecordInfo where
  name := "PolicyConfig".toList
  description := some <| Text.joinWith ['\n'] [
    "Password composition policy decoded from an 11-digit mask.".toList,
    [],
    "Each character class is described by a pair of fields: whether the class may".toList,
    "appear in a password at all, and a 1-based cyclic index selecting one character".toList,
    "of that class the password must contain (".toList ++ ['\x60', '\x60', '0', '\x60', '\x60'] ++
      " means no specific character is".toList,
    "required).".toList]
  closed := true

/-- Policies as JSON. -/
def codec : Codec (Policy Text) := info.codec fields

/-- Assign a value to a name of a policy. A policy is frozen, so that nothing can be assigned to a
field or to a name that might be one; names that start with an underscore are not part of the
policy. -/
def assign (p : Policy Text) (name : Text) : Checked (Policy Text) :=
  if name.head? = some '_' then .ok p
  else (Checked.refuse .frozenInstance).under (.field name)

/-- The policy with its characters as texts. -/
def withTexts (p : Policy Char) : Policy Text := { p with alphabet := Text.singletons p.alphabet }

end Policy

namespace ValidationDetails

/-- The fields of the details of a check. -/
def fields : Fields ValidationDetails :=
  ((Fields.one "length" .integer .required).pair
    ((Fields.one "min_length" .integer .required).pair
      ((Fields.one "allowed_chars" textsCodec .required).pair
        ((Fields.one "required_chars" textsCodec .required).pair
          (Fields.one "found_required_chars" textsCodec (.silent []))
          (by decide)) (by decide)) (by decide)) (by decide)).imap
    (fun (n, m, a, r, f) => ⟨n, m, a, r, f⟩)
    (fun d => (d.length, d.minLength, d.allowedChars, d.requiredChars, d.foundRequiredChars))
    fun _ => rfl

/-- The record of the details of a check. -/
def info : RecordInfo where
  name := "ValidationDetails".toList

/-- Details of checks as JSON. -/
def codec : Codec ValidationDetails := info.codec fields

end ValidationDetails

namespace ValidationResult

/-- The fields of the outcome of a check. -/
def fields : Fields ValidationResult :=
  ((Fields.one "is_valid" .bool .required).pair
    ((Fields.one "errors" textsCodec (.silent [])).pair
      (Fields.one "details" (ValidationDetails.codec.optional fun _ => Json.noConfusion)
        (.shown none))
      (by decide)) (by decide)).imap
    (fun (v, e, d) => ⟨v, e, d⟩) (fun r => (r.isValid, r.errors, r.details)) fun _ => rfl

/-- The record of the outcome of a check. -/
def info : RecordInfo where
  name := "ValidationResult".toList
  description := some <| Text.joinWith ['\n'] [
    "Outcome of checking a password against a mask.".toList,
    [],
    marked "details" ++ " is ".toList ++ marked "None" ++
      " only when the mask itself could not be parsed, in which".toList,
    "case ".toList ++ marked "errors" ++ " holds the single parse error message.".toList]
where
  /-- A word marked as a literal. -/
  marked (word : String) : Text := ['\x60', '\x60'] ++ word.toList ++ ['\x60', '\x60']

/-- Outcomes of checks as JSON. -/
def codec : Codec ValidationResult := info.codec fields

end ValidationResult

namespace MaskDescription

/-- The fields of a description. -/
def fields : Fields MaskDescription :=
  ((Fields.one "rules" textsCodec (.silent [])).pair
    ((Fields.one "required_characters" textsCodec (.silent [])).pair
      ((Fields.one "min_length" .integer (.shown 0)).pair
        ((Fields.one "allowed_character_types" textsCodec (.silent [])).pair
          (Fields.one "error" (Codec.text.optional fun _ => Json.noConfusion) (.shown none))
          (by decide)) (by decide)) (by decide)) (by decide)).imap
    (fun (r, c, n, t, e) => ⟨r, c, n, t, e⟩)
    (fun d => (d.rules, d.requiredCharacters, d.minLength, d.allowedCharacterTypes, d.error))
    fun _ => rfl

/-- The record of a description. -/
def info : RecordInfo where
  name := "MaskDescription".toList

/-- Descriptions as JSON. -/
def codec : Codec MaskDescription := info.codec fields

end MaskDescription

end MaskPolicy
