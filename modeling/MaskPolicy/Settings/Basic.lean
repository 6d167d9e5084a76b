import MaskPolicy.Policy.CharClass
import MaskPolicy.Record.Fields

/-!
# Settings

Three settings decide what a command does when its arguments do not say: the special alphabet, the
kind of randomness and the number of passwords. Each is looked up by itself, first in the
environment and then among given members, and has a default. Names are the same in any letter case;
a variable is named like its setting with a prefix, and an empty variable is still a value. Members
whose names start with an underscore count as unknown here; some such names are options of the
look-up itself, which is not part of the library.
-/

namespace MaskPolicy

/-- The settings. -/
structure Settings where
  alphabet : Text
  one_le_alphabet : 1 ≤ alphabet.length
  secureRandom : Bool
  defaultCount : Nat
  count_pos : 0 < defaultCount
  deriving DecidableEq, Repr

/-- Variables with their values. -/
abbrev Environment := List (Text × Text)

namespace Settings

/-- The fields of the settings. -/
def fields : Fields Settings :=
  ((Fields.one "special_alphabet" (.textFrom 1) (.shown ⟨defaultAlphabet, by decide⟩)).pair
    ((Fields.one "secure_random" .bool (.shown true)).pair
      (Fields.one "default_count" (.between 1 none) (.shown ⟨1, by simp⟩))
      (by decide)) (by decide)).imap
    (fun (a, r, n) => ⟨a.val, a.property, r, n.val, n.property.1⟩)
    (fun s => (⟨s.alphabet, s.one_le_alphabet⟩, s.secureRandom,
      ⟨s.defaultCount, s.count_pos, by simp⟩))
    fun _ => rfl

/-- The record of the settings. -/
def info : RecordInfo where
  name := "Settings".toList
  closed := true

/-- What the names of variables start with. -/
def variablePrefix : Text := "password_mask_".toList

/-- The value of the variable of a setting. -/
def fromEnvironment? (env : Environment) (name : Text) : Option Text :=
  (env.reverse.find? fun e => decide (Text.lower e.1 = variablePrefix ++ name)).map Prod.snd

/-- A member under the name of its setting, in any letter case. Other members keep their names. -/
def rename (names : List Text) (m : Text × Json) : Text × Json :=
  if names.contains (Text.lower m.1) then (Text.lower m.1, m.2) else m

/-- The value of a setting: that of its variable, or that of its member. -/
def lookup (members : List (Text × Json)) (env : Environment) (name : Text) : Option Json :=
  match fromEnvironment? env name with
  | some v => some (.str v)
  | none => Json.member? name members

/-- The settings that some members and an environment give, or everything that is wrong with them.
-/
def load (members : List (Text × Json)) (env : Environment) : Checked Settings :=
  let members := members.map (rename fields.names)
  info.check fields (lookup members env) members

end Settings

end MaskPolicy
