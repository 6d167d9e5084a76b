import MaskPolicy.Report.Standard
import MaskPolicy.Settings.Basic
import MaskPolicy.Yaml.Value

/-!
# Configuration files

A configuration file is a document whose value is a mapping from settings to values. A document with
an empty value counts as an empty mapping. What is wrong with a file is told apart: its syntax, a
value that is no mapping, and settings that are not accepted.
-/

namespace MaskPolicy

/-- Why a configuration cannot be used. -/
inductive ConfigError where
  | unreadable (e : Yaml.SyntaxError)
  | notMapping
  | invalid (issues : List Issue)
  deriving Repr

/-- What stops a configuration in a way that no message reports. -/
inductive ConfigCrash where
  /-- A key of the mapping is not a text. -/
  | keyNotText
  /-- A scalar is not what its form or its tag says. -/
  | scalar (e : Yaml.Failure)
  deriving Repr

/-- What keeps a configuration from giving settings. -/
inductive ConfigFailure where
  | reported (e : ConfigError)
  | crashed (e : ConfigCrash)
  deriving Repr

namespace ConfigError

/-- The message of an error for a file of the given name. -/
def message (file : Text) : ConfigError → Text
  | unreadable e =>
    "Decoding failed for configuration file ".toList ++ file.quoted ++ ".\n\n".toList ++ e.message
  | notMapping =>
    "Invalid configuration input.\n\n".toList ++
      Detail.lineOf [] "Input must be a valid mapping".toList
  | invalid issues => "Invalid configuration input.\n\n".toList ++ standardReport issues

/-- The exit status of a command that fails with an error. -/
def exitCode : ConfigError → Nat := fun _ => 1

end ConfigError

namespace Yaml.Value

/-- Is the value empty? -/
def isEmpty : Value → Bool
  | null => true
  | bool b => !b
  | int n => n = 0
  | real x => x.isZero
  | text t => t.isEmpty
  | binary bytes => bytes.isEmpty
  | moment _ => false
  | sequence items => items.isEmpty
  | mapping pairs => pairs.isEmpty
  | set items => items.isEmpty

/-- The text that a value is when it is read as one, if it is. -/
def text? : Value → Option Text
  | text t => some t
  | binary bytes => (String.fromUTF8? (ByteArray.mk bytes.toArray)).map String.toList
  | _ => none

/-- Is the value bytes that are no text? -/
def isUnreadable : Value → Bool
  | binary bytes => (binary bytes).text?.isNone
  | _ => false

/-- The value of a setting. No setting is a collection or a date, so that one stands for all of
them; it also stands for bytes that are no text. -/
def payload : Value → Json
  | null => .null
  | bool b => .bool b
  | int n => .int n
  | real x => .real x
  | text t => .str t
  | binary bytes => ((binary bytes).text?).elim (.obj []) .str
  | sequence _ => .arr []
  | _ => .obj []

/-- The members of a mapping, if all its keys are texts. -/
def members? (pairs : List (Value × Value)) : Option (List (Text × Json)) :=
  pairs.mapM fun
    | (text name, v) => some (name, v.payload)
    | _ => none

/-- The value that a mapping holds for a setting: the last one under its name in any letter case. -/
def setting? (pairs : List (Value × Value)) (name : Text) : Option Value :=
  (pairs.reverse.find? fun
    | (text key, _) => decide (Text.lower key = name)
    | _ => false).map Prod.snd

end Yaml.Value

/-- What is wrong with bytes that are no text, where something is wrong with a value of another
kind. -/
def IssueKind.unreadable : IssueKind → IssueKind
  | notText => unreadableText
  | notBool => unreadableBool
  | notInteger => unreadableInteger
  | kind => kind

namespace Settings

/-- An issue about the settings of a mapping. Of bytes that are no text it says so. -/
def worded (pairs : List (Yaml.Value × Yaml.Value)) (i : Issue) : Issue :=
  match i.location with
  | [.field name] =>
    if (Yaml.Value.setting? pairs name).any Yaml.Value.isUnreadable then
      { i with kind := i.kind.unreadable }
    else i
  | _ => i

/-- The settings that the value of a document gives. -/
def ofValue (v : Yaml.Value) (env : Environment) : Except ConfigFailure Settings :=
  if v.isEmpty then checked (load [] env)
  else match v with
    | .mapping pairs =>
      match Yaml.Value.members? pairs with
      | none => .error (.crashed .keyNotText)
      | some members => checked ((load members env).mapError (·.map (worded pairs)))
    | _ => .error (.reported .notMapping)
where
  /-- The outcome of a check as that of a configuration. -/
  checked (c : Checked Settings) : Except ConfigFailure Settings :=
    c.mapError fun issues => .reported (.invalid issues)

/-- The settings that a file gives, if there is one. -/
def ofFile (file : Option (List UInt8)) (env : Environment) : Except ConfigFailure Settings :=
  match file with
  | none => ofValue .null env
  | some bytes =>
    match Yaml.read bytes with
    | .ok v => ofValue v env
    | .error (.syntaxError e) => .error (.reported (.unreadable e))
    | .error e => .error (.crashed (.scalar e))

end Settings

end MaskPolicy
