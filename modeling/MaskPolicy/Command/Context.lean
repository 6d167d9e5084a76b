import MaskPolicy.Command.Outcome

/-!
# What a command works with

A command may need the settings, and looks for them only then: a configuration that cannot be used
is no failure of a command that does without. A command that is called by itself has no settings at
all.
-/

namespace MaskPolicy.Command

/-- Where settings come from: a named file, if there is one, and variables. -/
structure Configuration where
  file : Option (Text × List UInt8)
  environment : Environment

/-- What a command works with. -/
structure Context where
  configuration : Option Configuration
  /-- What can be read as a password. -/
  input : Text
  /-- The answers of the operating system to draws. -/
  answers : List Nat

/-- The settings of a configuration, or how a command that needs them ends. -/
def Configuration.settings (c : Configuration) : Except Ending Settings :=
  match Settings.ofFile (c.file.map Prod.snd) c.environment with
  | .ok s => .ok s
  | .error (.reported e) => .error (.failed (.configuration ((c.file.map Prod.fst).getD []) e))
  | .error (.crashed e) => .error (.crashed (.configuration e))

namespace Context

/-- The settings. -/
def settings (c : Context) : Except Ending Settings :=
  match c.configuration with
  | none => .error (.crashed .noSettings)
  | some configuration => configuration.settings

/-- The special alphabet: the one that is given, or that of the settings. -/
def alphabet (c : Context) (given : Option Text) : Except Ending Text :=
  match given with
  | some alphabet => .ok alphabet
  | none => c.settings.map Settings.alphabet

end Context

end MaskPolicy.Command
