import MaskPolicy.Command.Value
import MaskPolicy.Command.Words

/-!
# Wrong usage

What is wrong with a call of a command, found before the command runs. The words are wrong, a value
cannot be read, an argument is missing or there are too many, or there is no such command. The
message names the parameter by all its names.
-/

namespace MaskPolicy.Command

/-- What is wrong with a call. -/
inductive UsageError where
  | words (e : WordError)
  /-- A value of an option, which has the given names. -/
  | value (names : List Text) (e : ValueError)
  | missingArgument (name : Text)
  | extraArguments (ws : List Text)
  | missingCommand
  | unknownCommand (name : Text) (similar : List Text)
  deriving DecidableEq, Repr

/-- A question after a message, about similar names. -/
def suggestion (similar : List Text) : Text :=
  match similar with
  | [] => []
  | [name] => " Did you mean ".toList ++ name.quoted ++ ['?']
  | names =>
    " (Did you mean one of: ".toList ++
      Text.joinWith ", ".toList (names.mergeSort textLe |>.map Text.quoted) ++ "?)".toList
where
  /-- Alphabetical order. -/
  textLe (a b : Text) : Bool := !(String.ofList b < String.ofList a : Bool)

namespace UsageError

/-- The message. -/
def message : UsageError → Text
  | words (.unknown name similar) =>
    "No such option ".toList ++ name.quoted ++ ['.'] ++ suggestion similar
  | words (.needsValue name) => "Option ".toList ++ name.quoted ++ " requires an argument.".toList
  | words (.takesNoValue name) =>
    "Option ".toList ++ name.quoted ++ " does not take a value.".toList
  | value names e =>
    "Invalid value for ".toList ++
      Text.joinWith " / ".toList (names.map fun name => '\'' :: name ++ ['\'']) ++
      ": ".toList ++ e.message
  | missingArgument name => "Missing argument '".toList ++ name ++ "'.".toList
  | extraArguments ws =>
    (if ws.length = 1 then "Got unexpected extra argument (".toList
      else "Got unexpected extra arguments (".toList) ++
      Text.joinWith [' '] ws ++ [')']
  | missingCommand => "Missing command.".toList
  | unknownCommand name similar =>
    "No such command ".toList ++ name.quoted ++ ['.'] ++ suggestion similar

/-- Is the message shown without the usage of the command? -/
def isBrief : UsageError → Bool
  | words (.needsValue _) => true
  | words (.takesNoValue _) => true
  | _ => false

end UsageError

end MaskPolicy.Command
