import MaskPolicy.Number.Decimal

/-!
# Parameters of commands

A command has options, given by name, and arguments, given by place. An option either takes a value
or is a switch, which may have a second name that turns it off. Options and commands are described
by data, from which the reader of a command line and the help pages both work.
-/

namespace MaskPolicy.Command

/-- What the value of an option may be. -/
inductive ValueKind where
  | text
  | integer
  /-- An integer between two bounds; there may be no upper one. -/
  | range (low : Int) (high : Option Int)
  /-- The name of a file that exists. -/
  | file
  deriving DecidableEq, Repr

/-- How an option is given. -/
inductive OptionForm where
  | valued (kind : ValueKind)
  /-- On its own, with perhaps a name that turns it off. -/
  | switch (off : Option Text)
  deriving DecidableEq, Repr

/-- What is shown in place of what a command does. -/
inductive Page where
  | help
  | version
  deriving DecidableEq, Repr

/-- The description of an option. -/
structure OptionSpec where
  /-- The name of the parameter, from which variables are named. -/
  key : Text
  /-- The letter of the short name. -/
  letter : Option Char := none
  /-- The long name. -/
  long : Text
  form : OptionForm
  /-- What the help page says. -/
  help : Text := []
  /-- The value that the help page shows as the default. -/
  shownDefault : Option Int := none
  /-- The page that the option shows. -/
  page : Option Page := none
  deriving DecidableEq, Repr

namespace OptionSpec

/-- The short name of a letter. -/
def shortName (letter : Char) : Text := ['-', letter]

/-- The names of an option, apart from the one that turns it off. -/
def names (o : OptionSpec) : List Text := (o.letter.map shortName).toList ++ [o.long]

/-- The long names of an option. -/
def longNames (o : OptionSpec) : List Text :=
  match o.form with
  | .valued _ => [o.long]
  | .switch off => o.long :: off.toList

end OptionSpec

/-- The description of an argument. -/
structure ArgumentSpec where
  name : Text
  required : Bool
  deriving DecidableEq, Repr

/-- A paragraph of a description: running text, or lines that are kept as they are. -/
inductive Paragraph where
  | running (t : Text)
  | lines (ls : List Text)
  deriving DecidableEq, Repr

/-- The description of a command. -/
structure CommandSpec where
  name : Text
  /-- What follows the options in a call. -/
  synopsis : List Text
  /-- What the command does, in one sentence. -/
  summary : Text
  details : List Paragraph := []
  arguments : List ArgumentSpec := []
  options : List OptionSpec
  deriving DecidableEq, Repr

/-- The wording of a range. -/
def rangeText (low : Int) : Option Int → Text
  | some high => Decimal.ofInt low ++ "<=x<=".toList ++ Decimal.ofInt high
  | none => "x>=".toList ++ Decimal.ofInt low

end MaskPolicy.Command
