import MaskPolicy.Command.Parameter
import MaskPolicy.Policy.CharClass

/-!
# The commands

The four commands and what each of them takes. The options of the program stand before the name of a
command. Every command and the program have an option for the help page, and the program has one for
its version.
-/

namespace MaskPolicy.Command

/-- The commands, in alphabetical order. -/
inductive CommandName where
  | describe
  | encode
  | generate
  | validate
  deriving DecidableEq, Repr

/-- Every command, as the help page lists them. -/
def CommandName.all : List CommandName := [.describe, .encode, .generate, .validate]

/-- The option that shows the help page. -/
def helpOption : OptionSpec where
  key := "help".toList
  long := "--help".toList
  form := .switch none
  help := "Show this message and exit.".toList
  page := some .help

/-- The option for the special alphabet. -/
def alphabetOption : OptionSpec where
  key := "special".toList
  letter := some 's'
  long := "--special".toList
  form := .valued .text
  help := ("Characters making up the special character class, in index order. " ++
    "Overrides the configured alphabet.").toList

/-- The switch for JSON in place of sections. -/
def jsonOption : OptionSpec where
  key := "as_json".toList
  long := "--json".toList
  form := .switch none

/-- The argument for the mask. -/
def maskArgument : ArgumentSpec := ⟨"MASK".toList, true⟩

/-- The option that shows the version. -/
def versionOption : OptionSpec where
  key := "version".toList
  long := "--version".toList
  form := .switch none
  help := "Show the version and exit.".toList
  page := some .version

/-- The switch for the trace. -/
def debugOption : OptionSpec where
  key := "debug".toList
  letter := some 'D'
  long := "--debug".toList
  form := .switch (some "--no-debug".toList)
  help := "Enable debug mode.".toList

/-- The option for the configuration file. -/
def configOption : OptionSpec where
  key := "config".toList
  letter := some 'c'
  long := "--config".toList
  form := .valued .file
  help := "Path to a YAML configuration file.".toList

/-- The program. -/
def programSpec : CommandSpec where
  name := "password-mask".toList
  synopsis := ["COMMAND".toList, "[ARGS]...".toList]
  summary := "Validate, generate and describe passwords using 11-digit policy masks.".toList
  options := [versionOption, debugOption, configOption, helpOption]

/-- The version of the program. -/
def version : Text := "0.1.0".toList

/-- The heading of examples. -/
def examplesHeading : Paragraph := .running "Examples:".toList

/-- The command that explains a mask. -/
def describeSpec : CommandSpec where
  name := "describe".toList
  synopsis := ["MASK".toList]
  summary := "Explain the rules encoded by a mask.".toList
  arguments := [maskArgument]
  options := [
    alphabetOption,
    { jsonOption with help := "Print the rules as JSON.".toList },
    helpOption]

/-- The command that checks a password. -/
def validateSpec : CommandSpec where
  name := "validate".toList
  synopsis := ["MASK".toList, "[PASSWORD]".toList]
  summary := "Check a password against a mask.".toList
  details := [
    .running ("The password is read from a hidden prompt when it is not passed as an argument. " ++
      "Exits with status 65 when the password breaks any rule.").toList,
    examplesHeading,
    .lines ["  $ password-mask validate 11111111119 'Abc06!defg'".toList]]
  arguments := [maskArgument, ⟨"PASSWORD".toList, false⟩]
  options := [
    alphabetOption,
    { jsonOption with help := "Print the result as JSON.".toList },
    helpOption]

/-- The option for the length of generated passwords. -/
def lengthOption : OptionSpec where
  key := "length".toList
  letter := some 'l'
  long := "--length".toList
  form := .valued (.range 0 none)
  help := ("Length of the generated password. Defaults to the minimum length of the mask, or " ++
    "the number of required characters plus two if that is larger.").toList

/-- The option for the number of passwords. -/
def countOption : OptionSpec where
  key := "count".toList
  letter := some 'n'
  long := "--count".toList
  form := .valued (.range 1 none)
  help := "Number of passwords to generate.".toList

/-- The option for the seed of a reproducible generator. -/
def seedOption : OptionSpec where
  key := "seed".toList
  long := "--seed".toList
  form := .valued .integer
  help := ("Seed a reproducible, non-cryptographic generator. " ++
    "Only use this for test fixtures.").toList

/-- The command that generates passwords. -/
def generateSpec : CommandSpec where
  name := "generate".toList
  synopsis := ["MASK".toList]
  summary := "Generate random passwords satisfying a mask, one per line.".toList
  details := [
    examplesHeading,
    .lines ["  # Three 12 character passwords".toList,
      "  $ password-mask generate 11111111118 -l 12 -n 3".toList]]
  arguments := [maskArgument]
  options := [alphabetOption, lengthOption, countOption, seedOption, helpOption]

/-- The name of the option that allows a class. -/
def classOption : CharClass → String
  | .uppercase => "upper"
  | .lowercase => "lower"
  | .digitsLow => "digits-low"
  | .digitsHigh => "digits-high"
  | .special => "special"

/-- The key of a parameter with a name. -/
def keyOf (name : String) : Text := name.toList.map fun c => if c = '-' then '_' else c

/-- The characters of a class, for the help page. -/
def classWording : CharClass → Text
  | .uppercase => "A-Z".toList
  | .lowercase => "a-z".toList
  | .digitsLow => "0-5".toList
  | .digitsHigh => "6-9".toList
  | .special => "special characters".toList

/-- The switch that allows a class. -/
def allowOption (c : CharClass) : OptionSpec where
  key := keyOf (classOption c)
  long := "--".toList ++ (classOption c).toList
  form := .switch (some ("--no-".toList ++ (classOption c).toList))
  help := "Allow ".toList ++ classWording c ++ ['.']

/-- The option for the index of a class. -/
def indexOption (c : CharClass) : OptionSpec where
  key := keyOf (classOption c) ++ "_index".toList
  long := "--".toList ++ (classOption c).toList ++ "-index".toList
  form := .valued (.range 0 (some 9))
  shownDefault := some 0

/-- The option for the minimum length of a mask. -/
def minLengthOption : OptionSpec where
  key := "min_length".toList
  long := "--min-length".toList
  form := .valued (.range 1 (some 9))
  shownDefault := some 1

/-- The command that builds a mask. -/
def encodeSpec : CommandSpec where
  name := "encode".toList
  synopsis := []
  summary := "Build a mask from individual rules.".toList
  details := [
    .running ("An index selects the character of its class a password must contain, counting " ++
      "from 1 and wrapping around the end of the class. 0 requires no specific character.").toList,
    examplesHeading,
    .lines ["  # Letters only, must contain 'B', at least 6 characters".toList,
      "  $ password-mask encode --upper --upper-index 2 --lower --min-length 6".toList,
      "  12100000006".toList]]
  options :=
    CharClass.all.flatMap (fun c => [allowOption c, indexOption c]) ++ [minLengthOption, helpOption]

namespace CommandName

/-- The description of a command. -/
def spec : CommandName → CommandSpec
  | describe => describeSpec
  | encode => encodeSpec
  | generate => generateSpec
  | validate => validateSpec

/-- The command with a name. -/
def ofName? (name : Text) : Option CommandName := all.find? fun c => c.spec.name = name

/-- A command is found by its name. -/
theorem ofName?_name (c : CommandName) : ofName? c.spec.name = some c := by cases c <;> decide

end CommandName

end MaskPolicy.Command
