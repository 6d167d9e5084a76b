import MaskPolicy.Command.Assignment
import MaskPolicy.Command.Describe
import MaskPolicy.Command.Encode
import MaskPolicy.Command.Generate

/-!
# The program

The program reads its own options, then the name of a command, and leaves the rest of the words to
the command. Every option has a variable, whose name is made of the program's, the command's and the
option's. A command can also be called by itself, without the program, its variables and its
settings.
-/

namespace MaskPolicy.Command

/-- What a run of the program depends on, beside its words. -/
structure Surroundings where
  environment : Environment
  files : Text → FileState
  /-- What can be read as a password. -/
  input : Text
  /-- The answers of the operating system to draws. -/
  answers : List Nat

/-- A request to one of the commands. -/
inductive Request where
  | describe (r : DescribeRequest)
  | encode (r : EncodeRequest)
  | generate (r : GenerateRequest)
  | validate (r : ValidateRequest)

namespace Assignment

/-- The argument at a place. The place of a required argument is always filled. -/
def argument (a : Assignment) (place : Nat) : Text := (a.arguments[place]?).getD []

/-- The rules that the options give. Without options no class is allowed, no index asks for a
character, and the minimum length is one. -/
def choice (a : Assignment) : Choice where
  allowed c := a.isOn (allowOption c)
  index c := (a.int? (indexOption c)).getD 0
  minLength := (a.int? minLengthOption).getD 1

/-- The request to a command. -/
def request (a : Assignment) : CommandName → Request
  | .describe => .describe ⟨a.argument 0, a.text? alphabetOption, a.isOn jsonOption⟩
  | .encode => .encode ⟨a.choice⟩
  | .generate => .generate ⟨a.argument 0, a.text? alphabetOption, a.int? lengthOption,
      (a.int? countOption).map Int.toNat, a.int? seedOption⟩
  | .validate =>
    .validate ⟨a.argument 0, a.arguments[1]?, a.text? alphabetOption, a.isOn jsonOption⟩

end Assignment

/-- Run the command of a request. -/
def Request.run (c : Context) : Request → Outcome
  | describe r => r.run c
  | encode r => r.run
  | generate r => r.run c
  | validate r => r.run c

/-- The outcome of a call that does not come to run a command. -/
def stopped (spec : CommandSpec) (path : Text) (others : List CommandSpec) : Stop → Outcome
  | .wrong e => .ofEnding (.failed (.usage spec path e))
  | .page .help => { output := spec.helpPage path others }
  | .page .version =>
    { output := programSpec.name ++ ", version ".toList ++ version ++ ['\n'] }

namespace CommandName

/-- The request to a command that some words make. -/
def request (c : CommandName) (lookup : Text → Option Text) (files : Text → FileState)
    (words : List Text) : Except Stop Request :=
  match c.spec.read true lookup files words with
  | .error stop => .error stop
  | .ok a =>
    match a.arguments.drop c.spec.arguments.length with
    | [] => .ok (a.request c)
    | extra => .error (.wrong (.extraArguments extra))

/-- Call a command by a path. -/
def call (c : CommandName) (path : Text) (lookup : Text → Option Text)
    (files : Text → FileState) (context : Context) (words : List Text) : Outcome :=
  match c.request lookup files words with
  | .error stop => stopped c.spec path [] stop
  | .ok r => r.run context

/-- Call a command by itself. -/
def runAlone (c : CommandName) (s : Surroundings) (words : List Text) : Outcome :=
  (c.call c.spec.name (fun _ => none) s.files ⟨none, s.input, s.answers⟩ words).untraced

end CommandName

namespace Program

/-- What the names of variables start with. -/
def variablePrefix : Text := "PASSWORD_MASK".toList

/-- The name of the variable of an option, given the names that lead to it. -/
def variableName (names : List Text) : Text :=
  Text.joinWith ['_'] (variablePrefix :: names.map Text.upper)

/-- The value of the variable with the names that lead to an option. -/
def variableOf (environment : Environment) (names : List Text) : Option Text :=
  (environment.find? fun e => e.1 = variableName names).map Prod.snd

/-- The variables of the options of a command, or of the program itself. -/
def lookup (s : Surroundings) (command : List Text) (key : Text) : Option Text :=
  variableOf s.environment (command ++ [key])

/-- The names of all variables that a run may ask for. -/
def variableNames : List Text :=
  (programSpec.options.map fun o => variableName [o.key]) ++
    (CommandName.all.flatMap fun c =>
      c.spec.options.map fun o => variableName [c.spec.name, o.key]) ++
    Settings.fields.names.map fun name => variableName [name]

/-- The commands, as the help page lists them. -/
def commands : List CommandSpec := CommandName.all.map CommandName.spec

/-- The name of a file, without the parts that lead nowhere. -/
def fileName (path : Text) : Text :=
  let parts := (Text.splitOn '/' path).filter fun part => !part.isEmpty && part ≠ ['.']
  let root : Text := match path with
    | '/' :: '/' :: '/' :: _ => ['/']
    | '/' :: '/' :: _ => ['/', '/']
    | '/' :: _ => ['/']
    | _ => []
  if root.isEmpty && parts.isEmpty then ['.'] else root ++ Text.joinWith ['/'] parts

/-- The configuration that the options of the program give. -/
def configuration (s : Surroundings) (a : Assignment) : Configuration where
  file := (a.text? configOption).bind fun path =>
    match s.files path with
    | .file bytes => some (fileName path, bytes)
    | _ => none
  environment := s.environment

/-- The name of the configuration file that some words or a variable give. -/
def configurationName? (environment : Environment) (words : List Text) : Option Text :=
  match readWords programSpec.options false words with
  | .error _ => none
  | .ok ws =>
    match ws.last? configOption with
    | some (.given path) => some path
    | _ => variableOf environment [configOption.key]

/-- The options of the program, read from some words. -/
def read (s : Surroundings) (words : List Text) : Except Stop Assignment :=
  programSpec.read false (lookup s []) s.files words

/-- Call a command with the options of the program. -/
def callWith (s : Surroundings) (a : Assignment) (c : CommandName) (words : List Text) : Outcome :=
  let outcome := c.call (programSpec.name ++ ' ' :: c.spec.name) (lookup s [c.spec.name]) s.files
    ⟨some (configuration s a), s.input, s.answers⟩ words
  if a.isOn debugOption then outcome else outcome.untraced

/-- A call of the program that does not come to a command. -/
def stop (e : Stop) : Outcome := stopped programSpec programSpec.name commands e

/-- A call of a command that does not exist. What looks like an option is read as one, and may be no
option or show a page. -/
def unknown (s : Surroundings) (name : Text) (rest : List Text) : Outcome :=
  let missing := stop <| .wrong <|
    .unknownCommand name (Text.similarTo name (commands.map CommandSpec.name))
  match name with
  | '-' :: _ =>
    match read s (name :: rest) with
    | .error e => stop e
    | .ok _ => missing
  | _ => missing

/-- Run the program. -/
def run (s : Surroundings) (words : List Text) : Outcome :=
  if words.isEmpty then
    .ofEnding (.failed (.uncalled (programSpec.helpPage programSpec.name commands)))
  else
    match read s words with
    | .error e => stop e
    | .ok a =>
      match a.arguments with
      | [] => stop (.wrong .missingCommand)
      | name :: rest =>
        match CommandName.ofName? name with
        | some c => callWith s a c rest
        | none => unknown s name rest

end Program

end MaskPolicy.Command
