import MaskPolicy.Command.Usage

/-!
# Values of parameters

Each option takes its value from the last word that mentions it, or from its variable, and may be
left without one. Values are read one after another, and the first that cannot be read is reported:
options that show a page come first, and a page is shown as soon as one of them asks for it; then
come the options that are mentioned, in the order of their first mention, the arguments, and the
options that are not mentioned.
-/

namespace MaskPolicy.Command

/-- Why a call does not come to run its command. -/
inductive Stop where
  | wrong (e : UsageError)
  | page (p : Page)
  deriving DecidableEq, Repr

/-- What the parameters of a command are read from. -/
structure Inputs where
  words : Words
  /-- The variable of an option, by the key of the option. -/
  lookup : Text → Option Text
  files : Text → FileState

/-- Values by the keys of their parameters, and the arguments in order. -/
structure Assignment where
  values : List (Text × Value)
  arguments : List Text
  deriving DecidableEq, Repr

/-- The value that a text gives to an option. -/
def Inputs.read (i : Inputs) (o : OptionSpec) (t : Text) : Except UsageError Value :=
  (o.read i.files t).mapError (.value o.names)

/-- The value of an option, if it has one. An empty variable counts as none. -/
def Inputs.value? (i : Inputs) (o : OptionSpec) : Except UsageError (Option Value) :=
  match i.words.last? o with
  | some .on => .ok (some (.switch true))
  | some .off => .ok (some (.switch false))
  | some (.given t) => (i.read o t).map some
  | none =>
    match i.lookup o.key with
    | none => .ok none
    | some [] => .ok none
    | some t => (i.read o t).map some

/-- The values of some options, in order. -/
def Inputs.values (i : Inputs) : List OptionSpec → Except UsageError (List (Text × Value))
  | [] => .ok []
  | o :: rest =>
    match i.value? o with
    | .error e => .error e
    | .ok v => (i.values rest).map ((v.toList.map fun v => (o.key, v)) ++ ·)

/-- The first page that some options ask for. -/
def Inputs.page? (i : Inputs) : List OptionSpec → Except UsageError (Option Page)
  | [] => .ok none
  | o :: rest =>
    match i.value? o with
    | .error e => .error e
    | .ok (some (.switch true)) => .ok o.page
    | .ok _ => i.page? rest

/-- Are the required arguments there? -/
def checkArguments : List ArgumentSpec → List Text → Except UsageError Unit
  | [], _ => .ok ()
  | a :: rest, [] => if a.required then .error (.missingArgument a.name) else checkArguments rest []
  | _ :: rest, _ :: words => checkArguments rest words

/-- The values of the options and the arguments of a command. -/
def Inputs.assign (i : Inputs) (spec : CommandSpec) : Except Stop Assignment :=
  let mentioned := i.words.options
  let others := spec.options.filter fun o => !mentioned.any fun p => p.key = o.key
  let (pagesFirst, first) := mentioned.partition fun o => o.page.isSome
  let (pagesThen, last) := others.partition fun o => o.page.isSome
  match i.page? (pagesFirst ++ pagesThen) with
  | .error e => .error (.wrong e)
  | .ok (some p) => .error (.page p)
  | .ok none => Except.mapError .wrong do
    let before ← i.values first
    checkArguments spec.arguments i.words.arguments
    let after ← i.values last
    .ok ⟨before ++ after, i.words.arguments⟩

/-- The inputs of a command for the words of its call. -/
def CommandSpec.read (spec : CommandSpec) (mixed : Bool) (lookup : Text → Option Text)
    (files : Text → FileState) (words : List Text) : Except Stop Assignment :=
  match readWords spec.options mixed words with
  | .error e => .error (.wrong (.words e))
  | .ok ws => Inputs.assign ⟨ws, lookup, files⟩ spec

namespace Assignment

/-- The value of an option. -/
def value? (a : Assignment) (o : OptionSpec) : Option Value :=
  (a.values.find? fun v => v.1 = o.key).map Prod.snd

/-- The text given for an option. -/
def text? (a : Assignment) (o : OptionSpec) : Option Text :=
  match a.value? o with
  | some (.text t) => some t
  | _ => none

/-- The integer given for an option. -/
def int? (a : Assignment) (o : OptionSpec) : Option Int :=
  match a.value? o with
  | some (.int n) => some n
  | _ => none

/-- The state of a switch; a switch is off unless it is turned on. -/
def isOn (a : Assignment) (o : OptionSpec) : Bool := a.value? o = some (.switch true)

end Assignment

end MaskPolicy.Command
