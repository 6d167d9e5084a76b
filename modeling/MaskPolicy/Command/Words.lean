import MaskPolicy.Command.Parameter
import MaskPolicy.Text.Similarity

/-!
# The words of a command line

The words of a command line mention options and give arguments. A long name may have its value after
an equals sign, short names may share a word, and a value may be the next word, whatever that looks
like. Two dashes end the options. Where options may not follow arguments, the first argument ends
them too.
-/

namespace MaskPolicy.Command

/-- What is said about an option. -/
inductive Mention where
  | on
  | off
  | given (t : Text)
  deriving DecidableEq, Repr

/-- An option that is mentioned. -/
structure Occurrence where
  option : OptionSpec
  mention : Mention
  deriving DecidableEq, Repr

/-- What is wrong with the words of a command line. -/
inductive WordError where
  /-- No option has the name; some have similar ones. -/
  | unknown (name : Text) (similar : List Text)
  /-- The value is missing. -/
  | needsValue (name : Text)
  /-- The option is a switch. -/
  | takesNoValue (name : Text)
  deriving DecidableEq, Repr

/-- What one word says: the options that it mentions, and one, under some name, whose value is the
next word. -/
structure WordReading where
  occurrences : List Occurrence
  pending : Option (OptionSpec × Text) := none
  deriving DecidableEq, Repr

/-- What all the words say. -/
structure Words where
  occurrences : List Occurrence
  arguments : List Text
  deriving DecidableEq, Repr

/-- A word with an option in front of what it says. -/
def WordReading.cons (o : Occurrence) (r : WordReading) : WordReading :=
  { r with occurrences := o :: r.occurrences }

/-- Words with options in front of what they say. -/
def Words.mentioning (os : List Occurrence) (ws : Words) : Words :=
  { ws with occurrences := os ++ ws.occurrences }

/-- Words with an argument in front of what they say. -/
def Words.giving (argument : Text) (ws : Words) : Words :=
  { ws with arguments := argument :: ws.arguments }

/-- The option with a long name, and what the name says about it unless it takes a value. -/
def findLong? (options : List OptionSpec) (name : Text) : Option (OptionSpec × Option Mention) :=
  options.findSome? fun o =>
    match o.form with
    | .valued _ => if name = o.long then some (o, none) else none
    | .switch off =>
      if name = o.long then some (o, some .on)
      else if some name = off then some (o, some .off)
      else none

/-- A word with a known long name, and perhaps a value in it. -/
def readLong (o : OptionSpec) (name : Text) (value : Option Text) :
    Option Mention → Except WordError WordReading
  | none =>
    match value with
    | some t => .ok ⟨[⟨o, .given t⟩], none⟩
    | none => .ok ⟨[], some (o, name)⟩
  | some m =>
    match value with
    | some _ => .error (.takesNoValue name)
    | none => .ok ⟨[⟨o, m⟩], none⟩

/-- The letters of a word of short names. -/
def readLetters (options : List OptionSpec) : Text → Except WordError WordReading
  | [] => .ok ⟨[], none⟩
  | c :: rest =>
    match options.find? fun o => o.letter = some c with
    | none => .error (.unknown (OptionSpec.shortName c) [])
    | some o =>
      match o.form with
      | .switch _ => (readLetters options rest).map (WordReading.cons ⟨o, .on⟩)
      | .valued _ =>
        match rest with
        | [] => .ok ⟨[], some (o, OptionSpec.shortName c)⟩
        | value => .ok ⟨[⟨o, .given value⟩], none⟩

/-- The name in a word and the value after an equals sign. -/
def splitValue : Text → Text × Option Text
  | [] => ([], none)
  | c :: rest =>
    if c = '=' then ([], some rest)
    else
      let (name, value) := splitValue rest
      (c :: name, value)

/-- A word that mentions options. -/
def readWord (options : List OptionSpec) (word : Text) : Except WordError WordReading :=
  let (name, value) := splitValue word
  match findLong? options name with
  | some (o, m) => readLong o name value m
  | none =>
    match word with
    | '-' :: '-' :: _ =>
      .error (.unknown name (Text.similarTo name (options.flatMap OptionSpec.longNames)))
    | _ => readLetters options word.tail

/-- Does a word mention options? A dash alone is an argument. -/
def mentionsOptions : Text → Bool
  | '-' :: _ :: _ => true
  | _ => false

/-- What the words of a command line say. -/
def readWords (options : List OptionSpec) (mixed : Bool) : List Text → Except WordError Words
  | [] => .ok ⟨[], []⟩
  | word :: rest =>
    if word = "--".toList then .ok ⟨[], rest⟩
    else if mentionsOptions word then
      match readWord options word with
      | .error e => .error e
      | .ok ⟨os, none⟩ => (readWords options mixed rest).map (Words.mentioning os)
      | .ok ⟨os, some (o, name)⟩ =>
        match rest with
        | [] => .error (.needsValue name)
        | value :: rest =>
          (readWords options mixed rest).map (Words.mentioning (os ++ [⟨o, .given value⟩]))
    else if mixed then (readWords options mixed rest).map (Words.giving word)
    else .ok ⟨[], word :: rest⟩

/-- The options that are mentioned, in the order of their first mention. -/
def Words.options (ws : Words) : List OptionSpec :=
  (ws.occurrences.map Occurrence.option).foldl
    (fun seen o => if seen.any fun p => p.key = o.key then seen else seen ++ [o]) []

/-- What is said last about an option. -/
def Words.last? (ws : Words) (o : OptionSpec) : Option Mention :=
  (ws.occurrences.reverse.find? fun x => x.option.key = o.key).map Occurrence.mention

end MaskPolicy.Command
