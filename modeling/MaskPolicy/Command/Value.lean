import MaskPolicy.Command.Parameter
import MaskPolicy.Number.AnyScript
import MaskPolicy.Text.Quoted

/-!
# Values of options

The text given for an option is read as its kind asks. Integers may be spelled in any script,
switches by the usual words, and a file has to be there.
-/

namespace MaskPolicy.Command

/-- What a name stands for in the file system. -/
inductive FileState where
  | missing
  | directory
  | locked
  | file (bytes : List UInt8)
  deriving DecidableEq, Repr

/-- The value of a parameter. -/
inductive Value where
  | switch (on : Bool)
  | text (t : Text)
  | int (n : Int)
  deriving DecidableEq, Repr

/-- Why a text is no value of an option. -/
inductive ValueError where
  | notInteger (t : Text)
  | notIntegerRange (t : Text)
  | outOfRange (n : Int) (low : Int) (high : Option Int)
  | notSwitch (t : Text)
  | noFile (name : Text)
  | directory (name : Text)
  | locked (name : Text)
  deriving DecidableEq, Repr

/-- The words for a switch that is on. -/
def onWords : List Text := ["1", "on", "t", "true", "y", "yes"].map String.toList

/-- The words for a switch that is off; no word at all is one of them. -/
def offWords : List Text := ["", "0", "f", "false", "n", "no", "off"].map String.toList

/-- Every word for a switch, as a message lists them. -/
def switchWords : List Text :=
  ["", "0", "1", "f", "false", "n", "no", "off", "on", "t", "true", "y", "yes"].map String.toList

/-- The wording of an error. -/
def ValueError.message : ValueError → Text
  | .notInteger t => t.quoted ++ " is not a valid integer.".toList
  | .notIntegerRange t => t.quoted ++ " is not a valid integer range.".toList
  | .outOfRange n low high =>
    Decimal.ofInt n ++ " is not in the range ".toList ++ rangeText low high ++ ['.']
  | .notSwitch t =>
    t.quoted ++ " is not a valid boolean. Recognized values: ".toList ++
      Text.joinWith ", ".toList switchWords
  | .noFile name => "File ".toList ++ name.quoted ++ " does not exist.".toList
  | .directory name => "File ".toList ++ name.quoted ++ " is a directory.".toList
  | .locked name => "File ".toList ++ name.quoted ++ " is not readable.".toList

/-- Is a number between two bounds? -/
def inRange (low : Int) (high : Option Int) (n : Int) : Bool := low ≤ n && high.all (n ≤ ·)

/-- Read a text as a kind of value. -/
def ValueKind.read (files : Text → FileState) (t : Text) : ValueKind → Except ValueError Value
  | .text => .ok (.text t)
  | .integer =>
    match Decimal.readAnyScript? t with
    | some n => .ok (.int n)
    | none => .error (.notInteger t)
  | .range low high =>
    match Decimal.readAnyScript? t with
    | some n => if inRange low high n then .ok (.int n) else .error (.outOfRange n low high)
    | none => .error (.notIntegerRange t)
  | .file =>
    match files t with
    | .missing => .error (.noFile t)
    | .directory => .error (.directory t)
    | .locked => .error (.locked t)
    | .file _ => .ok (.text t)

/-- Read a text as the state of a switch. -/
def readSwitch (t : Text) : Except ValueError Value :=
  let word := Text.lower (Text.trim Text.isSpacing t)
  if onWords.contains word then .ok (.switch true)
  else if offWords.contains word then .ok (.switch false)
  else .error (.notSwitch t)

/-- Read a text as a value of an option. -/
def OptionSpec.read (files : Text → FileState) (o : OptionSpec) (t : Text) :
    Except ValueError Value :=
  match o.form with
  | .valued kind => kind.read files t
  | .switch _ => readSwitch t

/-- A number that is read for a range is in the range. -/
theorem ValueKind.inRange_of_read {files : Text → FileState} {t : Text} {low : Int}
    {high : Option Int} {n : Int} (h : (ValueKind.range low high).read files t = .ok (.int n)) :
    inRange low high n = true := by
  rw [ValueKind.read.eq_3] at h
  split at h
  · split at h
    · next hr =>
      cases h
      exact hr
    · exact nomatch h
  · exact nomatch h

end MaskPolicy.Command
