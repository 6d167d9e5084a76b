import MaskPolicy.Command.Help
import MaskPolicy.Command.Trace
import MaskPolicy.Command.Usage
import MaskPolicy.Draw.Generate
import MaskPolicy.Settings.Config

/-!
# Outcomes of commands

A run of a command writes an output and a trace, draws below some bounds, and ends: as it should,
with a failure that is reported, or in a crash. The ending decides the exit status, and a rejected
password has a status of its own.
-/

namespace MaskPolicy.Command

/-- A failure that is reported. -/
inductive Failure where
  /-- The program was called without a word; its help page is shown. -/
  | uncalled (page : Text)
  /-- A command, called by a path, was called in a wrong way. -/
  | usage (spec : CommandSpec) (path : Text) (e : UsageError)
  /-- There was no password to read. -/
  | aborted
  | configuration (file : Text) (e : ConfigError)
  | unusable (e : MaskError)
  | generation (e : GenerationError)
  /-- A password breaks a number of rules. -/
  | rejected (violations : Nat)
  deriving Repr

/-- An end without a report. -/
inductive Crash where
  | configuration (e : ConfigCrash)
  /-- The command needs settings, and there is no program to give them. -/
  | noSettings
  /-- The record of a policy cannot be made. -/
  | policy (issues : List Issue)
  deriving Repr

/-- How a run ends. -/
inductive Ending where
  | done
  | failed (f : Failure)
  | crashed (c : Crash)
  deriving Repr

/-- What a run does. -/
structure Outcome where
  output : Text := []
  trace : List Event := []
  /-- The bounds of the draws, in order. -/
  bounds : List Nat := []
  ending : Ending := .done
  deriving Repr

namespace Failure

/-- The exit status. -/
def status : Failure → Nat
  | uncalled _ => 2
  | usage _ _ _ => 2
  | configuration _ e => e.exitCode
  | rejected _ => 65
  | _ => 1

/-- A line that reports an error. -/
def errorLine (message : Text) : Text := "Error: ".toList ++ message ++ ['\n']

/-- The usage of a command and a hint at its help page. -/
def hint (spec : CommandSpec) (path : Text) : Text :=
  spec.usage path ++ "Try '".toList ++ path ++ " --help' for help.\n\n".toList

/-- The report. -/
def report : Failure → Text
  | uncalled page => page
  | usage spec path e => (if e.isBrief then [] else hint spec path) ++ errorLine e.message
  | aborted => "Aborted!\n".toList
  | configuration file e => errorLine (e.message file)
  | unusable e => errorLine e.message
  | generation e => errorLine e.message
  | rejected violations =>
    errorLine <|
      "Password rejected: ".toList ++ Decimal.ofNat violations ++ " rule(s) violated".toList

end Failure

namespace Ending

/-- The exit status. -/
def status : Ending → Nat
  | done => 0
  | failed f => f.status
  | crashed _ => 1

/-- The report. -/
def report : Ending → Text
  | failed f => f.report
  | _ => []

end Ending

namespace Outcome

/-- The exit status. -/
def status (o : Outcome) : Nat := o.ending.status

/-- What is written beside the output: the trace, then the report. -/
def errorOutput (o : Outcome) : Text := o.trace.flatMap Event.line ++ o.ending.report

/-- The outcome after something has been shown. -/
def after (shown : Text) (o : Outcome) : Outcome := { o with output := shown ++ o.output }

/-- An outcome that goes on with another one. -/
def followedBy (o next : Outcome) : Outcome where
  output := o.output ++ next.output
  trace := o.trace ++ next.trace
  bounds := o.bounds ++ next.bounds
  ending := next.ending

/-- The outcome without its trace. -/
def untraced (o : Outcome) : Outcome := { o with trace := [] }

/-- An ending with nothing before it. -/
def ofEnding (e : Ending) : Outcome := { ending := e }

end Outcome

end MaskPolicy.Command
