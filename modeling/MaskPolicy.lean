import MaskPolicy.Json.Reader
import MaskPolicy.Main
import MaskPolicy.SchemaFiles
import MaskPolicy.Proofs.Draw.Shuffle
import MaskPolicy.Proofs.Draw.Session
import MaskPolicy.Proofs.Password.Composition
import MaskPolicy.Proofs.Draw.Oracle
import MaskPolicy.Proofs.Password.Range
import MaskPolicy.Proofs.Password.RoundTrip
import MaskPolicy.Proofs.Mask.Parsing
import MaskPolicy.Proofs.Password.Observation
import MaskPolicy.Proofs.Mask.Canonical
import MaskPolicy.Proofs.Mask.Encoding
import MaskPolicy.Proofs.Password.Feasibility
import MaskPolicy.Proofs.Policy.Disclosure
import MaskPolicy.Proofs.Fault.Message
import MaskPolicy.Proofs.Mask.Refusal
import MaskPolicy.Proofs.Json.RoundTrip
import MaskPolicy.Proofs.Command.Options
import MaskPolicy.Proofs.Command.Generation
import MaskPolicy.Proofs.Command.Verdict
import MaskPolicy.Proofs.Command.Secrecy
import MaskPolicy.Proofs.Command.Independence
import MaskPolicy.Proofs.Draw.Uniform
import MaskPolicy.Proofs.Policy.Lacking
import MaskPolicy.Proofs.Settings.Precedence
import MaskPolicy.Proofs.Settings.Document
import MaskPolicy.Proofs.Password.Findings
import MaskPolicy.Proofs.Password.Obstacle
import MaskPolicy.Proofs.Password.Failure
import MaskPolicy.Proofs.Mask.Grammar
import MaskPolicy.Proofs.Policy.Agreement
import MaskPolicy.Proofs.Password.Rearrangement
import MaskPolicy.Proofs.Mask.Relaxation
import MaskPolicy.Proofs.Number.AnyScript
import MaskPolicy.Proofs.Policy.Choice
import MaskPolicy.Proofs.Command.Assignment
import MaskPolicy.Proofs.Command.Encoding
import MaskPolicy.Proofs.Template.Filling
import MaskPolicy.Proofs.Fault.Wording
import MaskPolicy.Proofs.Policy.Rotation
import MaskPolicy.Proofs.Draw.Sampling
import MaskPolicy.Proofs.Report.Translation
