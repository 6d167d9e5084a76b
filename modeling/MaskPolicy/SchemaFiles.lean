import MaskPolicy.Policy.Record
import MaskPolicy.Settings.Basic

/-!
# Published schemas

The schemas of the records that other programs read and of the settings, each in a file of its own.
-/

namespace MaskPolicy

/-- The published schemas with the names of their files, in the order in which they are written. -/
def schemaFiles : List (Text × Schema) := [
  ("policy_config.json".toList, Policy.info.schema Policy.fields),
  ("validation_result.json".toList, ValidationResult.info.schema ValidationResult.fields),
  ("mask_description.json".toList, MaskDescription.info.schema MaskDescription.fields),
  ("configuration.json".toList, Settings.info.schema Settings.fields)]

/-- The lines that report the files. -/
def schemaReport : Text :=
  schemaFiles.flatMap fun f => "generated ".toList ++ f.1 ++ ['\n']

/-- The schema in a file, if there is such a file. -/
def schemaOf? (file : Text) : Option Json :=
  (schemaFiles.find? fun f => decide (f.1 = file)).map fun f => f.2.toJson

end MaskPolicy
