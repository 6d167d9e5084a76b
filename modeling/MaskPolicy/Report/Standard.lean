import MaskPolicy.Report.Detail

/-!
# The standard report

The tables that give issues their usual wording. Every template of the tables names only values that
its issues have, so that the standard report exists for all issues whose bounds can be written.
-/

namespace MaskPolicy

/-- The codes that replace other codes. -/
def standardCodes : Table := [
  ("model_type".toList, "mapping_type".toList),
  ("dict_type".toList, "mapping_type".toList),
  ("extra_forbidden".toList, "extra_field".toList)]

/-- The messages for some codes. -/
def standardMessages : Table := [
  ("mapping_type".toList, "Input must be a valid mapping".toList),
  ("extra_field".toList, "Extra fields not allowed".toList),
  ("missing".toList, "Field is required".toList),
  ("string_too_short".toList,
    "Value must have at least ".toList ++ '{' :: "min_length".toList ++ '}' :: " character".toList),
  ("greater_than_equal".toList,
    "Value must be greater than or equal to ".toList ++ '{' :: "ge".toList ++ ['}'])]

variable {attributes : Template.Attributes}

/-- The template for a value below its minimum, filled. -/
theorem format_belowMinimum {n : Int} (hn : Decimal.Writable n) :
    Template.format
      ("Value must be greater than or equal to ".toList ++ '{' :: "ge".toList ++ ['}'])
      [("ge".toList, .int n)] attributes =
    .ok ("Value must be greater than or equal to ".toList ++ Decimal.ofInt n) := by
  have hp : Template.ofText
      ("Value must be greater than or equal to ".toList ++ '{' :: "ge".toList ++ ['}']) =
      [.literal "Value must be greater than or equal to ".toList, .field ⟨"ge".toList, none, []⟩,
        .literal []] := by decide +kernel
  have hl : Template.lookup attributes [("ge".toList, .int n)] "ge".toList =
      .ok (.value (.int n)) := rfl
  rw [Template.format, hp]
  simp only [Template.fill, hl]
  simp [Template.fill.expand, Template.convert, Template.present, Template.Target.plain,
    Template.written, hn, Json.plain,
    Json.literal, Except.map]

/-- The template for a text that is too short, filled. -/
theorem format_tooShort {n : Nat} (hn : Decimal.Writable n) :
    Template.format
      ("Value must have at least ".toList ++ '{' :: "min_length".toList ++
        '}' :: " character".toList)
      [("min_length".toList, .int n)] attributes =
    .ok ("Value must have at least ".toList ++ Decimal.ofNat n ++ " character".toList) := by
  have hp : Template.ofText
      ("Value must have at least ".toList ++ '{' :: "min_length".toList ++
        '}' :: " character".toList) =
      [.literal "Value must have at least ".toList, .field ⟨"min_length".toList, none, []⟩,
        .literal " character".toList] := by decide +kernel
  have hl : Template.lookup attributes [("min_length".toList, .int n)] "min_length".toList =
      .ok (.value (.int n)) := rfl
  rw [Template.format, hp]
  simp only [Template.fill, hl]
  simp [Template.fill.expand, Template.convert, Template.present, Template.Target.plain,
    Template.written, hn, Json.plain,
    Json.literal, Except.map, Decimal.ofInt]

/-- The bounds that an issue is about can be written. -/
def IssueKind.Writable : IssueKind → Prop
  | belowMinimum n => Decimal.Writable n
  | aboveMaximum n => Decimal.Writable n
  | tooShort n => Decimal.Writable n
  | _ => True

/-- The standard wording of a kind of issue. -/
def IssueKind.standardMessage : IssueKind → Text
  | missing => "Field is required".toList
  | extraForbidden => "Extra fields not allowed".toList
  | notRecord _ => "Input must be a valid mapping".toList
  | tooShort n => "Value must have at least ".toList ++ Decimal.ofNat n ++ " character".toList
  | belowMinimum n => "Value must be greater than or equal to ".toList ++ Decimal.ofInt n
  | kind => kind.message

/-- The standard code of a kind of issue. -/
def IssueKind.standardCode : IssueKind → Text
  | extraForbidden => "extra_field".toList
  | notRecord _ => "mapping_type".toList
  | kind => kind.code

/-- An issue in the standard wording. -/
def Issue.standard (i : Issue) : Detail :=
  ⟨i.kind.standardCode, i.location, i.kind.standardMessage, none⟩

/-- The standard tables give an issue its standard wording. -/
theorem Issue.translate_standard {i : Issue} (h : i.kind.Writable) :
    i.detail.translate attributes standardCodes standardMessages = .ok i.standard := by
  obtain ⟨location, kind⟩ := i
  cases kind
  case notRecord name =>
    show (Template.format "Input must be a valid mapping".toList _ attributes).map _ = _
    rw [Template.format_of_no_braces rfl]
    rfl
  case belowMinimum n =>
    show (Template.format _ [("ge".toList, .int n)] attributes).map _ = _
    rw [format_belowMinimum h]
    rfl
  case tooShort n =>
    show (Template.format _ [("min_length".toList, .int n)] attributes).map _ = _
    rw [format_tooShort h]
    rfl
  all_goals rfl

/-- The details of issues in the standard wording. -/
def standardDetails (issues : List Issue) : List Detail := issues.map Issue.standard

/-- The standard tables translate issues whose bounds can be written. -/
theorem translateAll_standard {issues : List Issue} (h : ∀ i ∈ issues, i.kind.Writable) :
    Detail.translateAll attributes standardCodes standardMessages (issues.map Issue.detail) =
      .ok (standardDetails issues) := by
  induction issues with
  | nil => rfl
  | cons i rest ih =>
    obtain ⟨hi, hrest⟩ := List.forall_mem_cons.mp h
    rw [List.map_cons, Detail.translateAll, Issue.translate_standard hi, ih hrest]
    rfl

/-- The standard report on issues. -/
def standardReport (issues : List Issue) : Text := Detail.report (standardDetails issues)

end MaskPolicy
