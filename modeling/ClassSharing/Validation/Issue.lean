import ClassSharing.Text.Quoted

/-!
# Issues

What a check finds wrong with a loose value: where it is, what kind of fault it is, and the
wording of the fault. A failed check lists its issues in the order in which they are found.
-/

namespace ClassSharing

/-- A step from a value to a part of it. -/
inductive Step where
  | field (name : String)
  | index (n : Int)
  deriving DecidableEq, Repr

/-- The text of a step. -/
def Step.text : Step → String
  | field name => name
  | index n => toString n

/-- The kinds of issues. -/
inductive IssueKind where
  | boolParsing
  | boolType
  | dictType
  | choice (allowed : List String)
  | extraField
  | infiniteNumber
  | frozen
  | negative
  | fraction
  | intParsing
  | intSize
  | intType
  | keyType
  | listType
  | missing
  | modelType (model : String)
  | pathType
  | pattern (text : String)
  | emptyText
  | textEncoding
  | textType
  | emptyList
  /-- A rule that concerns several fields. -/
  | rule (text : String)
  deriving DecidableEq, Repr

namespace IssueKind

/-- The code of a kind. -/
def code : IssueKind → String
  | boolParsing => "bool_parsing"
  | boolType => "bool_type"
  | dictType => "dict_type"
  | choice _ => "enum"
  | extraField => "extra_forbidden"
  | infiniteNumber => "finite_number"
  | frozen => "frozen_instance"
  | negative => "greater_than_equal"
  | fraction => "int_from_float"
  | intParsing => "int_parsing"
  | intSize => "int_parsing_size"
  | intType => "int_type"
  | keyType => "invalid_key"
  | listType => "list_type"
  | missing => "missing"
  | modelType _ => "model_type"
  | pathType => "path_type"
  | pattern _ => "string_pattern_mismatch"
  | emptyText => "string_too_short"
  | textEncoding => "string_unicode"
  | textType => "string_type"
  | emptyList => "too_short"
  | rule _ => "value_error"

/-- The wording of a kind. -/
def message : IssueKind → String
  | boolParsing => "Input should be a valid boolean, unable to interpret input"
  | boolType => "Input should be a valid boolean"
  | dictType => "Input should be a valid dictionary"
  | choice allowed => "Input should be " ++ " or ".intercalate (allowed.map Text.quoted)
  | extraField => "Extra inputs are not permitted"
  | infiniteNumber => "Input should be a finite number"
  | frozen => "Instance is frozen"
  | negative => "Input should be greater than or equal to 0"
  | fraction => "Input should be a valid integer, got a number with a fractional part"
  | intParsing => "Input should be a valid integer, unable to parse string as an integer"
  | intSize => "Unable to parse input string as an integer, exceeded maximum size"
  | intType => "Input should be a valid integer"
  | keyType => "Keys should be strings"
  | listType => "Input should be a valid list"
  | missing => "Field required"
  | modelType model => "Input should be a valid dictionary or instance of " ++ model
  | pathType => "Input is not a valid path for <class 'pathlib.Path'>"
  | pattern text => "String should match pattern '" ++ text ++ "'"
  | emptyText => "String should have at least 1 character"
  | textEncoding =>
    "Input should be a valid string, unable to parse raw data as a unicode string"
  | textType => "Input should be a valid string"
  | emptyList => "List should have at least 1 item after validation, not 0"
  | rule text => "Value error, " ++ text

end IssueKind

/-- An issue: the steps to the faulty value, and the kind of its fault. -/
structure Issue where
  place : List Step
  kind : IssueKind
  deriving DecidableEq, Repr

/-- One line of a list of issues. -/
def Issue.line (i : Issue) : String :=
  "  - " ++ ".".intercalate (i.place.map Step.text) ++ ": " ++ i.kind.message

/-- A failed check: the name of the model and the issues. -/
structure ValidationError where
  title : String
  issues : List Issue
  deriving DecidableEq, Repr

/-- The list of issues under its heading. -/
def ValidationError.summary (e : ValidationError) : String :=
  "\n".intercalate ("Validation failed:" :: e.issues.map Issue.line)

/-- The error of setting a field of a value that has been checked. Such values never change. -/
def ValidationError.assigned (title field : String) : ValidationError :=
  ⟨title, [⟨[.field field], .frozen⟩]⟩

end ClassSharing
