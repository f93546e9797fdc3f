/-
How a value can fail to have the shape that a schema asks for. A violation names the field by its
path of keys and indexes.
-/

namespace ScriptLint

/-- One step of a path into a value. -/
inductive PathStep where
  | key (name : String)
  | index (i : Nat)
  deriving DecidableEq, Repr

/-- What is wrong with a field. -/
inductive ViolationKind where
  /-- A required field is absent. -/
  | missing
  /-- No text. -/
  | stringType
  /-- No integer. -/
  | intType
  /-- A text that does not write an integer. -/
  | intParsing
  /-- A number with a fractional part. -/
  | intFromFloat
  /-- A number too large to be taken for an integer. -/
  | intParsingSize
  /-- A number without a finite value. -/
  | finiteNumber
  /-- A negative offset. -/
  | greaterThanEqual
  /-- A range that ends before it starts. -/
  | valueError
  /-- No object. -/
  | modelType
  /-- No list. -/
  | listType
  /-- No truth value. -/
  | boolType
  /-- No JSON text at all. -/
  | jsonInvalid
  deriving DecidableEq, Repr

/-- The word for a kind of violation. -/
def ViolationKind.word : ViolationKind → String
  | .missing => "missing"
  | .stringType => "string_type"
  | .intType => "int_type"
  | .intParsing => "int_parsing"
  | .intFromFloat => "int_from_float"
  | .intParsingSize => "int_parsing_size"
  | .finiteNumber => "finite_number"
  | .greaterThanEqual => "greater_than_equal"
  | .valueError => "value_error"
  | .modelType => "model_type"
  | .listType => "list_type"
  | .boolType => "bool_type"
  | .jsonInvalid => "json_invalid"

/-- A field that is not as its schema asks. -/
structure Violation where
  path : List PathStep
  kind : ViolationKind
  deriving DecidableEq, Repr

/-- The violation at a path that starts one step further out. -/
def Violation.under (step : PathStep) (v : Violation) : Violation :=
  { v with path := step :: v.path }

end ScriptLint
