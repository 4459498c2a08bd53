/-!
# Problems of a description

A description of a table, or the settings in the environment, can be wrong in several places at
once. A problem says where it lies, as a path of field names and positions, and what is wrong there.
Problems are collected in the order of the fields.
-/

namespace SqlCompose

/-- A step on the way to the place of a problem: a name, or a position or another number. -/
inductive PathStep where
  | field (name : String)
  | index (i : Int)
  deriving DecidableEq, Repr

/-- What can be wrong at a place. -/
inductive ProblemKind where
  /-- A field that has to be there is not. -/
  | missing
  /-- A field that is not known is there. -/
  | extra
  /-- The name of a field is no text. -/
  | keyNotText
  | notText
  | notUtf8
  | notTuple
  | notColumn
  /-- The value is of a kind that has no truth values. -/
  | notTruthKind
  /-- The value could be a truth value, but is none of them. -/
  | notTruth
  /-- The value is none of the four dialects that come with the library. -/
  | notBuiltInDialect
  /-- Primary keys that no column of the table has as its name. -/
  | undeclaredKeys (names : String) (table : String)
  deriving DecidableEq, Repr

/-- A problem and its place. -/
structure Problem where
  path : List PathStep
  kind : ProblemKind
  deriving DecidableEq, Repr

namespace ProblemKind

/-- The short name of the kind. -/
def code : ProblemKind → String
  | missing => "missing"
  | extra => "extra_forbidden"
  | keyNotText => "invalid_key"
  | notText => "string_type"
  | notUtf8 => "string_unicode"
  | notTuple => "tuple_type"
  | notColumn => "model_type"
  | notTruthKind => "bool_type"
  | notTruth => "bool_parsing"
  | notBuiltInDialect => "literal_error"
  | undeclaredKeys .. => "value_error"

/-- The text for a reader. -/
def message : ProblemKind → String
  | missing => "Field required"
  | extra => "Extra inputs are not permitted"
  | keyNotText => "Keys should be strings"
  | notText => "Input should be a valid string"
  | notUtf8 => "Input should be a valid string, unable to parse raw data as a unicode string"
  | notTuple => "Input should be a valid tuple"
  | notColumn => "Input should be a valid dictionary or instance of Column"
  | notTruthKind => "Input should be a valid boolean"
  | notTruth => "Input should be a valid boolean, unable to interpret input"
  | notBuiltInDialect => "Input should be 'postgres', 'mysql', 'mssql' or 'sqlite'"
  | undeclaredKeys names table =>
    "Value error, Primary key column(s) " ++ names ++ " are not declared on '" ++ table ++ "'."

end ProblemKind

/-- The problem at a place one step further in. -/
def Problem.under (step : PathStep) (p : Problem) : Problem :=
  { p with path := step :: p.path }

end SqlCompose
