import SqlCompose.Problem
import SqlCompose.Value.Key
import SqlCompose.Value.Literal

/-!
# Errors

Why a statement cannot be built or run. Each cause is a constructor that carries what the caller
needs to act on it; the wording is in one function per type (`Error.message`).
-/

namespace SqlCompose

/-- A part of a statement that an error can point to. -/
inductive Part where
  | conditions
  | assignments
  | limit
  | offset
  | insertion
  deriving DecidableEq, Repr

/-- The keyword of a part. -/
def Part.keyword : Part → String
  | conditions => "WHERE"
  | assignments => "SET"
  | limit => "LIMIT"
  | offset => "OFFSET"
  | insertion => "INSERT"

/-- What a dialect can be unable to do. -/
inductive Feature where
  /-- An insert that hands the stored row back. -/
  | rowReturn
  /-- A limit inside the sub-query that picks the rows of an update. -/
  | limitInSubquery
  /-- Anything at all, as no dialect is registered under that name. -/
  | anyStatement (registered : List String)
  deriving DecidableEq, Repr

/-- The description of a feature. -/
def Feature.text : Feature → String
  | rowReturn => "INSERT with row return"
  | limitInSubquery => "LIMIT inside an IN sub-query (limited bulk update)"
  | anyStatement registered =>
    "statement writing (registered dialects: " ++ Text.quotedList registered ++ ")"

/-- A statement on one row that needs the row's key. -/
inductive RowOperation where
  | update
  | delete
  deriving DecidableEq, Repr

/-- The name of the operation. -/
def RowOperation.text : RowOperation → String
  | update => "update"
  | delete => "delete"

/-- A part that every dialect needs. -/
inductive DialectPart where
  | name
  | limit
  | placeholder
  | quoting
  deriving DecidableEq, Repr

namespace DialectPart

/-- All of them, in the order of their names. -/
def all : List DialectPart := [name, limit, placeholder, quoting]

/-- What messages call a part. -/
def text : DialectPart → String
  | name => "dialect_name"
  | limit => "max_params"
  | placeholder => "param_placeholder"
  | quoting => "quote_identifier"

end DialectPart

/-- A thing that can lack an attribute. -/
inductive Owner where
  /-- An object of the named type. -/
  | object (typeName : String)
  /-- The named type itself. -/
  | type (name : String)
  deriving DecidableEq, Repr

/-- What messages call it. -/
def Owner.text : Owner → String
  | object typeName => "'" ++ typeName ++ "' object"
  | type name => "type object '" ++ name ++ "'"

/-- Why a value cannot stand in the place of a text, of several values, or of a method. -/
inductive Misfit where
  /-- Bytes in the place of a name. -/
  | bytesForName
  /-- A date, a time or both in the place of a name. -/
  | momentForName
  /-- A value of the named type, which has no members, in the place of several values. -/
  | notIterable (typeName : String)
  /-- A value of the named type, which has no members, in the place of a pair. -/
  | notPair (typeName : String)
  /-- Too few values in the place of a pair. -/
  | tooFew (count : Nat)
  /-- Too many values in the place of a pair. -/
  | tooMany
  /-- A value of the named type in a row of texts, at the position. -/
  | notText (position : Nat) (typeName : String)
  /-- A value of the named type in the place of a text that is searched. -/
  | notSearchable (typeName : String)
  /-- Bytes in the place of a text that is searched. -/
  | bytesSearched
  /-- A value of the named type in the place of a method. -/
  | notCallable (typeName : String)
  /-- A value of the named type in the place of the name of an attribute. -/
  | notAttributeName (typeName : String)
  deriving DecidableEq, Repr

/-- The text of a misfit. -/
def Misfit.message : Misfit → String
  | bytesForName => "a bytes-like object is required, not 'str'"
  | momentForName => "'str' object cannot be interpreted as an integer"
  | notIterable typeName => "'" ++ typeName ++ "' object is not iterable"
  | notPair typeName => "cannot unpack non-iterable " ++ typeName ++ " object"
  | tooFew count => "not enough values to unpack (expected 2, got " ++ toString count ++ ")"
  | tooMany => "too many values to unpack (expected 2)"
  | notText position typeName =>
    "sequence item " ++ toString position ++ ": expected str instance, " ++ typeName ++ " found"
  | notSearchable typeName => "expected string or bytes-like object, got '" ++ typeName ++ "'"
  | bytesSearched => "cannot use a string pattern on a bytes-like object"
  | notCallable typeName => "'" ++ typeName ++ "' object is not callable"
  | notAttributeName typeName => "attribute name must be string, not '" ++ typeName ++ "'"

/-- What can be wrong with the pieces that a statement is built from. -/
inductive Fault where
  /-- A thing that is no clause stands in the place of one. -/
  | notAClause (typeName : String)
  /-- A column of one table is used on another. -/
  | foreignColumn (table column target : String)
  /-- A manual fragment has more or fewer markers than values. -/
  | markerCount (column : String) (markers values : Nat)
  /-- A comparison other than equality is used as an assignment. -/
  | notEquality (operator : String)
  /-- A clause that assigns nothing is used as an assignment. -/
  | notAssignment (clauseKind : String)
  /-- An update assigns nothing. -/
  | nothingAssigned
  /-- A limit or an offset is no natural number. -/
  | notNatural (part : Part) (value : Value)
  /-- An insert stores nothing. -/
  | nothingInserted (table : String)
  /-- A model does not say what its table is. -/
  | noSchema (name : String)
  /-- A thing is neither a declared table nor mapped to one. -/
  | noTable (name : String)

namespace Fault

/-- The part of the statement that is at fault, if it is one. -/
def part? : Fault → Option Part
  | notAClause _ => some .conditions
  | foreignColumn .. => some .conditions
  | markerCount .. => some .conditions
  | notEquality _ => some .assignments
  | notAssignment _ => some .assignments
  | nothingAssigned => some .assignments
  | notNatural part _ => some part
  | nothingInserted _ => some .insertion
  | noSchema _ => none
  | noTable _ => none

/-- The text of a fault. -/
def message : Fault → String
  | notAClause typeName => "Expected a clause, got " ++ typeName ++ "."
  | foreignColumn table column target =>
    "Column '" ++ table ++ "." ++ column ++ "' does not belong to table '" ++ target ++ "'."
  | markerCount column markers values =>
    "Manual clause on '" ++ column ++ "' has " ++ toString markers ++ " '?' marker(s) but " ++
      toString values ++ " value(s)."
  | notEquality operator =>
    "Only '=' clauses can be used as assignments, got '" ++ operator ++ "'."
  | notAssignment clauseKind => clauseKind ++ " cannot be used in a SET list."
  | nothingAssigned => "UPDATE requires at least one SET assignment."
  | notNatural part value =>
    part.keyword ++ " must be a non-negative integer, got " ++ value.literal ++ "."
  | nothingInserted table => "INSERT into '" ++ table ++ "' has no column values."
  | noSchema name => "'" ++ name ++ "' does not provide a SchemaDescriptor via __schema__."
  | noTable name => "'" ++ name ++ "' is not a SQLAlchemy Table or mapped class."

end Fault

/-- Why a variable of the environment cannot be set. -/
inductive VariableFault where
  /-- A value of the named type in the place of a text. -/
  | notText (typeName : String)
  /-- The name or the text has the character that ends texts. -/
  | endInside
  /-- The name has the sign that stands between names and texts. -/
  | signInName
  /-- There is no name. -/
  | noName
  deriving DecidableEq, Repr

/-- The text of a fault in a variable of the environment. -/
def VariableFault.message : VariableFault → String
  | notText typeName => "str expected, not " ++ typeName
  | endInside => "embedded null byte"
  | signInName => "illegal environment variable name"
  | noName => "[Errno 22] Invalid argument"

/-- What can be wrong with the use of a log. -/
inductive LogFault where
  /-- The name is that of the pattern of the log's lines, and of no level. -/
  | patternAsLevel
  /-- The name is that of the styles of such patterns, and of no level. -/
  | stylesAsLevel
  /-- The name of a log is no text. -/
  | nameNotText
  /-- A method is given one of its own arguments once more. -/
  | repeatedArgument (method argument : String)
  deriving DecidableEq, Repr

/-- The text of a fault in the use of a log. -/
def LogFault.message : LogFault → String
  | patternAsLevel => "Unknown level: '%(levelname)s:%(name)s:%(message)s'"
  | stylesAsLevel =>
    "Level not an integer or a valid string: \x7b'%': (<class 'logging.PercentStyle'>, " ++
      "'%(levelname)s:%(name)s:%(message)s'), '\x7b': (<class 'logging.StrFormatStyle'>, " ++
      "'\x7blevelname\x7d:\x7bname\x7d:\x7bmessage\x7d'), '$': " ++
      "(<class 'logging.StringTemplateStyle'>, " ++
      "'$\x7blevelname\x7d:$\x7bname\x7d:$\x7bmessage\x7d')\x7d"
  | nameNotText => "A logger name must be a string"
  | repeatedArgument method argument =>
    "BoundLogger." ++ method ++ "() got multiple values for argument '" ++ argument ++ "'"

/-- Why the first cell of a result is no count. -/
inductive CellFault where
  /-- There is a first row of the named kind, but it has no cell. -/
  | noCell (kind : Option String)
  /-- The first row is a dictionary without a key zero. -/
  | noZeroKey
  /-- The first row is of the named type, which has no cells. -/
  | noCells (typeName : String)
  /-- A text or bytes that are no integer. -/
  | notInteger (value : Value)
  /-- A text or bytes with more digits than an integer is read from. -/
  | tooManyDigits (count limit : Nat)
  /-- No number of the named type. -/
  | notANumber (typeName : String)
  /-- NaN, as a floating point number or as a decimal. -/
  | nan (isFloat : Bool)
  /-- An infinity, as a floating point number or as a decimal. -/
  | infinity (isFloat : Bool)

/-- How much of a literal is shown of a cell that is no integer. -/
def CellFault.shownLength : Nat := 200

/-- The text of a fault in a cell. -/
def CellFault.message : CellFault → String
  | noCell kind => (kind.map fun k => k ++ " ").getD "" ++ "index out of range"
  | noZeroKey => "0"
  | noCells typeName => "'" ++ typeName ++ "' object is not subscriptable"
  | notInteger value =>
    "invalid literal for int() with base 10: " ++
      String.ofList (value.literal.toList.take shownLength)
  | tooManyDigits count limit =>
    "Exceeds the limit (" ++ toString limit ++ " digits) for integer string conversion: " ++
      "value has " ++ toString count ++
      " digits; use sys.set_int_max_str_digits() to increase the limit"
  | notANumber typeName =>
    "int() argument must be a string, a bytes-like object or a real number, not '" ++ typeName ++
      "'"
  | nan isFloat =>
    if isFloat then "cannot convert float NaN to integer" else "cannot convert NaN to integer"
  | infinity isFloat =>
    if isFloat then "cannot convert float infinity to integer"
    else "cannot convert Infinity to integer"

/-- Why what stands under a tag is no value of the tag's kind. -/
inductive WireFault where
  | notFloat (value : Value)
  | notDecimal
  | notMoment (value : Value)
  | notUuid

/-- The text of a fault in a value under a tag. -/
def WireFault.message : WireFault → String
  | notFloat value => "could not convert string to float: " ++ value.literal
  | notDecimal => "[<class 'decimal.ConversionSyntax'>]"
  | notMoment value => "Invalid isoformat string: " ++ value.literal
  | notUuid => "badly formed hexadecimal UUID string"

/-- Why something was refused. -/
inductive Error where
  /-- A row cannot be told apart, as its table has no primary key. -/
  | noPrimaryKey (table : String) (operation : Option RowOperation)
  /-- No column of the table has the name. -/
  | missingColumn (column : Value) (table : String) (available : List String)
  /-- The dialect lacks a feature. -/
  | unsupported (dialect : String) (feature : Feature)
  /-- The statement binds more values than the dialect takes. -/
  | tooManyParameters (count : Nat) (limit : Int) (dialect : String)
  /-- A value does not fit its column. -/
  | valueMismatch (column expected : String) (value : Value)
  /-- The pieces of a statement do not fit together. -/
  | compilation (fault : Fault)
  /-- A thing has no such attribute or method. -/
  | missingAttribute (owner : Owner) (name : String)
  /-- The name cannot be looked up as an attribute. -/
  | hiddenAttribute (name : String)
  /-- No comparison is written like this. -/
  | unknownOperator (symbol : Value)
  /-- A value stands in a place that is not for its type. -/
  | misfit (m : Misfit)
  /-- Parts that every dialect needs were not set. -/
  | incompleteDialect (parts : List DialectPart)
  /-- The dialect does not say what its placeholders look like. -/
  | noMarkStyle
  /-- The table has no column to count by. -/
  | noColumns
  /-- A description is wrong. -/
  | invalid (problems : List Problem)
  /-- A variable of the environment cannot be set. -/
  | environment (fault : VariableFault)
  /-- A log is used wrongly. -/
  | log (fault : LogFault)
  /-- The first cell of a result is no count. -/
  | cell (fault : CellFault)
  /-- A value was sent in a form that is none of its kind. -/
  | wire (fault : WireFault)
  /-- A value cannot be a key of a dictionary. -/
  | key (fault : KeyFault)
  /-- Two values cannot be compared. -/
  | incomparable
  /-- A query is part of its own condition. -/
  | endlessNesting
  /-- The reference leads to no builder. -/
  | unknownBuilder
  /-- The table library that a declared table comes from is not installed. -/
  | tableLibraryMissing
  /-- The executor failed, with the text it gave. -/
  | executor (text : String)

namespace Error

/-- The text of an error. -/
def message : Error → String
  | noPrimaryKey table operation =>
    "Table '" ++ table ++ "' has no primary key" ++
      (operation.map fun o => " for " ++ o.text).getD "" ++ "."
  | missingColumn column table _ =>
    "Column '" ++ column.display ++ "' does not exist" ++
      (if table.isEmpty then "" else " on table '" ++ table ++ "'") ++ "."
  | unsupported dialect feature =>
    "Dialect '" ++ dialect ++ "' does not support " ++ feature.text ++ "."
  | tooManyParameters count limit dialect =>
    "Statement binds " ++ toString count ++ " parameters; dialect '" ++ dialect ++
      "' allows at most " ++ toString limit ++ "."
  | valueMismatch column expected value =>
    "Value " ++ value.literal ++ " is not valid for column '" ++ column ++ "' of type '" ++
      expected ++ "'."
  | compilation fault => fault.message
  | missingAttribute owner name => owner.text ++ " has no attribute '" ++ name ++ "'"
  | hiddenAttribute name => name
  | unknownOperator symbol => symbol.literal ++ " is not a valid ClauseOp"
  | misfit m => m.message
  | incompleteDialect parts =>
    "Can't instantiate abstract class CustomWriter with abstract method" ++
      (if parts.length = 1 then " " else "s ") ++
      Value.commaSeparated (parts.map DialectPart.text)
  | noMarkStyle => "'CustomWriter' object has no attribute 'placeholder_pattern'"
  | noColumns => "tuple index out of range"
  | invalid problems => toString problems.length ++ " validation errors"
  | environment fault => fault.message
  | log fault => fault.message
  | cell fault => fault.message
  | wire fault => fault.message
  | key fault => fault.message
  | incomparable => "[<class 'decimal.InvalidOperation'>]"
  | endlessNesting => "maximum recursion depth exceeded"
  | unknownBuilder => "unknown builder"
  | tableLibraryMissing =>
    "SQLAlchemy is required for schema_from_sqlalchemy(). " ++
      "Install it with: pip install \"brickorm[sqlalchemy]\""
  | executor text => text

/-- What an error carries for a program that handles it. -/
def attributes : Error → List (String × Value)
  | noPrimaryKey table operation =>
    [("table", .text table),
      ("operation", (operation.map fun o => .text o.text).getD .null)]
  | missingColumn column table available =>
    [("column", column), ("table", .text table),
      ("available", .list (available.map .text))]
  | unsupported dialect feature =>
    [("dialect", .text dialect), ("operation", .text feature.text)]
  | tooManyParameters count limit dialect =>
    [("count", .int count), ("max_params", .int limit), ("dialect", .text dialect)]
  | valueMismatch column expected value =>
    [("column", .text column), ("expected", .text expected), ("value", value)]
  | compilation fault =>
    [("clause", (fault.part?.map fun p => .text p.keyword).getD .null)]
  | _ => []

/-- The description of an error for a caller that splits its input into smaller statements. -/
def response? (e : Error) : Option Value :=
  match e with
  | tooManyParameters .. =>
    some (.dict [
      (.text "error", .text "PARAM_LIMIT_EXCEEDED"),
      (.text "message", .text e.message),
      (.text "details", .dict (e.attributes.map fun a => (.text a.1, a.2)))])
  | _ => none

end Error

end SqlCompose
