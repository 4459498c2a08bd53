import SqlCompose.Schema.Declared
import SqlCompose.Value.Literal

/-!
# Types of a catalog

The vocabulary of types that tables of a catalog are declared with: by their names, with arguments
and options. Of a type a declared column has the class of its values, which numbers and identifiers
make depend on an option, and what it is called.
-/

namespace SqlCompose.Catalog

/-- A type: its name, and the options that the class of its values depends on. -/
structure ColumnType where
  name : String
  /-- Whether numbers come as decimals; the type says so where this is left open. -/
  asDecimal : Option Bool := none
  /-- Whether identifiers come as such and not as text. -/
  asUuid : Option Bool := none
  /-- What the type is called, with its arguments. -/
  text : String
  deriving DecidableEq, Repr

namespace ColumnType

/-- The classes of values, each with the names of the types that have such values. -/
def classes : List (List TaggedClass × List String) := [
  ([.integer], ["Integer", "SmallInteger", "BigInteger", "INTEGER", "INT", "SMALLINT", "BIGINT",
    "pg.INTEGER", "pg.SMALLINT", "pg.BIGINT", "mysql.INTEGER", "mysql.SMALLINT", "mysql.BIGINT",
    "mysql.MEDIUMINT", "mysql.TINYINT"]),
  ([.text], ["String", "Text", "Unicode", "UnicodeText", "VARCHAR", "CHAR", "CLOB", "TEXT",
    "NVARCHAR", "NCHAR", "Enum", "pg.BIT", "pg.ENUM", "pg.CITEXT", "pg.VARCHAR", "pg.CHAR",
    "pg.TEXT", "mysql.SET", "mysql.ENUM", "mysql.VARCHAR", "mysql.CHAR", "mysql.NVARCHAR",
    "mysql.NCHAR", "mysql.TEXT", "mysql.TINYTEXT", "mysql.MEDIUMTEXT", "mysql.LONGTEXT"]),
  ([.bytes], ["LargeBinary", "BINARY", "VARBINARY", "BLOB", "pg.BYTEA", "mysql.BINARY",
    "mysql.VARBINARY", "mysql.BLOB", "mysql.TINYBLOB", "mysql.MEDIUMBLOB", "mysql.LONGBLOB"]),
  ([.truth, .integer], ["Boolean", "BOOLEAN", "pg.BOOLEAN", "mysql.BOOLEAN", "MatchType"]),
  ([.date], ["Date", "DATE", "pg.DATE", "mysql.DATE"]),
  ([.moment, .date], ["DateTime", "TIMESTAMP", "DATETIME", "pg.TIMESTAMP", "mysql.DATETIME",
    "mysql.TIMESTAMP"]),
  ([.time], ["Time", "TIME", "pg.TIME", "mysql.TIME"]),
  ([.dictionary], ["JSON", "pg.JSON", "mysql.JSON"]),
  ([.list], ["ARRAY", "pg.ARRAY"]),
  -- Spans of time are of a class without a tag.
  ([], ["Interval"])]

/-- The types that are written by another name than their own. -/
def renamings : List (String × String) :=
  [("Interval", "DATETIME"), ("PickleType", "BLOB"), ("NullType", "NULL")]

/-- The types of numbers that come as decimals unless an option says otherwise. -/
def decimals : List String :=
  ["Numeric", "NUMERIC", "DECIMAL", "pg.NUMERIC", "mysql.NUMERIC", "mysql.DECIMAL", "mysql.DOUBLE",
    "mysql.REAL"]

/-- The types of numbers that come as floating point numbers unless an option says otherwise. -/
def floats : List String :=
  ["Float", "Double", "REAL", "FLOAT", "DOUBLE", "DOUBLE_PRECISION", "pg.REAL", "pg.FLOAT",
    "pg.DOUBLE_PRECISION", "mysql.FLOAT"]

/-- The types of identifiers. -/
def uuids : List String := ["Uuid", "UUID", "pg.UUID"]

/-- Where the option for decimals stands among the arguments of a type. -/
def decimalPosition (name : String) : Nat :=
  if name.startsWith "mysql." then 2 else if decimals.contains name then 3 else 1

/-- The name without the name of the database that the type is of. -/
def bareName (name : String) : String :=
  match name.splitOn "." with
  | [_, bare] => bare
  | _ => name

/-- The arguments that types take, each with its default, unless they are of one of the others. -/
def parameters : List (List String × List (String × Value)) := [
  (["String", "Text", "Unicode", "UnicodeText", "VARCHAR", "CHAR", "CLOB", "TEXT", "NVARCHAR",
    "NCHAR"], [("length", .null), ("collation", .null)]),
  (["Numeric", "NUMERIC", "DECIMAL"],
    [("precision", .null), ("scale", .null), ("decimal_return_scale", .null),
      ("asdecimal", .bool true)]),
  (["Float", "Double", "REAL", "FLOAT", "DOUBLE", "DOUBLE_PRECISION"],
    [("precision", .null), ("asdecimal", .bool false), ("decimal_return_scale", .null)]),
  (["DateTime", "Time", "TIMESTAMP", "DATETIME", "TIME"], [("timezone", .bool false)]),
  (["LargeBinary", "BINARY", "VARBINARY", "BLOB"], [("length", .null)]),
  (["Uuid", "UUID"], [("as_uuid", .bool true), ("native_uuid", .bool true)]),
  (["JSON"], [("none_as_null", .bool false)])]

/-- An argument for a parameter, unless it is the default. -/
def namedArgument (parameter : String × Value) (argument : Value) : Option String :=
  if argument.same parameter.2 then none else some (parameter.1 ++ "=" ++ argument.literal)

/-- The type with the given arguments in their places and by their names. -/
def call (name : String) (arguments : List Value) (texts : List String)
    (options : List (String × Value)) : String :=
  let shown :=
    match parameters.find? fun e => e.1.contains name with
    | none => texts
    | some (_, ps) => ps.zipIdx.filterMap fun (p, i) =>
      namedArgument p ((arguments[i]?.or (options.lookup p.1)).getD p.2)
  bareName name ++ "(" ++ Value.commaSeparated shown ++ ")"

/-- The options of a type, which are the entries of a dictionary. -/
def optionsOf : List Value → List (String × Value)
  | [.dict entries] => entries.filterMap fun e =>
    match e.1 with
    | .text name => some (name, e.2)
    | _ => none
  | _ => []

mutual
/-- The type that a value describes, with its arguments: a name alone, or a list of its parts. -/
def textOf : Value → String
  | .text name => bareName name ++ "()"
  | .list (.text name :: .list arguments :: options) =>
    call name arguments (argumentTexts arguments) (optionsOf options)
  | .list [.text name] => bareName name ++ "()"
  | .dict [(_, type)] => textOf type
  | v => v.literal

/-- The arguments of a type, which can be types themselves. -/
def argumentTexts : List Value → List String
  | [] => []
  | v :: rest =>
    (match v with
      | .dict _ => textOf v
      | v => v.literal) :: argumentTexts rest
end

/--
The type that a value describes: a name, or a list of a name, arguments in their places, and options
by their names.
-/
def ofValue (v : Value) : ColumnType :=
  match v with
  | .text name => { name, text := textOf v }
  | .list (.text name :: rest) =>
    let arguments :=
      match rest with
      | .list items :: _ => items
      | _ => []
    let options := optionsOf (rest.drop 1)
    { name
      asDecimal :=
        (arguments[decimalPosition name]?.or (options.lookup "asdecimal")).map Value.truth
      asUuid := (arguments[0]?.or (options.lookup "as_uuid")).map Value.truth
      text := textOf v }
  | _ => { name := "", text := "" }

/-- Whether the type is left open. -/
def isOpen (t : ColumnType) : Bool := t.name == "NullType"

/-- The class of the values. -/
def valueClass (t : ColumnType) : Option ValueClass :=
  if decimals.contains t.name then some ⟨[if t.asDecimal.getD true then .decimal else .float]⟩
  else if floats.contains t.name then some ⟨[if t.asDecimal.getD false then .decimal else .float]⟩
  else if uuids.contains t.name then some ⟨[if t.asUuid.getD true then .uuid else .text]⟩
  else (classes.find? fun e => e.2.contains t.name).map fun e => ⟨e.1⟩

/-- How the type is written: a name in capitals alone, and any other with its arguments. -/
def rendering (t : ColumnType) : String :=
  let bare := bareName t.name
  (renamings.lookup t.name).getD (if bare.toUpper == bare then bare else t.text)

/-- What the type is for a declared column. -/
def declared (t : ColumnType) : DeclaredType := ⟨t.valueClass, t.rendering⟩

end ColumnType

end SqlCompose.Catalog
