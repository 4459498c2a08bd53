import SqlCompose.Clause

/-!
# Field handles

A handle stands for a column of a table and makes clauses on it. What it offers depends on the kind
of the column: every handle compares for equality, assigns, and takes manual fragments; a handle of
numbers, dates and times also compares by order; a handle of text also compares with patterns
(`HandleKind.offers`). Values are checked against the column's type when the clause is made.
-/

namespace SqlCompose

/-- The kinds of handles. -/
inductive HandleKind where
  | basic
  | numeric
  | text
  deriving DecidableEq, Repr

namespace HandleKind

/-- The name of the kind of handle. -/
def name : HandleKind → String
  | basic => "BasicField"
  | numeric => "NumericField"
  | text => "TextField"

/-- The kind of handle for a kind of values. -/
def ofKind : Kind → HandleKind
  | .int => numeric
  | .float => numeric
  | .decimal => numeric
  | .date => numeric
  | .datetime => numeric
  | .time => numeric
  | .text => text
  | .bool => basic
  | .bytes => basic
  | .uuid => basic
  | .any => basic

/-- Whether a kind of handle offers a comparison. -/
def offers : HandleKind → Operator → Bool
  | _, .eq => true
  | _, .ne => true
  | numeric, .gt => true
  | numeric, .gte => true
  | numeric, .lt => true
  | numeric, .lte => true
  | text, .like => true
  | text, .ilike => true
  | text, .notLike => true
  | text, .notIlike => true
  | _, _ => false

end HandleKind

/-- What a handle can be asked to make. -/
inductive Method where
  | compare (op : Operator)
  | manual
  | assign
  | assignNull
  deriving DecidableEq, Repr

/-- The names of the methods. -/
def Method.names : List (String × Method) := [
  ("equal", .compare .eq), ("not_equal", .compare .ne),
  ("gt", .compare .gt), ("gte", .compare .gte), ("lt", .compare .lt), ("lte", .compare .lte),
  ("like", .compare .like), ("not_like", .compare .notLike),
  ("ilike", .compare .ilike), ("not_ilike", .compare .notIlike),
  ("manual", .manual), ("assign", .assign), ("assign_null", .assignNull)]

/-- A handle for a column; the table is recorded on every clause made. -/
structure Handle where
  column : Column
  table : Option String

namespace Handle

variable {ρ : Type}

/-- The kind of the handle. -/
def kind (h : Handle) : HandleKind := HandleKind.ofKind h.column.kind

/-- The text of the handle. -/
def text (h : Handle) : String := h.kind.name ++ "(" ++ Text.quoted h.column.name ++ ")"

/-- What a handle has that is no method, with the types. -/
def properties : List (String × String) := [
  ("column", "Column"), ("name", "str"), ("table", "str"), ("__module__", "str"),
  ("__doc__", "str"), ("__dict__", "dict"), ("__weakref__", "NoneType")]

/-- The methods that everything has, with the types of what they make, none of which is a clause. -/
def commonMethods : List (String × List String) := [
  ("str", ["__repr__", "__str__", "__format__"]),
  ("int", ["__hash__", "__sizeof__"]),
  ("list", ["__dir__"]),
  ("tuple", ["__reduce__", "__reduce_ex__"]),
  ("dict", ["__getstate__"]),
  ("NotImplementedType", ["__eq__", "__ne__", "__lt__", "__le__", "__gt__", "__ge__",
    "__subclasshook__"]),
  ("NoneType", ["__init__", "__init_subclass__", "__setattr__", "__delattr__"])]

/-- The type of what a method makes that everything has. -/
def commonResult? (h : Handle) (name : String) : Option String :=
  if name == "__class__" then some h.kind.name
  else (commonMethods.find? fun e => e.2.contains name).map Prod.fst

/-- The method with the name, if the handle has it and clauses are made by it. -/
def method (h : Handle) (name : String) : Except Error Method :=
  let missing := Error.missingAttribute (.object h.kind.name) name
  match Method.names.lookup name with
  | some (.compare op) => if h.kind.offers op then .ok (.compare op) else .error missing
  | some m => .ok m
  | none =>
    match h.commonResult? name, properties.lookup name with
    | some typeName, _ => .error (.compilation (.notAClause typeName))
    | none, some typeName => .error (.misfit (.notCallable typeName))
    | none, none => .error missing

/-- A comparison of the column with a value, which has to fit the column. -/
def compare (h : Handle) (op : Operator) (value : Value) : Except Error (Clause ρ) := do
  let value ← h.column.validate value
  return .compare h.column.name op value op.isNegated h.table

/-- A manual fragment behind the column. -/
def manual (h : Handle) (text : Value) (values : List Value) : Except Error (Clause ρ) := do
  let template ← Template.ofValue h.column.name text values
  return .manual h.column.name template h.table

/-- An assignment of a value, which has to fit the column; only a nullable column takes NULL. -/
def assign (h : Handle) (value : Value) : Except Error (Clause ρ) :=
  if value.isNull ∧ ¬ h.column.nullable then
    .error (.valueMismatch h.column.name h.column.type value)
  else do
    let value ← h.column.validate value
    return .assign h.column.name value h.table

/-- An assignment of NULL, for a nullable column. -/
def assignNull (h : Handle) : Except Error (Clause ρ) :=
  if h.column.nullable then .ok (.assignNull h.column.name h.table)
  else .error (.valueMismatch h.column.name h.column.type .null)

/-- What a method makes of the values it is given. -/
def apply (h : Handle) (m : Method) (arguments : List Value) : Except Error (Clause ρ) :=
  match m with
  | .compare op => h.compare op (arguments.headD .null)
  | .manual =>
    match arguments with
    | text :: values => h.manual text values
    | [] => h.manual (.text "") []
  | .assign => h.assign (arguments.headD .null)
  | .assignNull => h.assignNull

end Handle

namespace Schema

/-- The handle of a column found by field or by name. -/
def handle (s : Schema) (name : String) : Except Error Handle := do
  let column ← s.columnForField name
  return ⟨column, some s.tableName⟩

/-- What the collection of a table's handles has of itself, whatever the columns are called. -/
def ownAttributes : List (Owner × List String) := [
  (.object "SchemaDescriptor", ["_schema"]),
  (.type "SchemaFields", ["__class__"]),
  (.object "dict", ["__dict__"]),
  (.object "str", ["__doc__", "__module__"]),
  (.object "NoneType", ["__weakref__"]),
  (.object "function", ["__dir__", "__getattr__", "__getitem__", "__init__"]),
  (.object "method-wrapper", ["__delattr__", "__eq__", "__ge__", "__getattribute__", "__gt__",
    "__hash__", "__le__", "__lt__", "__ne__", "__repr__", "__setattr__", "__str__"]),
  (.object "builtin_function_or_method", ["__format__", "__getstate__", "__init_subclass__",
    "__new__", "__reduce__", "__reduce_ex__", "__sizeof__", "__subclasshook__"])]

/--
The handle that a name gives as an attribute of the collection, where `member` of it is asked for.
Names with two underscores in front are not looked up.
-/
def attributeHandle (s : Schema) (name member : String) : Except Error Handle :=
  match ownAttributes.find? fun e => e.2.contains name with
  | some (owner, _) => .error (.missingAttribute owner member)
  | none => if name.startsWith "__" then .error (.hiddenAttribute name) else s.handle name

end Schema

end SqlCompose
