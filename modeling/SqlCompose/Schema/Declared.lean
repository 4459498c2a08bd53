import SqlCompose.Schema.Description
import SqlCompose.Text.Lower

/-!
# Declared tables

A table that was declared elsewhere becomes a schema: its columns in their order, each with the tag
for its type, and the columns of its primary key in the order of the key. What the table library
made of the declaration is taken as it is: the types name the classes of their values, and a class
that is mapped to a table comes with its attributes and the columns that these stand for, the
inherited ones included.

The fields of a mapped class are found by the names of columns alone: of the attributes that have
a column of some name, but are not named like it, the last is the field (`MappedClass.fields`).
-/

namespace SqlCompose

/-! ## Types -/

/-- The classes of values that have tags. -/
inductive TaggedClass where
  | truth
  | integer
  | float
  | decimal
  | text
  | bytes
  | moment
  | date
  | time
  | uuid
  | dictionary
  | list
  deriving DecidableEq, Repr

/--
The tags in the order in which they are tried: moments are dates too, and truth values integers.
-/
def TaggedClass.tags : List (TaggedClass × String) := [
  (.truth, "bool"), (.integer, "int"), (.float, "float"), (.decimal, "decimal"), (.text, "text"),
  (.bytes, "bytes"), (.moment, "datetime"), (.date, "date"), (.time, "time"), (.uuid, "uuid"),
  (.dictionary, "json"), (.list, "json")]

/-- A class of values, as far as tags go: those of the classes above that it is derived from. -/
structure ValueClass where
  bases : List TaggedClass
  deriving DecidableEq, Repr

/-- The type of a declared column. -/
structure DeclaredType where
  /-- The class of the values, which not every type names. -/
  valueClass : Option ValueClass
  /-- How the type is written in a declaration of its column. -/
  rendering : String
  deriving DecidableEq, Repr

/-- The first tag that fits the class of the values, or else the type as it is written. -/
def DeclaredType.tag (t : DeclaredType) : String :=
  match t.valueClass.bind fun v => TaggedClass.tags.find? fun e => v.bases.contains e.1 with
  | some e => e.2
  | none => Text.lower t.rendering

/-! ## Tables -/

/-- A declared column. -/
structure DeclaredColumn where
  name : String
  type : DeclaredType
  /-- Whether it takes NULL, where that is said. -/
  nullable : Option Bool := none
  deriving DecidableEq, Repr

/-- The column of a schema whose value the field holds. What is not said to refuse NULL takes it. -/
def DeclaredColumn.column (c : DeclaredColumn) (field : Option String) : Column where
  name := c.name
  type := c.type.tag
  nullable := c.nullable != some false
  field := field

/-- A declared table. -/
structure DeclaredTable where
  name : String
  /-- The schema of the database that the table is in. -/
  schemaName : Option String := none
  columns : List DeclaredColumn
  /-- The names of the columns of the primary key, in the order of the key. -/
  primaryKey : List String := []
  deriving DecidableEq, Repr

namespace DeclaredTable

/-- The segments of the table's name; an empty schema is none. -/
def identifier (t : DeclaredTable) : List String :=
  match t.schemaName with
  | some s => if s.isEmpty then [t.name] else [s, t.name]
  | none => [t.name]

/-- The names of the columns. -/
def columnNames (t : DeclaredTable) : List String := t.columns.map DeclaredColumn.name

/-- The schema of a table whose columns are held by the given fields. -/
def schema (t : DeclaredTable) (fields : List (String × String)) : Except Error Schema :=
  (Description.schemaOfParts t.identifier
    (t.columns.map fun c => c.column (fields.lookup c.name)) t.primaryKey).mapError .invalid

/-- The schemas with one more under its name, in the place of one that is there. -/
def putSchema (found : List (String × Schema)) (s : Schema) : List (String × Schema) :=
  if found.any fun e => e.1 == s.tableName then
    found.map fun e => if e.1 == s.tableName then (e.1, s) else e
  else found ++ [(s.tableName, s)]

/--
The schemas of the tables with one of the given names, or of all tables, under their names. Of
several tables of one name in different schemas, of which one is empty, the last counts.
-/
def schemas (tables : List DeclaredTable) (names? : Option (List String)) :
    Except Error (List (String × Schema)) := do
  let chosen := tables.filter fun t => (names?.map fun ns => ns.contains t.name).getD true
  return (← chosen.mapM fun t => t.schema []).foldl putSchema []

end DeclaredTable

/-! ## Mapped classes -/

/-- A column that an attribute of a class stands for: one of a table, or an expression. -/
structure MappedColumn where
  /-- The table that the column is of. -/
  table : Option (List String)
  name : String
  deriving DecidableEq, Repr

/-- An attribute of a class, with the columns that it stands for. -/
structure MappedAttribute where
  key : String
  columns : List MappedColumn
  deriving DecidableEq, Repr

/-- A class that is mapped to a table, with its attributes, its own and the inherited ones. -/
structure MappedClass where
  table : DeclaredTable
  attributes : List MappedAttribute
  deriving DecidableEq, Repr

/-- The fields that are known, by the names of columns, and those of an attribute before them. -/
def MappedAttribute.addTo (names : List (String × String)) (a : MappedAttribute) :
    List (String × String) :=
  a.columns.foldl (fun names c => if c.name ≠ a.key then (c.name, a.key) :: names else names) names

/-- The fields of a class by the names of columns; of several for one name the first counts. -/
def MappedClass.fields (m : MappedClass) : List (String × String) :=
  m.attributes.foldl MappedAttribute.addTo []

/-- What a schema can be made from. -/
inductive Declaration where
  | table (t : DeclaredTable)
  | mapped (m : MappedClass)
  /-- Anything else, with the name that messages call it. -/
  | other (name : String)

/-- The schema of a declaration. -/
def Declaration.schema : Declaration → Except Error Schema
  | table t => t.schema []
  | mapped m => m.table.schema m.fields
  | other name => .error (.compilation (.noTable name))

end SqlCompose
