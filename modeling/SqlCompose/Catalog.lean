import SqlCompose.Catalog.Type

/-!
# Catalogs of tables

The part of the table library that declared tables come from: it makes tables and classes from
descriptions of their columns, refuses those that are wrong, and puts the tables of a collection in
an order in which each comes after those that it refers to. It stands in for that library where
none is at hand; schemas are made from what it hands over (`Declaration`, `DeclaredTable.schemas`)
and from nothing else of it.

A column can refer to a column of another table or of its own. If its type is left open it takes
the type of that column, once both are there (`Placed.attach`). The order is made in rounds: each
takes the tables that wait for none of those left over.
-/

namespace SqlCompose.Catalog

/-- What can be wrong with the tables of a catalog. -/
inductive Fault where
  /-- A column has no name. -/
  | blankColumn
  /-- Two columns of a table have one name. -/
  | repeatedColumn (column table : String)
  /-- Two tables of a collection have one key. -/
  | repeatedTable (key : String)
  /-- A column refers to a table that is not there. -/
  | missingTable (column key target : String)
  /-- A reference leads to a column that is not there. -/
  | missingTarget (reference table targetTable target : String)
  /-- The column of an attribute of a class has a type that is left open. -/
  | openType (className name : String)
  /-- The table of a class has no primary key. -/
  | noKey (className table : String)
  deriving DecidableEq, Repr

/-- The text of a fault in the tables of a catalog. -/
def Fault.message : Fault → String
  | blankColumn =>
    "Column must be constructed with a non-blank name or assign a non-blank .name before adding " ++
      "to a Table."
  | repeatedColumn column table =>
    "A column with name '" ++ column ++ "' is already present in table '" ++ table ++ "'."
  | repeatedTable key =>
    "Table '" ++ key ++ "' is already defined for this MetaData instance.  Specify " ++
      "'extend_existing=True' to redefine options and columns on an existing Table object."
  | missingTable column key target =>
    "Foreign key associated with column '" ++ column ++ "' could not find table '" ++ key ++
      "' with which to generate a foreign key to target column '" ++ target ++ "'"
  | missingTarget reference table targetTable target =>
    "Could not initialize target column for ForeignKey '" ++ reference ++ "' on table '" ++ table ++
      "': table '" ++ targetTable ++ "' has no column named '" ++ target ++ "'"
  | openType className name =>
    "Python typing annotation is required for attribute \"" ++ className ++ "." ++ name ++
      "\" when primary argument(s) for \"MappedColumn\" construct are None or not present"
  | noKey className table =>
    "Mapper Mapper[" ++ className ++ "(" ++ table ++ ")] could not assemble any primary key columns for " ++
      "mapped table '" ++ table ++ "'"

/-- A reference to a column of a table: a text with points in it. -/
structure Reference where
  text : String
  deriving DecidableEq, Repr

namespace Reference

/-- The segments of the text. -/
def segments (r : Reference) : List String := r.text.splitOn "."

/-- The key of the table: all segments but the last, unless there is one only. -/
def table (r : Reference) : String :=
  match r.segments with
  | [name] => name
  | segments => String.intercalate "." segments.dropLast

/-- The name of the column: the last segment, if there are several. -/
def column? (r : Reference) : Option String :=
  match r.segments with
  | [_] => none
  | segments => segments.getLast?

end Reference

/-- A column of a table. -/
structure Column where
  name : String
  type : ColumnType
  isKey : Bool := false
  /-- Whether it takes NULL; the flag may be unset. -/
  nullable : Option Bool
  /-- The column that it refers to. -/
  reference : Option Reference := none
  /-- The attribute of a class that holds its value, if it has another name. -/
  attributeName : Option String := none
  deriving DecidableEq, Repr

namespace Column

/-- The attribute of a class that holds the column's value. -/
def mappedName (c : Column) : String := c.attributeName.getD c.name

/-- Whether a class maps the column; attributes whose names have a reserved start are left out. -/
def isMapped (c : Column) : Bool :=
  !(c.mappedName.startsWith "__" || c.mappedName.startsWith "_sa_")

/-- The column with the given type, unless it has one already. -/
def orType (c : Column) (type : ColumnType) : Column :=
  if c.type.isOpen then { c with type } else c

/-- The declared column. -/
def declared (c : Column) : DeclaredColumn := ⟨c.name, c.type.declared, c.nullable⟩

end Column

/-- A table. -/
structure Table where
  name : String
  /-- The schema of the database that the table is in. -/
  schemaName : Option String := none
  columns : List Column
  deriving DecidableEq, Repr

namespace Table

/-- The key that references to the table use. An empty schema is part of it too. -/
def key (t : Table) : String :=
  match t.schemaName with
  | some s => s ++ "." ++ t.name
  | none => t.name

/-- The declared table. The primary key has its columns in the order of the table. -/
def declared (t : Table) : DeclaredTable where
  name := t.name
  schemaName := t.schemaName
  columns := t.columns.map Column.declared
  primaryKey := (t.columns.filter Column.isKey).map Column.name

/-- Accepts columns that have names, none of which is among those before it. -/
def checkNames (table : String) : (before : List String) → List Column → Except Fault Unit
  | _, [] => .ok ()
  | before, c :: rest =>
    if c.name.isEmpty then .error .blankColumn
    else if before.contains c.name then .error (.repeatedColumn c.name table)
    else checkNames table (c.name :: before) rest

/-- The table, if its columns have names of their own. -/
def checked (t : Table) : Except Fault Table := do
  checkNames t.name [] t.columns
  return t

end Table

/-! ## Types over references -/

/-- A column in its table. -/
structure Placed where
  /-- The key of the table. -/
  table : String
  column : Column

namespace Placed

/-- The table and the name of the column that a column leads to: its own name if none is given. -/
def target? (c : Placed) : Option (String × String) :=
  c.column.reference.map fun r => (r.table, r.column?.getD c.column.name)

/-- Whether the first column leads to the second. -/
def leadsTo (c d : Placed) : Bool := c.target? == some (d.table, d.column.name)

/-- Whether the first column leads to the second and says its name. -/
def refersTo (c d : Placed) : Bool :=
  (c.column.reference.bind Reference.column?).isSome && c.leadsTo d

/-- The column with the given type, unless it has one already. -/
def orType (c : Placed) (type : ColumnType) : Placed :=
  { c with column := c.column.orType type }

/--
The columns that are there, with one more. It gives its type to those that refer to it and to those
that refer to these, and takes the type of the column that it leads to, if that is there, which then
goes on to those that refer to it. A column that leads to another without its name is not told of
one that comes later.
-/
def attach (there : List Placed) (new : Placed) : List Placed :=
  let near := there.filter fun c => c.refersTo new
  let told := there.map fun c =>
    if c.refersTo new || near.any fun d => c.refersTo d then c.orType new.column.type else c
  match (told ++ [new]).find? fun d => new.leadsTo d with
  | some d =>
    told.map (fun c => if c.refersTo new then c.orType d.column.type else c) ++
      [new.orType d.column.type]
  | none => told ++ [new]

end Placed

namespace Table

/-- The columns of all tables, with the types that they take over references. -/
def placedColumns (tables : List Table) : List Placed :=
  (tables.flatMap fun t => t.columns.map fun c => ⟨t.key, c⟩).foldl Placed.attach []

/-- The tables, of which no two have one key, with the types that columns take over references. -/
def typed (tables : List Table) : List Table :=
  let placed := placedColumns tables
  tables.map fun t =>
    { t with columns := (placed.filter fun c => c.table == t.key).map Placed.column }

/-- The table on its own, with the types that columns take over references in itself. -/
def alone (t : Table) : Except Fault Table := do
  let t ← t.checked
  return (typed [t]).headD t

end Table

/-! ## Classes -/

/--
The columns that a class maps: of several with one attribute the last, in the place of the first.
-/
def mappedColumns (columns : List Column) : List Column :=
  columns.foldl (fun found c =>
    if found.any fun d => d.mappedName == c.mappedName then
      found.map fun d => if d.mappedName == c.mappedName then c else d
    else found ++ [c]) []

/-- The attribute that makes a class a mere base of others, which has no table. -/
def abstractAttribute : String := "__abstract__"

/--
A class whose attributes hold the values of the table's columns. The type of a column can be left
open only where it refers to another one.
-/
def Table.mappedTo (t : Table) (className : String) : Except Fault Declaration := do
  if t.columns.any fun c => c.mappedName == abstractAttribute then
    return .other className
  let columns := mappedColumns (t.columns.filter Column.isMapped)
  if let some c := columns.find? fun c => c.type.isOpen && c.reference.isNone then
    throw (.openType className c.mappedName)
  let table := (← ({ t with columns } : Table).alone).declared
  if table.primaryKey.isEmpty then
    throw (.noKey className t.name)
  let attributes := columns.map fun c =>
    (⟨c.mappedName, [⟨some table.identifier, c.name⟩]⟩ : MappedAttribute)
  return .mapped ⟨table, attributes⟩

/-! ## Collections -/

namespace Table

/-- The keys of the other tables that a table refers to. -/
def references (t : Table) : List String :=
  (t.columns.filterMap fun c => c.reference.map Reference.table).filter (· != t.key)

/-- The keys reached from a list of keys by at most `steps` references. -/
def reached (tables : List Table) : (steps : Nat) → List String → List String
  | 0, keys => keys
  | steps + 1, keys =>
    let next := (tables.filter fun t => keys.contains t.key).flatMap references
    reached tables steps (keys ++ next).eraseDups

/-- Whether the references of a table lead back to it. -/
def isCircular (tables : List Table) (t : Table) : Bool :=
  (reached tables tables.length t.references).contains t.key

/--
The tables in rounds: each round takes, in the order given, those that no table left over has to
come before. `waits` tells for a table which keys have to come before it.
-/
def rounds (waits : Table → List String) :
    (steps : Nat) → List Table → List Table
  | 0, left => left
  | steps + 1, left =>
    let isHeld (t : Table) : Bool := left.any fun u => (waits t).contains u.key
    let ready := left.filter fun t => !isHeld t
    if ready.isEmpty then left else ready ++ rounds waits steps (left.filter isHeld)

/-- The tables in the order of their keys. -/
def byKey (tables : List Table) : List Table :=
  tables.mergeSort fun a b => a.key ≤ b.key

/--
The tables in the order of their keys, but each after those that it refers to. A table whose
references lead back to it waits for none.
-/
def sorted (tables : List Table) : List Table :=
  let tables := byKey tables
  rounds (fun t => if isCircular tables t then [] else t.references) tables.length tables

/-- Accepts a reference of a column only if it leads to a column of one of the tables. -/
def checkReference (tables : List Table) (t : Table) (c : Column)
    (r : Reference) : Except Fault Unit :=
  let column := r.column?.getD c.name
  match tables.find? fun u => u.key == r.table with
  | none =>
    .error (.missingTable (t.name ++ "." ++ c.name) r.table (r.column?.getD "None"))
  | some u =>
    if u.columns.any fun d => d.name == column then .ok ()
    else .error (.missingTarget r.text t.name u.name column)

/-- Accepts tables only if all references of their columns lead to columns. -/
def checkReferences (tables : List Table) : Except Fault Unit :=
  (byKey tables).forM fun t =>
    t.columns.forM fun c => c.reference.forM (checkReference tables t c)

/--
The tables, each made after those before it. A table that is declared once more has to come without
columns, and is the one that is there.
-/
def collect : (before : List Table) → List Table → Except Fault (List Table)
  | before, [] => .ok before
  | before, t :: rest =>
    if before.any fun u => u.key == t.key then
      if t.columns.isEmpty then collect before rest
      else .error (.repeatedTable t.key)
    else do collect (before ++ [← t.checked]) rest

/-- The tables of a collection in their order, once all their references lead to columns. -/
def collection (tables : List Table) : Except Fault (List DeclaredTable) := do
  let tables := typed (← collect [] tables)
  checkReferences tables
  return (sorted tables).map declared

end Table

end SqlCompose.Catalog
