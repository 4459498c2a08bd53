import SqlCompose.Handle
import SqlCompose.Query

/-!
# Naming columns and giving clauses

A caller names a column by a text or by a handle, and gives a clause ready made or by a function
that makes one for the table at hand. Either way the column has to be one of the table's: a handle
or a clause that was made for a table of another name is refused, whatever its column is called.

What a column reference stands for is a column of the table (`Schema.mem_of_resolve`).
-/

namespace SqlCompose

/-- A reference to a column. -/
inductive ColumnRef where
  /-- The name of a field or of a column, which has to be a text. -/
  | named (name : Value)
  | handle (h : Handle)

/-- How a caller names a column of a table. -/
abbrev ColumnSource := Schema → Except Error ColumnRef

/-- How a caller gives a clause on a table. -/
abbrev ClauseSource (ρ : Type) := Schema → Except Error (Clause ρ)

/-- A thing in the place of a clause that is none. -/
def ClauseSource.notAClause {ρ : Type} (typeName : String) : ClauseSource ρ :=
  fun _ => .error (.compilation (.notAClause typeName))

/-- A thing of the named type in the place of a function that makes a clause. -/
def ClauseSource.notCallable {ρ : Type} (typeName : String) : ClauseSource ρ :=
  fun _ => .error (.misfit (.notCallable typeName))

/-- The name of an attribute, which has to be a text. -/
def attributeName : Value → Except Error String
  | .text name => .ok name
  | v => .error (.misfit (.notAttributeName v.fullTypeName))

/-- A clause made by a method of the handle that a field has on the table at hand. -/
def ClauseSource.ofMethod {ρ : Type} (field method : Value) (arguments : List Value) :
    ClauseSource ρ := fun s => do
  let h ← s.attributeHandle (← attributeName field) method.display
  h.apply (← h.method (← attributeName method)) arguments

namespace Schema

/-- Accepts a column only if it was not taken from a table of another name. -/
def checkTable (s : Schema) (table : Option String) (column : String) : Except Error Unit :=
  match table with
  | none => .ok ()
  | some t =>
    if t = s.tableName then .ok ()
    else .error (.compilation (.foreignColumn t column s.tableName))

/-- The column of a field or with a name; what is no text is no column's name. -/
def columnNamed (s : Schema) : Value → Except Error Column
  | .text name => s.columnForField name
  | v => .error (s.missing v)

/-- The handle of the column of a field or with a name. -/
def handleNamed (s : Schema) (name : Value) : Except Error Handle := do
  return ⟨← s.columnNamed name, some s.tableName⟩

/--
What the collection of a table's handles has of itself that can stand in the place of a column's
name.
-/
def ownNames : List (String × Value) := [
  ("__module__", .text "brickorm.schema.fields"),
  ("__weakref__", .null),
  ("__doc__", .text ("Attribute access to the field handles of one schema.\n\n" ++
    "    Handles are addressed by model attribute name (\x60\x60Column.field\x60\x60) or by\n" ++
    "    column name; anything else raises\n" ++
    "    :class:\x60~brickorm.errors.MissingColumnError\x60.\n    "))]

/-- The reference that an attribute of the collection of a table's handles is. -/
def attributeRef (s : Schema) (name : Value) : Except Error ColumnRef := do
  let name ← attributeName name
  match ownNames.lookup name with
  | some v => return .named v
  | none => return .handle (← s.attributeHandle name "name")

/-- The column that a reference stands for. -/
def resolve (s : Schema) : ColumnRef → Except Error Column
  | .named name => s.columnNamed name
  | .handle h => do
    s.checkTable h.table h.column.name
    s.column h.column.name

/-- The column that the caller names. -/
def resolveColumn (s : Schema) (source : ColumnSource) : Except Error Column := do
  s.resolve (← source s)

/-- The clause, if its column is one of the table's. -/
def accept {ρ : Type} (s : Schema) (c : Clause ρ) : Except Error (Clause ρ) :=
  match c.column? with
  | none => .ok c
  | some column => do
    s.checkTable c.table? column
    let _ ← s.column column
    return c

/-- The clause that the caller gives. -/
def resolveClause {ρ : Type} (s : Schema) (source : ClauseSource ρ) : Except Error (Clause ρ) := do
  s.accept (← source s)

/-- A column found by its name is one of the table's. -/
theorem mem_of_column {s : Schema} {name : String} {c : Column} (h : s.column name = .ok c) :
    c ∈ s.columns := by
  unfold column at h
  split at h
  · rename_i d hd
    cases h
    exact mem_of_find? hd
  · cases h

/-- A column found by its field is one of the table's. -/
theorem mem_of_columnForField {s : Schema} {field : String} {c : Column}
    (h : s.columnForField field = .ok c) : c ∈ s.columns := by
  unfold columnForField at h
  split at h
  · rename_i d hd
    cases h
    exact List.mem_of_find?_eq_some hd
  · exact mem_of_column h

/-- A column that a value names is one of the table's. -/
theorem mem_of_columnNamed {s : Schema} {name : Value} {c : Column}
    (h : s.columnNamed name = .ok c) : c ∈ s.columns := by
  unfold columnNamed at h
  split at h
  · exact mem_of_columnForField h
  · cases h

/-- What a reference stands for is a column of the table. -/
theorem mem_of_resolve {s : Schema} {r : ColumnRef} {c : Column} (h : s.resolve r = .ok c) :
    c ∈ s.columns := by
  cases r with
  | named name => exact mem_of_columnNamed h
  | handle hd =>
      simp only [resolve, bind, Except.bind] at h
      split at h
      · cases h
      · exact mem_of_column h

end Schema

end SqlCompose
