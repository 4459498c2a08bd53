import SqlCompose.Coerce
import SqlCompose.Error

/-!
# Tables and their columns

A schema describes one table: the segments of its name, its columns in order, and the names of its
primary keys, each of which is the name of a column. Columns are looked up by their name, or first
by the name of the model's field that holds their value.

A lookup by name finds a column with that name (`name_of_find?`), and every declared key has a
column (`length_keyColumns`).
-/

namespace SqlCompose

/-- A column of a table. -/
structure Column where
  name : String
  /-- The type tag. -/
  type : String
  nullable : Bool := true
  /-- The field of the model that holds the column's value. -/
  field : Option String := none
  /-- What the column's values are checked by. -/
  validator : Validator := .lax

namespace Column

/-- The field of the model that holds the value: the column's own name unless another is given. -/
def fieldName (c : Column) : String :=
  match c.field with
  | some f => if f.isEmpty then c.name else f
  | none => c.name

/-- The kind of values that the column takes. -/
def kind (c : Column) : Kind := TypeTag.kindOf c.type

/--
The value as one of the column's kind. NULL and values that were left open pass as they are, and so
does any value where the tag names no kind; the kind is found from the tag in its normal form.
-/
def validate (c : Column) (v : Value) : Except Error Value :=
  if v.isNull ∨ c.kind = .any then .ok v
  else
    match c.validator.coerce? (TypeTag.kindOf (TypeTag.normalize c.type)) v with
    | some w => .ok w
    | none => .error (.valueMismatch c.name c.type v)

/-- The value as one of the column's kind, for a place that takes no NULL. -/
def validateKey (c : Column) (v : Value) : Except Error Value :=
  if v.isNull then .error (.valueMismatch c.name c.type .null) else c.validate v

end Column

/-- A table: its name in segments, its columns, and which of them are its primary keys. -/
structure Schema where
  identifier : List String
  columns : List Column
  primaryKeys : List String
  keys_declared : ∀ k ∈ primaryKeys, k ∈ columns.map Column.name := by decide

namespace Schema

/-- The segments of the table's name with points between them. -/
def tableName (s : Schema) : String := String.intercalate "." s.identifier

/-- The names of the columns. -/
def columnNames (s : Schema) : List String := s.columns.map Column.name

/-- The first column with the name. -/
def find? (s : Schema) (name : String) : Option Column :=
  s.columns.find? fun c => c.name == name

/-- The error of a name that is no column's. -/
def missing (s : Schema) (name : Value) : Error := .missingColumn name s.tableName s.columnNames

/-- The column with the name. -/
def column (s : Schema) (name : String) : Except Error Column :=
  match s.find? name with
  | some c => .ok c
  | none => .error (s.missing (.text name))

/-- The column whose value the field holds, or else the column with that name. -/
def columnForField (s : Schema) (field : String) : Except Error Column :=
  match s.columns.find? fun c => c.fieldName == field with
  | some c => .ok c
  | none => s.column field

/-- The columns of the primary key, in the order of the keys. -/
def keyColumns (s : Schema) : List Column := s.primaryKeys.filterMap s.find?

/-- The columns that are no primary keys, in the order of the table. -/
def plainColumns (s : Schema) : List Column :=
  s.columns.filter fun c => !s.primaryKeys.contains c.name

/-- The column that tells rows apart: the first of the primary key. -/
def uniqueColumn (s : Schema) : Except Error Column :=
  match s.keyColumns with
  | c :: _ => .ok c
  | [] => .error (.noPrimaryKey s.tableName none)

/-- The names of the fields of the model, sorted. -/
def fieldNames (s : Schema) : List String :=
  (s.columns.map Column.fieldName).mergeSort fun a b => a ≤ b

/-- A column found by its name has that name. -/
theorem name_of_find? {s : Schema} {name : String} {c : Column} (h : s.find? name = some c) :
    c.name = name := by
  simpa using List.find?_some h

/-- A column found by its name is one of the table's. -/
theorem mem_of_find? {s : Schema} {name : String} {c : Column} (h : s.find? name = some c) :
    c ∈ s.columns :=
  List.mem_of_find?_eq_some h

/-- The names of the columns are declared. -/
theorem name_mem_columnNames {s : Schema} {c : Column} (h : c ∈ s.columns) :
    c.name ∈ s.columnNames :=
  List.mem_map_of_mem h

/-- The columns of the primary key are columns of the table. -/
theorem mem_of_keyColumns {s : Schema} {c : Column} (h : c ∈ s.keyColumns) : c ∈ s.columns := by
  obtain ⟨k, -, hk⟩ := List.mem_filterMap.1 h
  exact mem_of_find? hk

/-- A name that is declared is found. -/
theorem find?_isSome {s : Schema} {name : String} (h : name ∈ s.columnNames) :
    (s.find? name).isSome = true := by
  obtain ⟨c, hc, rfl⟩ := List.mem_map.1 h
  exact List.find?_isSome.2 ⟨c, hc, by simp⟩

/-- Every primary key has its column. -/
theorem length_keyColumns (s : Schema) : s.keyColumns.length = s.primaryKeys.length := by
  have h : ∀ ks : List String, (∀ k ∈ ks, k ∈ s.columnNames) →
      (ks.filterMap s.find?).length = ks.length := by
    intro ks
    induction ks with
    | nil => simp
    | cons k rest ih =>
        intro hks
        obtain ⟨c, hc⟩ := Option.isSome_iff_exists.1 (find?_isSome (hks k (by simp)))
        simp [hc, ih fun k' hk' => hks k' (by simp [hk'])]
  exact h s.primaryKeys s.keys_declared

end Schema

/-- A thing that may say what its table is: a model, or any value in the place of one. -/
structure Model where
  /-- What messages call it. -/
  name : String
  schema? : Option Schema

/-- The schema that a model carries. -/
def Model.schema (m : Model) : Except Error Schema :=
  match m.schema? with
  | some s => .ok s
  | none => .error (.compilation (.noSchema m.name))

/-- A model object: the values of its fields, and what it says of its table. -/
structure Record where
  model : Model
  fields : List (String × Value)

/-- The value of a column in an object; a field that is not there was left open. -/
def Column.valueIn (c : Column) (r : Record) : Value :=
  (r.fields.lookup c.fieldName).getD .unset

/--
The value of the column with the name in an object. Of several columns of one name the first says
which field holds it.
-/
def Schema.valueOf (s : Schema) (r : Record) (name : String) : Except Error Value := do
  let column ← s.column name
  return column.valueIn r

end SqlCompose
