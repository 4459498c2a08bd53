import SqlCompose.Query

/-!
# Other names for tables and columns

A relabeling gives the tables that a query is about other names: other
segments of the table's name and other names of its columns, no two columns
by the same name.  The models stay as they are, so a column keeps the field
that holds its value, and clauses, orders and keys go with the columns that
they name.

## Main results

* `Schema.find?_relabel` — what a name finds is found by the other name.
* `Schema.keyColumns_relabel`, `Schema.plainColumns_relabel` — the columns of
  the key are the same ones, and so are the others.
* `Schema.valueOf_relabel` — an object has the same values.
* `Column.validate_relabel` — the checks of values do not look at names.
-/

namespace SqlCompose

/--
Other names for the segments and the columns of tables.  The columns of a
table are still told apart; segments may have any names.
-/
structure Relabeling where
  segment : Schema → String → String
  column : Schema → String → String
  injective : ∀ s : Schema, ∀ name ∈ s.columnNames, ∀ name' ∈ s.columnNames,
    column s name = column s name' → name = name'

/-- The names as they are. -/
def Relabeling.same : Relabeling where
  segment _ name := name
  column _ name := name
  injective _ _ _ _ _ h := h

variable (ρ : Relabeling)

/-! ## Columns -/

namespace Column

/-- A column by another name, with the field that it had. -/
def relabel (rename : String → String) (c : Column) : Column where
  name := rename c.name
  type := c.type
  nullable := c.nullable
  field := some c.fieldName
  validator := c.validator

variable {rename : String → String} {c : Column}

@[simp] theorem name_relabel : (c.relabel rename).name = rename c.name := rfl

/-- A field with a name is the same one. -/
theorem fieldName_relabel (h : c.fieldName ≠ "") :
    (c.relabel rename).fieldName = c.fieldName := by
  have hempty : c.fieldName.isEmpty = false := by simpa using h
  have hfield : (c.relabel rename).field = some c.fieldName := rfl
  rw [fieldName, hfield]
  simp [hempty]

/-- A value that passes the check of a column passes it under another name. -/
theorem validate_relabel {v w : Value} (h : c.validate v = .ok w) :
    (c.relabel rename).validate v = .ok w := by
  have hkind : (c.relabel rename).kind = c.kind := rfl
  have htype : (c.relabel rename).type = c.type := rfl
  have hvalidator : (c.relabel rename).validator = c.validator := rfl
  unfold validate at h ⊢
  rw [hkind, htype, hvalidator]
  split at h
  · rename_i hfree
    rw [if_pos hfree, h]
  · rename_i hfree
    rw [if_neg hfree]
    split at h
    · cases h
      rfl
    · cases h

theorem validateKey_relabel {v w : Value} (h : c.validateKey v = .ok w) :
    (c.relabel rename).validateKey v = .ok w := by
  unfold validateKey at h ⊢
  split at h
  · cases h
  · rename_i hnull
    rw [if_neg hnull]
    exact validate_relabel h

end Column

/-! ## Tables -/

namespace Schema

/-- A table by another name, with other names of its columns. -/
def relabel (s : Schema) : Schema where
  identifier := s.identifier.map (ρ.segment s)
  columns := s.columns.map (Column.relabel (ρ.column s))
  primaryKeys := s.primaryKeys.map (ρ.column s)
  keys_declared := by
    intro k hk
    obtain ⟨k', hk', rfl⟩ := List.mem_map.1 hk
    obtain ⟨c, hc, rfl⟩ := List.mem_map.1 (s.keys_declared k' hk')
    exact List.mem_map.2 ⟨c.relabel (ρ.column s), List.mem_map_of_mem hc, rfl⟩

variable {s : Schema}

@[simp] theorem identifier_relabel :
    (s.relabel ρ).identifier = s.identifier.map (ρ.segment s) := rfl

@[simp] theorem columns_relabel :
    (s.relabel ρ).columns = s.columns.map (Column.relabel (ρ.column s)) := rfl

@[simp] theorem primaryKeys_relabel :
    (s.relabel ρ).primaryKeys = s.primaryKeys.map (ρ.column s) := rfl

/-- Declared names are equal where their other names are. -/
theorem relabel_beq {name name' : String} (h : name ∈ s.columnNames)
    (h' : name' ∈ s.columnNames) : (ρ.column s name == ρ.column s name') = (name == name') := by
  rw [Bool.eq_iff_iff, beq_iff_eq, beq_iff_eq]
  exact ⟨ρ.injective s name h name' h', congrArg (ρ.column s)⟩

/-- What a declared name finds is found by its other name. -/
theorem find?_relabel {name : String} (h : name ∈ s.columnNames) :
    (s.relabel ρ).find? (ρ.column s name) =
      (s.find? name).map (Column.relabel (ρ.column s)) := by
  have hfind : ∀ columns : List Column, (∀ c ∈ columns, c ∈ s.columns) →
      (columns.map (Column.relabel (ρ.column s))).find?
          (fun c => c.name == ρ.column s name) =
        (columns.find? fun c => c.name == name).map (Column.relabel (ρ.column s)) := by
    intro columns hcolumns
    induction columns with
    | nil => rfl
    | cons c rest ih =>
        obtain ⟨hc, hrest⟩ := List.forall_mem_cons.1 hcolumns
        have hname := relabel_beq ρ (name_mem_columnNames hc) h
        rw [List.map_cons, List.find?_cons, List.find?_cons, Column.name_relabel, hname, ih hrest]
        cases c.name == name <;> rfl
  exact hfind s.columns fun _ hc => hc

/-- The key has the columns that it had. -/
theorem keyColumns_relabel :
    (s.relabel ρ).keyColumns = s.keyColumns.map (Column.relabel (ρ.column s)) := by
  have hkeys : ∀ keys : List String, (∀ k ∈ keys, k ∈ s.columnNames) →
      (keys.map (ρ.column s)).filterMap (s.relabel ρ).find? =
        (keys.filterMap s.find?).map (Column.relabel (ρ.column s)) := by
    intro keys hdeclared
    induction keys with
    | nil => rfl
    | cons k rest ih =>
        obtain ⟨hk, hrest⟩ := List.forall_mem_cons.1 hdeclared
        rw [List.map_cons, List.filterMap_cons, List.filterMap_cons, find?_relabel ρ hk, ih hrest]
        cases s.find? k <;> rfl
  exact hkeys s.primaryKeys s.keys_declared

/-- The columns that are no key are those that were none. -/
theorem plainColumns_relabel :
    (s.relabel ρ).plainColumns = s.plainColumns.map (Column.relabel (ρ.column s)) := by
  have hkey : ∀ c ∈ s.columns, (s.primaryKeys.map (ρ.column s)).contains (ρ.column s c.name) =
      s.primaryKeys.contains c.name := by
    intro c hc
    have hname := name_mem_columnNames hc
    rw [Bool.eq_iff_iff, List.contains_iff_mem, List.contains_iff_mem, List.mem_map]
    constructor
    · rintro ⟨k, hk, hsame⟩
      exact ρ.injective s k (s.keys_declared k hk) c.name hname hsame ▸ hk
    · intro hk
      exact ⟨c.name, hk, rfl⟩
  have hfilter : s.plainColumns.map (Column.relabel (ρ.column s)) =
      (s.columns.map (Column.relabel (ρ.column s))).filter
        fun c => !(s.primaryKeys.map (ρ.column s)).contains c.name := by
    rw [List.filter_map]
    refine congrArg (List.map _) (List.filter_congr fun c hc => ?_)
    simp only [Function.comp_apply, Column.name_relabel, hkey c hc]
  exact hfilter.symm

/-- That every column has the field under its other name that it had. -/
def KeepsFields (s : Schema) : Prop :=
  ∀ c ∈ s.columns, (c.relabel (ρ.column s)).fieldName = c.fieldName

/-- An object has the same value for a column by any name. -/
theorem valueOf_relabel (h : s.KeepsFields ρ) {c : Column} (hc : c ∈ s.columns) (r : Record) :
    (s.relabel ρ).valueOf r (ρ.column s c.name) = s.valueOf r c.name := by
  have hname := name_mem_columnNames hc
  obtain ⟨found, hfound⟩ := Option.isSome_iff_exists.1 (find?_isSome hname)
  have hvalue : (found.relabel (ρ.column s)).valueIn r = found.valueIn r := by
    rw [Column.valueIn, Column.valueIn, h found (mem_of_find? hfound)]
  unfold valueOf column
  rw [find?_relabel ρ hname, hfound]
  exact congrArg Except.ok hvalue

end Schema

/-! ## Clauses and queries -/

mutual
/-- A clause on a table that goes by another name, as do the tables inside the clause. -/
def Clause.relabel (s : Schema) : Clause Query → Clause Query
  | .compare column op value negated table =>
    .compare (ρ.column s column) op value negated (table.map fun _ => (s.relabel ρ).tableName)
  | .assign column value table =>
    .assign (ρ.column s column) value (table.map fun _ => (s.relabel ρ).tableName)
  | .assignNull column table =>
    .assignNull (ρ.column s column) (table.map fun _ => (s.relabel ρ).tableName)
  | .manual column template table =>
    .manual (ρ.column s column) template (table.map fun _ => (s.relabel ρ).tableName)
  | .related column inner innerColumn negated =>
    .related (ρ.column s column) (Query.relabel inner)
      (ρ.column inner.selection.schema innerColumn) negated
  | .among query column => .among (Query.relabel query) (column.map (ρ.column s))

/-- Clauses on a table that goes by another name. -/
def Clause.relabelAll (s : Schema) : List (Clause Query) → List (Clause Query)
  | [] => []
  | c :: rest => Clause.relabel s c :: Clause.relabelAll s rest

/-- A query over a table that goes by another name. -/
def Query.relabel : Query → Query
  | .unwritable schema reason => .unwritable (schema.relabel ρ) reason
  | .mk ⟨schema, conditions, related, order, limit, offset⟩ =>
    .mk ⟨schema.relabel ρ, Clause.relabelAll schema conditions, Clause.relabelAll schema related,
      order.map fun o => { o with column := ρ.column schema o.column }, limit, offset⟩
end

theorem Clause.isEmpty_relabelAll (s : Schema) (cs : List (Clause Query)) :
    (Clause.relabelAll ρ s cs).isEmpty = cs.isEmpty := by
  cases cs with
  | nil => rw [Clause.relabelAll]
  | cons c rest =>
      rw [Clause.relabelAll]
      rfl

/-- What a query says of a table that goes by another name. -/
def Selection.relabel (s : Selection Query) : Selection Query where
  schema := s.schema.relabel ρ
  conditions := Clause.relabelAll ρ s.schema s.conditions
  related := Clause.relabelAll ρ s.schema s.related
  order := s.order.map fun o => { o with column := ρ.column s.schema o.column }
  limit := s.limit
  offset := s.offset

theorem Query.relabel_mk (s : Selection Query) :
    (Query.mk s).relabel ρ = .mk (s.relabel ρ) := by
  rw [Query.relabel.eq_def]
  rfl

@[simp] theorem Selection.schema_relabel (s : Selection Query) :
    (s.relabel ρ).schema = s.schema.relabel ρ := rfl

@[simp] theorem Selection.isPaged_relabel (s : Selection Query) :
    (s.relabel ρ).isPaged = s.isPaged := rfl

/-- A query that goes by other names says what it said, by other names. -/
theorem Query.selection_relabel (query : Query) :
    (query.relabel ρ).selection = query.selection.relabel ρ := by
  cases query with
  | mk s => rw [Query.relabel_mk, Query.selection_mk, Query.selection_mk]
  | unwritable schema reason =>
      rw [Query.relabel]
      simp [Query.selection, Selection.relabel, Clause.relabelAll]

/-- An update of a table that goes by another name. -/
def Update.relabel (u : Update) : Update where
  query := u.query.relabel ρ
  assignments := Clause.relabelAll ρ u.query.schema u.assignments

@[simp] theorem Update.query_relabel (u : Update) :
    (u.relabel ρ).query = u.query.relabel ρ := rfl

@[simp] theorem Update.assignments_relabel (u : Update) :
    (u.relabel ρ).assignments = Clause.relabelAll ρ u.query.schema u.assignments := rfl

end SqlCompose
