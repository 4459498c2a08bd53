import SqlCompose.Proofs.Schema.Declared
import SqlCompose.Proofs.Session.Argument
import SqlCompose.Proofs.Session.Insert
import SqlCompose.Proofs.Session.Key

/-!
# Objects of a mapped class

The schema of a class says which attribute of an object holds the value of a
column.  Attributes may be named like other columns, also the other way round,
and lookups try the names of fields before those of columns, so three things
have to agree: the handle that an attribute's name leads to, the value that is
read for a column, and the place in a statement where it is bound.

They all go by the column that the declared one becomes, as long as the
attribute that stands for it is its field.  Where another attribute hides that
one, the value of the other is read and bound in its place, and nothing is
refused.

## Main results

* `DeclaredTable.Describes.handleNamed`, `DeclaredTable.Describes.valueOf` —
  the handle of an attribute, and the value of a column in an object.
* `MappedClass.IsMapped.bound_by_attribute` — the schema of a class, when its
  columns are read from their attributes, and where the values of an object's
  attributes stand in its statements then.
-/

namespace SqlCompose

open SqlCompose.Action

/-- The value of an attribute of an object; one that is not there was left open. -/
def Record.attribute (r : Record) (name : String) : Value := (r.fields.lookup name).getD .unset

/-- Whether an object gives a value for a column that the given attribute is for. -/
def Record.gives (r : Record) (key : DeclaredColumn → String) (c : DeclaredColumn) : Bool :=
  match r.attribute (key c) with
  | .unset => false
  | _ => true

namespace DeclaredColumn

/-- Whether a column becomes one of a schema that is held by the attribute which is for it. -/
structure HeldBy (key : DeclaredColumn → String) (c : DeclaredColumn) (column : Column) : Prop
    extends c.Becomes column where
  fieldName : column.fieldName = key c

/--
Whether a driver is handed for a declared column what the column of the schema
makes of the value of the attribute.
-/
def Receives (s : Schema) (r : Record) (key : DeclaredColumn → String) (c : DeclaredColumn)
    (argument : Value) : Prop :=
  ∃ column ∈ s.columns, c.HeldBy key column ∧
    ∃ w, column.validate (r.attribute (key c)) = .ok w ∧ argument = w.toBind

end DeclaredColumn

namespace DeclaredTable

/-- The columns of the primary key, in the order of the key. -/
def keyColumns (t : DeclaredTable) : List DeclaredColumn :=
  t.primaryKey.filterMap fun k => t.columns.find? fun c => c.name == k

/-- The other columns, in the order of the table. -/
def plainColumns (t : DeclaredTable) : List DeclaredColumn :=
  t.columns.filter fun c => !t.primaryKey.contains c.name

theorem keyColumns_subset (t : DeclaredTable) : t.keyColumns ⊆ t.columns := by
  intro c hc
  obtain ⟨k, -, hk⟩ := List.mem_filterMap.1 hc
  exact List.mem_of_find?_eq_some hk

/-- The columns of the key are named as the key says. -/
theorem map_name_keyColumns {t : DeclaredTable} (h : t.primaryKey ⊆ t.columnNames) :
    t.keyColumns.map DeclaredColumn.name = t.primaryKey := by
  unfold keyColumns
  revert h
  generalize t.primaryKey = keys
  induction keys with
  | nil => intro _; rfl
  | cons k rest ih =>
      intro h
      rw [List.cons_subset] at h
      obtain ⟨c, hc, hname⟩ := List.mem_map.1 h.1
      obtain ⟨found, hfound⟩ : ∃ found, t.columns.find? (fun c => c.name == k) = some found :=
        Option.isSome_iff_exists.1 (List.find?_isSome.2 ⟨c, hc, by simpa using hname⟩)
      have hsame : found.name = k := by simpa using List.find?_some hfound
      simp only [List.filterMap_cons, hfound, List.map_cons, ih h.2, hsame]

end DeclaredTable

/-! ## A table and its schema -/

/--
Whether a schema has the columns and the key of a table, whose names are not
repeated, each held by an attribute of its own.
-/
structure DeclaredTable.Describes (t : DeclaredTable) (key : DeclaredColumn → String) (s : Schema) :
    Prop where
  columns : List.Forall₂ (DeclaredColumn.HeldBy key) t.columns s.columns
  primaryKeys : s.primaryKeys = t.primaryKey
  names : t.columnNames.Nodup
  attributes : (t.columns.map key).Nodup

namespace DeclaredTable.Describes

variable {t : DeclaredTable} {key : DeclaredColumn → String} {s : Schema} {c : DeclaredColumn}
  {column : Column} {r : Record}

theorem map_name (h : t.Describes key s) : s.columnNames = t.columnNames :=
  map_eq_of_forall₂ (h.columns.imp fun _ _ hc => hc.name)

theorem map_fieldName (h : t.Describes key s) :
    s.columns.map Column.fieldName = t.columns.map key :=
  map_eq_of_forall₂ (h.columns.imp fun _ _ hc => hc.fieldName)

theorem nodup_columnNames (h : t.Describes key s) : s.columnNames.Nodup := h.map_name ▸ h.names

/-- Every declared column has become one. -/
theorem exists_heldBy (h : t.Describes key s) (hc : c ∈ t.columns) :
    ∃ column ∈ s.columns, c.HeldBy key column := by
  obtain ⟨i, hi, rfl⟩ := List.mem_iff_getElem.1 hc
  obtain ⟨hlength, hpairs⟩ := List.forall₂_iff_get.1 h.columns
  exact ⟨s.columns[i], List.getElem_mem (by omega), hpairs i hi (by omega)⟩

/-- The column with the name of a declared one is what it has become. -/
theorem heldBy_of_name (h : t.Describes key s) (hc : c ∈ t.columns) (hcolumn : column ∈ s.columns)
    (hname : column.name = c.name) : c.HeldBy key column := by
  obtain ⟨found, hfound, hheld⟩ := h.exists_heldBy hc
  have hsame : found = column :=
    List.inj_on_of_nodup_map h.nodup_columnNames hfound hcolumn (hheld.name.trans hname.symm)
  rw [← hsame]
  exact hheld

/-- Columns that are named as declared ones are what these have become. -/
theorem forall₂_of_map_name (h : t.Describes key s) {cs : List DeclaredColumn}
    {columns : List Column} (hcs : cs ⊆ t.columns) (hcolumns : columns ⊆ s.columns)
    (hnames : columns.map Column.name = cs.map DeclaredColumn.name) :
    List.Forall₂ (DeclaredColumn.HeldBy key) cs columns := by
  induction columns generalizing cs with
  | nil =>
      cases cs with
      | nil => exact .nil
      | cons c rest => cases hnames
  | cons column columns ih =>
      cases cs with
      | nil => cases hnames
      | cons c rest =>
          obtain ⟨hname, hrest⟩ := List.cons.inj hnames
          rw [List.cons_subset] at hcs hcolumns
          exact .cons (h.heldBy_of_name hcs.1 hcolumns.1 hname) (ih hcs.2 hcolumns.2 hrest)

/-- The name of an attribute leads to the handle of its column. -/
theorem handleNamed (h : t.Describes key s) (hcolumn : column ∈ s.columns)
    (hc : c.HeldBy key column) :
    s.handleNamed (.text (key c)) = .ok ⟨column, some s.tableName⟩ := by
  have hfields : (s.columns.map Column.fieldName).Nodup := h.map_fieldName ▸ h.attributes
  rw [← hc.fieldName]
  exact Schema.handle_fieldName hfields hcolumn

/-- The value of a column in an object is that of the attribute. -/
theorem valueOf (h : t.Describes key s) (hcolumn : column ∈ s.columns) (hc : c.HeldBy key column)
    (r : Record) : s.valueOf r c.name = .ok (r.attribute (key c)) := by
  rw [Schema.valueOf, ← hc.name, Schema.column_name h.nodup_columnNames hcolumn]
  show Except.ok (column.valueIn r) = _
  rw [Column.valueIn, hc.fieldName, Record.attribute]

theorem valueIn (hc : c.HeldBy key column) : column.valueIn r = r.attribute (key c) := by
  rw [Column.valueIn, hc.fieldName, Record.attribute]

/-! ## Columns of statements -/

/-- The declared columns that an object gives values for become those that an insert lists. -/
theorem forall₂_given (h : t.Describes key s) (r : Record) :
    List.Forall₂ (DeclaredColumn.HeldBy key) (t.columns.filter (r.gives key)) (r.given s) := by
  -- Which values are open is said by the schema, so the columns have to be known as its own.
  let InSchema (c : DeclaredColumn) (column : Column) : Prop :=
    c.HeldBy key column ∧ column ∈ s.columns
  have hcolumns : List.Forall₂ InSchema t.columns s.columns := by
    rw [List.forall₂_iff_zip]
    refine ⟨h.columns.length_eq, ?_⟩
    intro c column hmem
    exact ⟨List.forall₂_zip h.columns hmem, (List.of_mem_zip hmem).2⟩
  have hopen : Relator.LiftFun InSchema (· ↔ ·) (fun c => (r.gives key c : Prop))
      (fun column => ((!r.leavesOpen s column : Bool) : Prop)) := by
    rintro c column ⟨hheld, hmem⟩
    have hvalue := h.valueOf hmem hheld r
    rw [← hheld.name] at hvalue
    show r.gives key c = true ↔ (!r.leavesOpen s column) = true
    unfold Record.gives Record.leavesOpen
    rw [hvalue]
    cases r.attribute (key c) <;> simp
  exact (List.rel_filter hopen hcolumns).imp fun _ _ hc => hc.1

/-- The columns of the key become those of the schema's key. -/
theorem forall₂_key (h : t.Describes key s) :
    List.Forall₂ (DeclaredColumn.HeldBy key) t.keyColumns s.keyColumns := by
  apply h.forall₂_of_map_name t.keyColumns_subset s.keyColumns_subset
  have hdeclared : t.primaryKey ⊆ t.columnNames := by
    rw [← h.primaryKeys, ← h.map_name]
    exact s.keys_declared
  rw [s.map_name_keyColumns, h.primaryKeys, DeclaredTable.map_name_keyColumns hdeclared]

/-- The other columns become those that an update assigns. -/
theorem forall₂_plain (h : t.Describes key s) :
    List.Forall₂ (DeclaredColumn.HeldBy key) t.plainColumns s.plainColumns := by
  apply h.forall₂_of_map_name List.filter_sublist.subset s.plainColumns_subset
  rw [s.map_name_plainColumns, h.map_name, DeclaredTable.columnNames, List.filter_map,
    h.primaryKeys]
  congr 1
  apply List.filter_congr
  simp

/-- What is handed over for the columns of a schema is handed over for the declared ones. -/
theorem forall₂_receives (h : t.Describes key s) {check : Column → Value → Except Error Value}
    (hcheck : ∀ column v w, check column v = .ok w → column.validate v = .ok w)
    {cs : List DeclaredColumn} {columns : List Column} {values : List Value}
    (hsub : columns ⊆ s.columns) (hheld : List.Forall₂ (DeclaredColumn.HeldBy key) cs columns)
    (hvalues : r.checkedValues s check columns = .ok values) :
    List.Forall₂ (DeclaredColumn.Receives s r key) cs (values.map Value.toBind) := by
  have hchecked : List.Forall₂ (fun column w => column ∈ s.columns ∧
      column.validate (column.valueIn r) = .ok w) columns values := by
    refine List.forall₂_iff_zip.2 ⟨(Record.length_of_checkedValues hvalues).symm, ?_⟩
    intro column w hmem
    have hw := Record.eq_of_mem_zip_checkedValues h.nodup_columnNames hsub hvalues hmem
    exact ⟨hsub (List.of_mem_zip hmem).1, hcheck _ _ _ hw⟩
  rw [List.forall₂_map_right_iff]
  refine (forall₂_comp hheld hchecked).imp ?_
  rintro c w ⟨column, hc, hcolumn, hw⟩
  refine ⟨column, hcolumn, hc, w, ?_, rfl⟩
  rw [← valueIn hc]
  exact hw

end DeclaredTable.Describes

/-! ## Statements on objects -/

section Statements

variable {t : DeclaredTable} {key : DeclaredColumn → String} {s : Schema} {r : Record}
  {d : Dialect} {settings : Except Error Settings} {statement : Statement} {events : List Event}

/-- What is written for an insert lists the columns that the object gives values for. -/
theorem Record.text_of_insertLayout {f : Fragment} (h : r.insertLayout s d 1 = .ok f) :
    f.text d = d.insertText s (r.given s) := by
  obtain ⟨-, form, hform, rfl⟩ := exists_of_insertLayout h
  rw [Dialect.insertText, hform]

/-- An insert binds the value of every attribute that is given in the place of its column. -/
theorem DeclaredTable.Describes.insertRow (h : t.Describes key s)
    (hcompile : (Request.insertRow r s).compile settings d = .ok (some (statement, events))) :
    statement.sql = d.insertText s (r.given s) ∧
      List.Forall₂ (DeclaredColumn.Receives s r key) (t.columns.filter (r.gives key))
        statement.args := by
  obtain ⟨f, values, hlayout, hvalues, hsql, hargs, -⟩ := Request.exists_of_compile hcompile
  refine ⟨hsql.trans (Record.text_of_insertLayout hlayout), ?_⟩
  rw [hargs]
  exact h.forall₂_receives (fun _ _ _ hw => hw) (r.given_subset s) (h.forall₂_given r) hvalues

/-- An update binds the value of every attribute in the place of its column, the key last. -/
theorem DeclaredTable.Describes.updateRow (h : t.Describes key s)
    (hcompile : (Request.updateRow r s).compile settings d = .ok (some (statement, events))) :
    statement.sql = "UPDATE " ++ (Fragment.table s.identifier).text d ++ " SET " ++
        ", ".intercalate (d.equalities (s.plainColumns.map Column.name) 1) ++ " where " ++
        " AND ".intercalate (d.equalities s.primaryKeys (s.plainColumns.length + 1)) ∧
      List.Forall₂ (DeclaredColumn.Receives s r key) (t.plainColumns ++ t.keyColumns)
        statement.args := by
  obtain ⟨f, values, hlayout, hvalues, hsql, hargs, -⟩ := Request.exists_of_compile hcompile
  obtain rfl := Except.ok.inj hlayout
  refine ⟨hsql.trans (Record.text_updateLayout s d), ?_⟩
  have hsub : s.plainColumns ++ s.keyColumns ⊆ s.columns :=
    List.append_subset.2 ⟨s.plainColumns_subset, s.keyColumns_subset⟩
  have hcheck : ∀ column v w, s.check column v = .ok w → column.validate v = .ok w := by
    intro column v w hw
    unfold Schema.check Column.validateKey at hw
    split at hw
    · split at hw
      · cases hw
      · exact hw
    · exact hw
  rw [Record.bound_updateRow] at hvalues
  rw [hargs]
  exact h.forall₂_receives hcheck hsub (List.rel_append h.forall₂_plain h.forall₂_key) hvalues

end Statements

/-! ## The schema of a class and its statements -/

namespace MappedClass

variable {m : MappedClass} {a : MappedAttribute} {c : DeclaredColumn} {s : Schema}

/-- The name of the attribute that stands for a column; without one it is the column's own. -/
def keyOf (m : MappedClass) (c : DeclaredColumn) : String :=
  ((m.attributes.find? fun a => m.Maps a c).map MappedAttribute.key).getD c.name

/-- Whether each attribute goes by its own column, no matter how attributes and columns are named. -/
structure BoundByAttribute (m : MappedClass) (s : Schema) : Prop where
  columns : List.Forall₂ (DeclaredColumn.HeldBy m.keyOf) m.table.columns s.columns
  /-- The attribute's name leads to the handle of the column, and the column's name to its value. -/
  named : ∀ c ∈ m.table.columns, ∀ a ∈ m.attributes, m.Maps a c → m.keyOf c = a.key ∧
    ∃ column ∈ s.columns, c.Becomes column ∧
      s.handleNamed (.text a.key) = .ok ⟨column, some s.tableName⟩ ∧
      ∀ r, s.valueOf r c.name = .ok (r.attribute a.key)
  /-- Inserts list the columns whose attributes are given, and bind these. -/
  insertRow : ∀ r schema? choice session d statement, Command.schemaFor r schema? = .ok s →
    (outcome (dialect choice) session).1 = .ok d →
    (outcome ((Command.insertRow r schema?).compile choice) session).1 = .ok (some statement) →
    ∃ written,
      List.Forall₂ (DeclaredColumn.HeldBy m.keyOf) (m.table.columns.filter (r.gives m.keyOf))
        written ∧
      statement.sql = d.insertText s written ∧
      List.Forall₂ (DeclaredColumn.Receives s r m.keyOf)
        (m.table.columns.filter (r.gives m.keyOf)) statement.args
  /-- Updates assign all columns but those of the key, which they are found by. -/
  updateRow : ∀ r schema? choice session d statement, Command.schemaFor r schema? = .ok s →
    (outcome (dialect choice) session).1 = .ok d →
    (outcome ((Command.updateRow r schema?).compile choice) session).1 = .ok (some statement) →
    ∃ plain key, List.Forall₂ (DeclaredColumn.HeldBy m.keyOf) m.table.plainColumns plain ∧
      List.Forall₂ (DeclaredColumn.HeldBy m.keyOf) m.table.keyColumns key ∧
      statement.sql = "UPDATE " ++ (Fragment.table s.identifier).text d ++ " SET " ++
        ", ".intercalate (d.equalities (plain.map Column.name) 1) ++ " where " ++
        " AND ".intercalate (d.equalities (key.map Column.name) (plain.length + 1)) ∧
      List.Forall₂ (DeclaredColumn.Receives s r m.keyOf)
        (m.table.plainColumns ++ m.table.keyColumns) statement.args

namespace IsMapped

theorem keyOf_eq (h : m.IsMapped) (hc : c ∈ m.table.columns) (ha : a ∈ m.attributes)
    (hmaps : m.Maps a c) : m.keyOf c = a.key := by
  obtain ⟨found, hfound⟩ := Option.isSome_iff_exists.1
    (List.find?_isSome (p := fun a => decide (m.Maps a c)).2 ⟨a, ha, by simpa using hmaps⟩)
  obtain ⟨only, -, -, hunique⟩ := h.attributed c hc
  have hmaps' : m.Maps found c := by simpa using List.find?_some hfound
  have hsame : found = a :=
    (hunique found (List.mem_of_find?_eq_some hfound) hmaps').trans (hunique a ha hmaps).symm
  rw [keyOf, hfound, hsame]
  rfl

/-- Two columns have attributes of two names. -/
theorem nodup_map_keyOf (h : m.IsMapped) : (m.table.columns.map m.keyOf).Nodup := by
  have hcolumns : m.table.columns.Nodup := h.names.of_map
  refine hcolumns.map_on ?_
  intro c hc d hd hsame
  obtain ⟨a, ha, hac, -⟩ := h.attributed c hc
  obtain ⟨b, hb, hbd, -⟩ := h.attributed d hd
  rw [h.keyOf_eq hc ha hac, h.keyOf_eq hd hb hbd] at hsame
  obtain rfl := List.inj_on_of_nodup_map h.keys ha hb hsame
  exact h.single a ha c hc d hd hac hbd

/-- The schema of a class has every column held by its attribute if none of these is hidden. -/
theorem describes (h : m.IsMapped) (hkeys : ∀ a ∈ m.attributes, a.key ≠ "")
    (hfree : ∀ c ∈ m.table.columns, ∀ a ∈ m.attributes, m.Maps a c → ¬ m.Hides a c)
    (hcolumns : s.columns = m.table.columns.map m.column)
    (hprimary : s.primaryKeys = m.table.primaryKey) : m.table.Describes m.keyOf s where
  columns := by
    rw [hcolumns, List.forall₂_map_right_iff, List.forall₂_same]
    intro c hc
    obtain ⟨a, ha, hmaps, -⟩ := h.attributed c hc
    refine ⟨⟨rfl, rfl, rfl⟩, ?_⟩
    rw [h.keyOf_eq hc ha hmaps]
    exact (fieldName_eq_iff h hkeys ha hmaps).2 (hfree c hc a ha hmaps)
  primaryKeys := hprimary
  names := h.names
  attributes := h.nodup_map_keyOf

/-- A schema that has the columns of a class held by their attributes has them bound by these. -/
theorem boundByAttribute (h : m.IsMapped) (hdescribes : m.table.Describes m.keyOf s) :
    m.BoundByAttribute s where
  columns := hdescribes.columns
  named c hc a ha hmaps := by
    have hkey := h.keyOf_eq hc ha hmaps
    obtain ⟨column, hcolumn, hheld⟩ := hdescribes.exists_heldBy hc
    have hhandle := hdescribes.handleNamed hcolumn hheld
    have hvalue := hdescribes.valueOf hcolumn hheld
    rw [hkey] at hhandle
    simp only [hkey] at hvalue
    exact ⟨hkey, column, hcolumn, hheld.toBecomes, hhandle, hvalue⟩
  insertRow r schema? choice session d statement hschema hd hinsert := by
    obtain ⟨request, settings, events, hrequest, hcompile⟩ :=
      Command.exists_compile_of_outcome hd hinsert
    rw [Command.request_insertRow hschema] at hrequest
    obtain rfl := Except.ok.inj hrequest
    obtain ⟨hsql, hargs⟩ := hdescribes.insertRow hcompile
    exact ⟨r.given s, hdescribes.forall₂_given r, hsql, hargs⟩
  updateRow r schema? choice session d statement hschema hd hupdate := by
    obtain ⟨request, settings, events, hrequest, hcompile⟩ :=
      Command.exists_compile_of_outcome hd hupdate
    rw [Command.request_updateRow hschema] at hrequest
    obtain rfl := Except.ok.inj hrequest
    obtain ⟨hsql, hargs⟩ := hdescribes.updateRow hcompile
    refine ⟨s.plainColumns, s.keyColumns, hdescribes.forall₂_plain, hdescribes.forall₂_key, ?_,
      hargs⟩
    rw [s.map_name_keyColumns]
    exact hsql

/-- A column is read from its attribute in every object just if the attribute is its field. -/
theorem forall_valueOf_iff (h : m.IsMapped) (hc : c ∈ m.table.columns)
    (hcolumns : s.columns = m.table.columns.map m.column) :
    (∀ r, s.valueOf r c.name = .ok (r.attribute a.key)) ↔ (m.column c).fieldName = a.key := by
  have hnames : s.columnNames = m.table.columnNames := by
    rw [Schema.columnNames, hcolumns, List.map_map]
    rfl
  have hmem : m.column c ∈ s.columns := hcolumns ▸ List.mem_map_of_mem hc
  have hvalue (r : Record) : s.valueOf r c.name = .ok (r.attribute (m.column c).fieldName) := by
    rw [Schema.valueOf, ← show (m.column c).name = c.name from rfl,
      Schema.column_name (hnames ▸ h.names) hmem]
    rfl
  simp only [hvalue, Except.ok.injEq]
  constructor
  · intro hall
    by_contra hne
    -- An object with this attribute alone tells it from every other one.
    have hone := hall ⟨⟨"", none⟩, [(a.key, .null)]⟩
    have hother : ((m.column c).fieldName == a.key) = false := by simpa using hne
    simp [Record.attribute, List.lookup_cons, hother] at hone
  · intro hfield r
    rw [hfield]

/--
The schema of a class has the columns of its table, in their order, and the
primary key.  A column is read from the attribute that stands for it just if no
other attribute hides this one.  If none is hidden, the name of every attribute
leads to the handle of its column, what is read from an object for the column
is the attribute, and in inserts and updates of objects the value of each
attribute is bound in the place of its own column.  None is hidden in a class
whose attributes all stand for columns of its own table.  An attribute without a
name is left out of account in all this: no column with a name is read from it.
-/
theorem bound_by_attribute (h : m.IsMapped) : ∃ s, (Declaration.mapped m).schema = .ok s ∧
    s.identifier = m.table.identifier ∧ s.primaryKeys = m.table.primaryKey ∧
    List.Forall₂ DeclaredColumn.Becomes m.table.columns s.columns ∧
    ((∀ a ∈ m.attributes, a.key ≠ "") →
      (∀ c ∈ m.table.columns, ∀ a ∈ m.attributes, m.Maps a c →
        ((∀ r, s.valueOf r c.name = .ok (r.attribute a.key)) ↔ ¬ m.Hides a c)) ∧
      ((∀ c ∈ m.table.columns, ∀ a ∈ m.attributes, m.Maps a c → ¬ m.Hides a c) →
        m.BoundByAttribute s) ∧
      ((∀ a ∈ m.attributes, ∀ x ∈ a.columns, x.table = some m.table.identifier) →
        m.BoundByAttribute s)) ∧
    (∀ c ∈ m.table.columns, ∀ a ∈ m.attributes, m.Maps a c → a.key = "" → c.name ≠ "" →
      ¬ ∀ r, s.valueOf r c.name = .ok (r.attribute a.key)) := by
  obtain ⟨s, hs, hidentifier, hprimary, hcolumns⟩ := exists_schema h.primaryKey
  have hbecomes : List.Forall₂ DeclaredColumn.Becomes m.table.columns s.columns := by
    rw [hcolumns, List.forall₂_map_right_iff, List.forall₂_same]
    intro c _
    exact ⟨rfl, rfl, rfl⟩
  refine ⟨s, hs, hidentifier, hprimary, hbecomes, fun hkeys => ?_, ?unnamed⟩
  case unnamed =>
    intro c hc a _ _ hkey hname
    rw [h.forall_valueOf_iff hc hcolumns, hkey]
    exact fieldName_column_ne_empty hname
  have hfree (hnone : ∀ c ∈ m.table.columns, ∀ a ∈ m.attributes, m.Maps a c → ¬ m.Hides a c) :
      m.BoundByAttribute s :=
    h.boundByAttribute (h.describes hkeys hnone hcolumns hprimary)
  refine ⟨?exact, hfree, ?own⟩
  case exact =>
    intro c hc a ha hmaps
    rw [h.forall_valueOf_iff hc hcolumns]
    exact fieldName_eq_iff h hkeys ha hmaps
  case own =>
    intro hown
    exact hfree fun c hc a ha hmaps => not_hides_of_own h hc ha hmaps hown

/-- Locks with the numbers of their keys.  Two attributes are named like the other column. -/
def locks : MappedClass where
  table := {
    name := "locks"
    columns := [
      { name := "id", type := ⟨some ⟨[.integer]⟩, "INTEGER"⟩, nullable := some false },
      { name := "key", type := ⟨some ⟨[.text]⟩, "TEXT"⟩, nullable := some false },
      { name := "door", type := ⟨some ⟨[.text]⟩, "TEXT"⟩ }]
    primaryKey := ["key", "id"] }
  attributes := [
    ⟨"maker", [⟨some ["devices"], "name"⟩]⟩, ⟨"key", [⟨some ["locks"], "id"⟩]⟩,
    ⟨"id", [⟨some ["locks"], "key"⟩]⟩, ⟨"door", [⟨some ["locks"], "door"⟩]⟩]

/-- The columns of locks, as their schema has them. -/
def lockSchema : Schema where
  identifier := ["locks"]
  columns := [
    { name := "id", type := "int", nullable := false, field := some "key" },
    { name := "key", type := "text", nullable := false, field := some "id" },
    { name := "door", type := "text" }]
  primaryKeys := ["key", "id"]

/-- A lock without a door. -/
def lock : Record := ⟨⟨"Lock", none⟩, [("id", .text "A7"), ("key", .int 5)]⟩

/-- A session with the settings that hold where none are given. -/
def workshop : Session := { environment := { kept := some {} } }

theorem schema_locks : (Declaration.mapped locks).schema = .ok lockSchema := rfl

/-- The attributes of a lock are bound in the places of their columns. -/
theorem bound_by_attribute_locks : locks.IsMapped ∧ ∃ s,
    (Declaration.mapped locks).schema = .ok s ∧ s.primaryKeys = ["key", "id"] ∧
    (∃ h, s.handleNamed (.text "key") = .ok h ∧ h.column.name = "id") ∧
    s.valueOf lock "id" = .ok (.int 5) ∧
    ∃ statement, (outcome ((Command.insertRow lock (some s)).compile (.named "sqlite"))
        workshop).1 = .ok (some statement) ∧
      statement.sql = "INSERT INTO \"locks\" (\"id\", \"key\") VALUES (?, ?) RETURNING *" ∧
      statement.args = [.int 5, .text "A7"] ∧
      List.Forall₂ (DeclaredColumn.Receives s lock locks.keyOf) (locks.table.columns.take 2)
        statement.args := by
  have hlocks : locks.IsMapped :=
    ⟨by decide, by decide, by decide, by decide, by decide⟩
  have hkeys : ∀ a ∈ locks.attributes, a.key ≠ "" := by decide
  have hfree : ∀ c ∈ locks.table.columns, ∀ a ∈ locks.attributes, locks.Maps a c →
      ¬ locks.Hides a c := by decide
  refine ⟨hlocks, ?_⟩
  obtain ⟨s, hs, -, hprimary, -, hclass, -⟩ := hlocks.bound_by_attribute
  obtain ⟨-, hbound, -⟩ := hclass hkeys
  obtain rfl := Except.ok.inj (hs.symm.trans schema_locks)
  obtain ⟨-, column, -, hbecomes, hhandle, hvalue⟩ :=
    (hbound hfree).named locks.table.columns[0] (by decide) locks.attributes[1] (by decide)
      (by decide)
  have hinsert : (outcome ((Command.insertRow lock (some lockSchema)).compile (.named "sqlite"))
      workshop).1 = .ok (some
        ⟨"INSERT INTO \"locks\" (\"id\", \"key\") VALUES (?, ?) RETURNING *",
          [.int 5, .text "A7"], "sqlite"⟩) := rfl
  obtain ⟨written, -, -, hargs⟩ :=
    (hbound hfree).insertRow lock (some lockSchema) (.named "sqlite") workshop
      (.ofBuiltIn .sqlite) _ rfl rfl hinsert
  exact ⟨_, hs, hprimary, ⟨_, hhandle, hbecomes.name⟩, hvalue lock, _, hinsert, rfl, rfl, hargs⟩

/-- Reports are documents, whose title is another attribute for a column of the same name. -/
def reports : MappedClass where
  table := {
    name := "reports"
    columns := [
      { name := "id", type := ⟨some ⟨[.integer]⟩, "INTEGER"⟩, nullable := some false },
      { name := "title", type := ⟨some ⟨[.text]⟩, "TEXT"⟩ }]
    primaryKey := ["id"] }
  attributes := [
    ⟨"id", [⟨some ["reports"], "id"⟩, ⟨some ["documents"], "id"⟩]⟩,
    ⟨"doc_title", [⟨some ["documents"], "title"⟩]⟩, ⟨"title", [⟨some ["reports"], "title"⟩]⟩]

/-- A report with a title as a report and another one as a document. -/
def report : Record :=
  ⟨⟨"Report", none⟩, [("id", .int 7), ("doc_title", .text "scan"), ("title", .text "costs")]⟩

/-- The title of a report goes by the attribute for the title of the document. -/
theorem not_boundByAttribute_reports : reports.IsMapped ∧ ∃ s,
    (Declaration.mapped reports).schema = .ok s ∧
    s.valueOf report "title" = .ok (.text "scan") ∧ report.attribute "title" = .text "costs" ∧
    (outcome ((Command.insertRow report (some s)).compile (.named "sqlite")) workshop).1 =
      .ok (some ⟨"INSERT INTO \"reports\" (\"id\", \"title\") VALUES (?, ?) RETURNING *",
        [.int 7, .text "scan"], "sqlite"⟩) ∧
    ¬ reports.BoundByAttribute s := by
  refine ⟨⟨by decide, by decide, by decide, by decide, by decide⟩, _, rfl, rfl, rfl, rfl, ?_⟩
  intro hbound
  obtain ⟨-, column, -, -, -, hvalue⟩ :=
    hbound.named reports.table.columns[1] (by decide) reports.attributes[2] (by decide)
      (by decide)
  exact absurd (Value.text.inj (Except.ok.inj (hvalue report))) (by decide)

end IsMapped

end MappedClass

end SqlCompose
