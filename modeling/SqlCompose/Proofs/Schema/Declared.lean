import Mathlib.Data.List.Forall2
import Mathlib.Data.List.Induction
import Mathlib.Data.List.Nodup
import SqlCompose.Schema.Declared

/-!
# The schema of a mapped class

A class comes with a table and with attributes that stand for columns, of this
table or, where they are inherited, of others.  The schema keeps an attribute
as the field of every column that has the name of one of its columns, unless
the attribute has this name itself; where there are several the last counts
(`MappedClass.lookup_fields`).

So of two attributes with columns of one name, in two tables, one hides the
other.  Which one it is depends on their names and on their order
(`MappedClass.Hides`).

## Main results

* `MappedClass.exists_schema` — the schema of a class, with the columns of its
  table and its primary key.
* `MappedClass.fieldName_eq_iff` — the attribute that stands for a column is
  the column's field just if no other attribute hides it.
-/

namespace SqlCompose

/-! ## Lists of columns, one by one -/

/-- What is the same in the members of two lists, one by one, is the same in the lists. -/
theorem map_eq_of_forall₂ {α β γ : Type} {f : α → γ} {g : β → γ} {xs : List α} {ys : List β}
    (h : List.Forall₂ (fun x y => g y = f x) xs ys) : ys.map g = xs.map f := by
  induction h with
  | nil => rfl
  | cons hxy _ ih => rw [List.map_cons, List.map_cons, hxy, ih]

/-- Two relations between lists, one after the other. -/
theorem forall₂_comp {α β γ : Type} {R : α → β → Prop} {S : β → γ → Prop} {xs : List α}
    {ys : List β} {zs : List γ} (h : List.Forall₂ R xs ys) (h' : List.Forall₂ S ys zs) :
    List.Forall₂ (fun x z => ∃ y, R x y ∧ S y z) xs zs := by
  induction h generalizing zs with
  | nil =>
      cases h'
      exact .nil
  | cons hxy _ ih =>
      cases h' with
      | cons hyz hrest => exact .cons ⟨_, hxy, hyz⟩ (ih hrest)

/-! ## Which attributes are kept -/

/-- Whether an attribute has a column of that name, which is not its own name. -/
def MappedAttribute.Renames (a : MappedAttribute) (name : String) : Prop :=
  a.key ≠ name ∧ ∃ c ∈ a.columns, c.name = name

instance (a : MappedAttribute) (name : String) : Decidable (a.Renames name) := by
  unfold MappedAttribute.Renames
  infer_instance

/-- An attribute is kept for the names that it renames, before what was kept for them. -/
theorem MappedAttribute.lookup_addTo (a : MappedAttribute) (names : List (String × String))
    (name : String) :
    (a.addTo names).lookup name = if a.Renames name then some a.key else names.lookup name := by
  have hcolumns : ∀ (cs : List MappedColumn) (names : List (String × String)),
      (cs.foldl (fun names c => if c.name ≠ a.key then (c.name, a.key) :: names else names)
        names).lookup name =
        if a.key ≠ name ∧ ∃ c ∈ cs, c.name = name then some a.key else names.lookup name := by
    intro cs
    induction cs with
    | nil => simp
    | cons c rest ih =>
        intro names
        rw [List.foldl_cons, ih]
        by_cases hkey : c.name = a.key
        · rw [if_neg (not_not.2 hkey)]
          refine if_congr (and_congr_right fun hne => ?_) rfl rfl
          rw [List.exists_mem_cons_iff]
          exact (or_iff_right (hkey ▸ hne)).symm
        · rw [if_pos hkey]
          by_cases hname : c.name = name
          · subst hname
            simp [Ne.symm hkey]
          · have hother : (name == c.name) = false := by simpa using Ne.symm hname
            simp only [List.lookup_cons, hother, List.exists_mem_cons_iff, hname, false_or]
  exact hcolumns a.columns names

namespace MappedClass

variable {m : MappedClass} {a b : MappedAttribute} {c d : DeclaredColumn}

/-- The field for a name is the last of the attributes that rename it. -/
theorem lookup_fields (m : MappedClass) (name : String) : m.fields.lookup name =
    ((m.attributes.filter (·.Renames name)).getLast?).map MappedAttribute.key := by
  unfold fields
  induction m.attributes using List.reverseRecOn with
  | nil => rfl
  | append_singleton attributes a ih =>
      rw [List.foldl_concat, MappedAttribute.lookup_addTo, ih, List.filter_append]
      by_cases hrenames : a.Renames name
      · simp [hrenames]
      · simp [hrenames]

/-- Whether an attribute stands for a column of the class's table. -/
def Maps (m : MappedClass) (a : MappedAttribute) (c : DeclaredColumn) : Prop :=
  ⟨some m.table.identifier, c.name⟩ ∈ a.columns

instance (m : MappedClass) (a : MappedAttribute) (c : DeclaredColumn) : Decidable (m.Maps a c) := by
  unfold Maps
  infer_instance

/--
Whether another attribute takes the place of an attribute as the field of a
column: it renames columns of that name, and it comes later, or the attribute
is named like the column and is not kept itself.
-/
def Hides (m : MappedClass) (a : MappedAttribute) (c : DeclaredColumn) : Prop :=
  ∃ b ∈ m.attributes, b ≠ a ∧ b.Renames c.name ∧
    (a.key = c.name ∨ [a, b].Sublist m.attributes)

instance (m : MappedClass) (a : MappedAttribute) (c : DeclaredColumn) :
    Decidable (m.Hides a c) := by
  unfold Hides
  infer_instance

/--
A class whose table has columns of different names, each of which has an
attribute of its own.  Attributes have different names too; other attributes
may stand for columns of other tables.  The primary key is one of the table.
-/
structure IsMapped (m : MappedClass) : Prop where
  names : m.table.columnNames.Nodup
  keys : (m.attributes.map MappedAttribute.key).Nodup
  attributed : ∀ c ∈ m.table.columns, ∃ a ∈ m.attributes, m.Maps a c ∧
    ∀ b ∈ m.attributes, m.Maps b c → b = a
  single : ∀ a ∈ m.attributes, ∀ c ∈ m.table.columns, ∀ d ∈ m.table.columns,
    m.Maps a c → m.Maps a d → c = d
  primaryKey : m.table.primaryKey ⊆ m.table.columnNames

/-- The last of the attributes that rename a name comes after all others that do. -/
theorem sublist_of_getLast? {attributes : List MappedAttribute} {name : String}
    (hb : (attributes.filter (·.Renames name)).getLast? = some b) (ha : a ∈ attributes)
    (hrenames : a.Renames name) (hne : b ≠ a) : [a, b].Sublist attributes := by
  obtain ⟨before, hfilter⟩ := List.getLast?_eq_some_iff.1 hb
  have hmem : a ∈ attributes.filter (·.Renames name) := by simp [ha, hrenames]
  rw [hfilter, List.mem_append, List.mem_singleton] at hmem
  have hbefore : a ∈ before := hmem.resolve_right (Ne.symm hne)
  have hpair : [a, b].Sublist (before ++ [b]) :=
    (List.singleton_sublist.2 hbefore).append (List.Sublist.refl [b])
  rw [← hfilter] at hpair
  exact hpair.trans List.filter_sublist

/-- No attribute that renames a name comes after the last of these. -/
theorem not_sublist_of_getLast? {attributes : List MappedAttribute} {name : String}
    (hnodup : attributes.Nodup) (ha : (attributes.filter (·.Renames name)).getLast? = some a)
    (hrenames : b.Renames name) : ¬ [a, b].Sublist attributes := by
  intro hpair
  obtain ⟨before, hfilter⟩ := List.getLast?_eq_some_iff.1 ha
  have harenames : a.Renames name := by
    have hmem : a ∈ attributes.filter (·.Renames name) := by simp [hfilter]
    simpa using (List.mem_filter.1 hmem).2
  have hkept := hpair.filter (·.Renames name)
  rw [List.filter_cons_of_pos (by simpa using harenames),
    List.filter_cons_of_pos (by simpa using hrenames), List.filter_nil, hfilter] at hkept
  have hlast : (before ++ [a]).Nodup := hfilter ▸ hnodup.filter _
  obtain ⟨first, rest, hsplit, hfirst, hrest⟩ := List.sublist_append_iff.1 hkept
  cases first with
  | nil =>
      rw [List.nil_append] at hsplit
      rw [← hsplit] at hrest
      exact absurd hrest.length_le (by simp)
  | cons x first =>
      obtain ⟨rfl, -⟩ := List.cons.inj hsplit
      exact List.disjoint_of_nodup_append hlast (hfirst.subset List.mem_cons_self)
        List.mem_cons_self

/-! ## The columns of the schema -/

/-- The column of the schema that a column of the table becomes. -/
def column (m : MappedClass) (c : DeclaredColumn) : Column := c.column (m.fields.lookup c.name)

/-- A column is held by the attribute that is kept for its name. -/
theorem fieldName_column_of_getLast? (hkey : b.key ≠ "")
    (hb : (m.attributes.filter (·.Renames c.name)).getLast? = some b) :
    (m.column c).fieldName = b.key := by
  have hsome : b.key.isEmpty = false := by simpa using hkey
  rw [column, lookup_fields, hb]
  simp [DeclaredColumn.column, Column.fieldName, hsome]

/-- Where none is kept a column is held by the attribute that is named like it. -/
theorem fieldName_column_of_forall (hnone : ∀ b ∈ m.attributes, ¬ b.Renames c.name) :
    (m.column c).fieldName = c.name := by
  have hfilter : m.attributes.filter (·.Renames c.name) = [] := by
    simpa [List.filter_eq_nil_iff] using hnone
  rw [column, lookup_fields, hfilter]
  rfl

/-- No column with a name is held by an attribute without one. -/
theorem fieldName_column_ne_empty (hname : c.name ≠ "") : (m.column c).fieldName ≠ "" := by
  cases hfield : m.fields.lookup c.name with
  | none => simpa [column, DeclaredColumn.column, Column.fieldName, hfield] using hname
  | some key =>
      by_cases hkey : key = ""
      · simpa [column, DeclaredColumn.column, Column.fieldName, hfield, hkey] using hname
      · simp [column, DeclaredColumn.column, Column.fieldName, hfield, hkey]

/-- The attribute of a column is its field just if no other attribute hides it. -/
theorem fieldName_eq_iff (h : m.IsMapped) (hkeys : ∀ a ∈ m.attributes, a.key ≠ "")
    (ha : a ∈ m.attributes) (hmaps : m.Maps a c) :
    (m.column c).fieldName = a.key ↔ ¬ m.Hides a c := by
  have hnodup : m.attributes.Nodup := h.keys.of_map
  cases hlast : (m.attributes.filter (·.Renames c.name)).getLast? with
  | none =>
      have hnone : ∀ b ∈ m.attributes, ¬ b.Renames c.name := by
        simpa [List.getLast?_eq_none_iff, List.filter_eq_nil_iff] using hlast
      have hkey : a.key = c.name := by
        by_contra hne
        exact hnone a ha ⟨hne, _, hmaps, rfl⟩
      rw [fieldName_column_of_forall hnone, hkey]
      refine iff_of_true rfl ?_
      rintro ⟨b, hb, -, hrenames, -⟩
      exact hnone b hb hrenames
  | some b =>
      have hmem : b ∈ m.attributes.filter (·.Renames c.name) := List.mem_of_getLast? hlast
      obtain ⟨hb, hrenames⟩ := List.mem_filter.1 hmem
      rw [decide_eq_true_eq] at hrenames
      rw [fieldName_column_of_getLast? (hkeys b hb) hlast]
      constructor
      · intro hsame
        obtain rfl : b = a := List.inj_on_of_nodup_map h.keys hb ha hsame
        rintro ⟨d, hd, -, hother, hkey | hlater⟩
        · exact hrenames.1 hkey
        · exact not_sublist_of_getLast? hnodup hlast hother hlater
      · intro hfree
        by_contra hne
        have hdiffers : b ≠ a := fun hsame => hne (congrArg MappedAttribute.key hsame)
        refine hfree ⟨b, hb, hdiffers, hrenames, ?_⟩
        by_cases hkey : a.key = c.name
        · exact .inl hkey
        · exact .inr (sublist_of_getLast? hlast ha ⟨hkey, _, hmaps, rfl⟩ hdiffers)

/-- An attribute with columns of the class's table alone hides none of another column. -/
theorem not_hides_of_own (h : m.IsMapped) (hc : c ∈ m.table.columns) (ha : a ∈ m.attributes)
    (hmaps : m.Maps a c)
    (hown : ∀ b ∈ m.attributes, ∀ x ∈ b.columns, x.table = some m.table.identifier) :
    ¬ m.Hides a c := by
  rintro ⟨b, hb, hne, ⟨-, x, hx, hname⟩, -⟩
  have hboth : m.Maps b c := by
    show (⟨some m.table.identifier, c.name⟩ : MappedColumn) ∈ b.columns
    rw [← hown b hb x hx, ← hname]
    exact hx
  obtain ⟨found, -, -, hunique⟩ := h.attributed c hc
  exact hne ((hunique b hb hboth).trans (hunique a ha hmaps).symm)

end MappedClass

/-- What a declared column becomes in a schema, whatever holds its value. -/
structure DeclaredColumn.Becomes (c : DeclaredColumn) (column : Column) : Prop where
  name : column.name = c.name
  type : column.type = c.type.tag
  nullable : column.nullable = (c.nullable != some false)

namespace MappedClass

variable {m : MappedClass}

/-- The schema of a class has the columns of its table and the primary key, in their orders. -/
theorem exists_schema (hkey : m.table.primaryKey ⊆ m.table.columnNames) :
    ∃ s, (Declaration.mapped m).schema = .ok s ∧ s.identifier = m.table.identifier ∧
      s.primaryKeys = m.table.primaryKey ∧ s.columns = m.table.columns.map m.column := by
  have hdeclared : ∀ k ∈ m.table.primaryKey,
      k ∈ (m.table.columns.map m.column).map Column.name := by
    rw [List.map_map]
    exact hkey
  refine ⟨⟨m.table.identifier, m.table.columns.map m.column, m.table.primaryKey, hdeclared⟩,
    ?_, rfl, rfl, rfl⟩
  show (Description.schemaOfParts m.table.identifier (m.table.columns.map m.column)
    m.table.primaryKey).mapError Error.invalid = _
  rw [Description.schemaOfParts, dif_pos hdeclared]
  rfl

end MappedClass

end SqlCompose
