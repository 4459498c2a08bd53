import Mathlib.Data.List.Nodup
import SqlCompose.Proofs.Query.Built
import SqlCompose.Proofs.Statement.Refusal

/-!
# Checks of the values of a row

Every value of an object's row is checked against its column.  Where one value
alone can fail its check, the row fails with the error of this check; where
all pass, there is a statement, which binds in the place of every column what
the check of its value gives (`Request.Binds`).

Columns are looked up by their names and by their fields; where neither are
repeated, a column is the one that is found.

## Main results

* `Record.checkedValues_error`, `Record.eq_of_mem_zip_checkedValues` — a row
  with one value that fails, and what stands where in a row that passes.
* `Request.refused_insertRow`, `Request.refused_updateRow`,
  `Request.refused_deleteRow` — the error for a row with a value that fails.
* `Request.accepted_insertRow`, `Request.accepted_updateRow`,
  `Request.accepted_deleteRow` — the statements on rows that pass.
-/

namespace SqlCompose

open Writing

/-! ## Checks of values -/

namespace Column

variable {c : Column} {v w : Value}

/-- What a value is refused for, and with what. -/
theorem eq_of_validate_error {e : Error} (h : c.validate v = .error e) :
    e = .valueMismatch c.name c.type v := by
  unfold validate at h
  split at h
  · cases h
  · split at h
    · cases h
    · cases h
      rfl

/-- A value that passes is not turned into NULL. -/
theorem isNull_of_validate (hv : v.isNull = false) (h : c.validate v = .ok w) :
    w.isNull = false := by
  unfold validate at h
  split at h
  · cases h
    exact hv
  · split at h
    · rename_i x hx
      cases h
      exact c.validator.isNull_of_coerce? hv hx
    · cases h

/-- NULL passes everywhere but in a key. -/
theorem validate_of_isNull (h : v.isNull = true) : c.validate v = .ok v := by
  rw [validate, if_pos (.inl h)]

/-- What passes is NULL just if it was. -/
theorem isNull_eq_of_validate (h : c.validate v = .ok w) : w.isNull = v.isNull := by
  cases hv : v.isNull with
  | false => exact isNull_of_validate hv h
  | true =>
      rw [validate_of_isNull hv] at h
      obtain rfl := Except.ok.inj h
      exact hv

/-- As a key a value is checked as anywhere else. -/
theorem validateKey_eq (hv : v.isNull = false) : c.validateKey v = c.validate v := by
  rw [validateKey, hv]
  rfl

end Column

namespace Schema

variable {s : Schema} {c : Column}

/-- Where names are not repeated, a column is the one with its name. -/
theorem column_name (hnames : s.columnNames.Nodup) (hc : c ∈ s.columns) :
    s.column c.name = .ok c := by
  obtain ⟨found, hfound⟩ := column_of_mem (name_mem_columnNames hc)
  have hsame : found.name = c.name := by
    unfold column at hfound
    split at hfound
    · rename_i d hd
      cases hfound
      exact name_of_find? hd
    · cases hfound
  have heq : found = c :=
    List.inj_on_of_nodup_map hnames (mem_of_column hfound) hc hsame
  rw [hfound, heq]

/-- Where fields are not repeated, the handle of a column's field is a handle of the column. -/
theorem handle_fieldName (hfields : (s.columns.map Column.fieldName).Nodup)
    (hc : c ∈ s.columns) : s.handle c.fieldName = .ok ⟨c, some s.tableName⟩ := by
  have hfound : s.columnForField c.fieldName = .ok c := by
    unfold columnForField
    split
    · rename_i d hd
      have hsame : d.fieldName = c.fieldName := by simpa using List.find?_some hd
      have heq : d = c :=
        List.inj_on_of_nodup_map hfields (List.mem_of_find?_eq_some hd) hc hsame
      rw [heq]
    · rename_i hnone
      exact absurd (List.find?_eq_none.1 hnone c hc) (by simp)
  rw [handle, hfound]
  rfl

end Schema

/-! ## Rows of objects -/

namespace Record

variable {r : Record} {s : Schema} {check : Column → Value → Except Error Value} {c : Column}
  {columns : List Column}

/-- Whether the values of all columns but one pass the check. -/
def FitsBut (r : Record) (check : Column → Value → Except Error Value) (c : Column)
    (columns : List Column) : Prop :=
  ∀ c' ∈ columns, c' ≠ c → ∃ w, check c' (c'.valueIn r) = .ok w

theorem checkedValue_eq (hnames : s.columnNames.Nodup) (hc : c ∈ s.columns)
    (check : Column → Value → Except Error Value) :
    r.checkedValue s check c = check c (c.valueIn r) := by
  rw [checkedValue, Schema.valueOf, Schema.column_name hnames hc]
  rfl

/-- Where one value alone does not pass, its error is that of the row. -/
theorem checkedValues_error (hnames : s.columnNames.Nodup) (hsub : columns ⊆ s.columns)
    (hfits : r.FitsBut check c columns) (hc : c ∈ columns) {e : Error}
    (he : check c (c.valueIn r) = .error e) : r.checkedValues s check columns = .error e := by
  refine mapM_error_of_others hc (fun c' hc' hne => ?_) ?_
  · rw [checkedValue_eq hnames (hsub hc')]
    exact hfits c' hc' hne
  · rw [checkedValue_eq hnames (hsub hc), he]

/-- Where all values pass, there is a row. -/
theorem exists_checkedValues (hnames : s.columnNames.Nodup) (hsub : columns ⊆ s.columns)
    (hfits : r.FitsBut check c columns) (hc : c ∈ columns → ∃ w, check c (c.valueIn r) = .ok w) :
    ∃ values, r.checkedValues s check columns = .ok values := by
  refine exists_mapM_of_forall fun c' hc' => ?_
  rw [checkedValue_eq hnames (hsub hc')]
  by_cases hsame : c' = c
  · subst hsame
    exact hc hc'
  · exact hfits c' hc' hsame

/-- In the place of a column a row has its checked value. -/
theorem eq_of_mem_zip_checkedValues (hnames : s.columnNames.Nodup) (hsub : columns ⊆ s.columns)
    {values : List Value} (h : r.checkedValues s check columns = .ok values) {w : Value}
    (hmem : (c, w) ∈ columns.zip values) : check c (c.valueIn r) = .ok w := by
  rw [← checkedValue_eq hnames (hsub (List.of_mem_zip hmem).1) check]
  exact eq_of_mem_zip_mapM h hmem

end Record

/-! ## Columns of a row -/

section Rows

variable {s : Schema} {c : Column} {r : Record} {v : Value}

theorem Schema.plainColumns_subset (s : Schema) : s.plainColumns ⊆ s.columns :=
  fun _ h => (List.mem_filter.1 h).1

theorem Schema.keyColumns_subset (s : Schema) : s.keyColumns ⊆ s.columns :=
  fun _ h => mem_of_keyColumns h

/-- A column is part of the key, or it is plain. -/
theorem Schema.mem_plainColumns_or_keyColumns (hnames : s.columnNames.Nodup)
    (hc : c ∈ s.columns) : c ∈ s.plainColumns ∨ c ∈ s.keyColumns := by
  by_cases hkey : c.name ∈ s.primaryKeys
  · right
    refine List.mem_filterMap.2 ⟨c.name, hkey, ?_⟩
    have hfound := column_name hnames hc
    unfold column at hfound
    split at hfound
    · rename_i found hfind
      cases hfound
      exact hfind
    · cases hfound
  · left
    exact List.mem_filter.2 ⟨hc, by simpa using hkey⟩

/-- A table with a column in its key has a key. -/
theorem Schema.primaryKeys_ne_nil (hc : c ∈ s.keyColumns) : s.primaryKeys ≠ [] := by
  obtain ⟨k, hk, -⟩ := List.mem_filterMap.1 hc
  exact List.ne_nil_of_mem hk

theorem Record.given_subset (r : Record) (s : Schema) : r.given s ⊆ s.columns :=
  fun _ h => (List.mem_filter.1 h).1

/-- The columns that an object has values for are those whose values were not left open. -/
theorem Record.mem_given_iff (hnames : s.columnNames.Nodup) (hc : c ∈ s.columns) :
    c ∈ r.given s ↔ c.valueIn r ≠ .unset := by
  have hopen : r.leavesOpen s c = true ↔ c.valueIn r = .unset := by
    rw [leavesOpen, Schema.valueOf, Schema.column_name hnames hc]
    simp only [Bind.bind, Except.bind]
    cases c.valueIn r <;> simp [pure, Except.pure]
  rw [given, List.mem_filter, ne_eq, ← hopen]
  simp [hc]

/-- A column with a value is not left open. -/
theorem Record.mem_given (hnames : s.columnNames.Nodup) (hc : c ∈ s.columns)
    (hvalue : c.valueIn r = v) (hv : v.isNull = false) : c ∈ r.given s := by
  rw [mem_given_iff hnames hc, hvalue]
  rintro rfl
  cases hv

theorem Record.FitsBut.mono {check : Column → Value → Except Error Value}
    {columns columns' : List Column} (h : r.FitsBut check c columns)
    (hsub : columns' ⊆ columns) : r.FitsBut check c columns' :=
  fun c' hc' hne => h c' (hsub hc') hne

end Rows

/-! ## What a request binds for a column -/

namespace Request

/-- The columns of an object's row that a request binds values for, in their order. -/
def rowColumns : Request → List Column
  | insertRow r s => r.given s
  | updateRow _ s => s.plainColumns ++ s.keyColumns
  | deleteRow _ s => s.keyColumns
  | _ => []

/--
Whether a request binds a value for a column of its table, in the place that
belongs to the column.
-/
inductive Binds (c : Column) (w : Value) : Request → Prop
  /-- The last of a query's own conditions compares the column with the value. -/
  | condition {q : Selection Query} {cs table} :
      q.conditions = cs ++ [.compare c.name .eq w false table] →
      (fetch q).bound = .ok (Clause.valuesAll cs ++ w :: Clause.valuesAll q.related) →
        Binds c w (fetch q)
  /-- The last assignment of an update assigns the value to the column. -/
  | assignment {u : Update} {cs table} :
      u.assignments = cs ++ [.assign c.name w table] →
      (update u).bound = .ok (Clause.valuesAll cs ++ w :: (Query.mk u.query).values) →
        Binds c w (update u)
  /-- In a row the value, and no other one, is in the place of the column. -/
  | row {request : Request} {values} :
      request.bound = .ok values → values.length = request.rowColumns.length →
      c ∈ request.rowColumns → (∀ w', (c, w') ∈ request.rowColumns.zip values → w' = w) →
        Binds c w request

end Request

/-! ## Statements on rows -/

namespace Request

variable {s : Schema} {c : Column} {v w : Value} {d : Dialect} {r : Record} {e : Error}

/-! ### Rows with a value that does not pass -/

/-- An object with a value that does not pass is not inserted. -/
theorem refused_insertRow (hnames : s.columnNames.Nodup) (hc : c ∈ s.columns)
    (hv : v.isNull = false) (he : c.validate v = .error e) (hvalue : c.valueIn r = v)
    (hfits : r.FitsBut Column.validate c s.columns) :
    ((insertRow r s).refusals d).head? = some e := by
  have hsub := r.given_subset s
  have herror : r.givenValues s = .error e :=
    Record.checkedValues_error hnames hsub (hfits.mono hsub)
      (Record.mem_given hnames hc hvalue hv) (hvalue ▸ he)
  rw [refusals, bound, herror]
  rfl

/-- An object with a value that does not pass is not stored, whether it is in the key or not. -/
theorem refused_updateRow (hnames : s.columnNames.Nodup) (hc : c ∈ s.columns)
    (hv : v.isNull = false) (he : c.validate v = .error e) (hkeys : s.primaryKeys ≠ [])
    (hcolumns : s.plainColumns ≠ []) (hvalue : c.valueIn r = v)
    (hplain : r.FitsBut Column.validate c s.plainColumns)
    (hkey : r.FitsBut Column.validateKey c s.keyColumns) :
    ((updateRow r s).refusals d).head? = some e := by
  subst hvalue
  rw [refusals, if_neg (mt List.isEmpty_iff.1 hkeys), if_neg (mt List.isEmpty_iff.1 hcolumns),
    bound]
  -- The values of the plain columns are checked first, and those of the key only after them.
  by_cases hmem : c ∈ s.plainColumns
  · have herror : r.plainValues s = .error e :=
      Record.checkedValues_error hnames s.plainColumns_subset hplain hmem he
    rw [herror]
    rfl
  · have hmemKey : c ∈ s.keyColumns :=
      (Schema.mem_plainColumns_or_keyColumns hnames hc).resolve_left hmem
    obtain ⟨values, hvalues⟩ : ∃ values, r.plainValues s = .ok values :=
      Record.exists_checkedValues hnames s.plainColumns_subset hplain
        fun hplainMem => absurd hplainMem hmem
    have herror : r.keyValues s = .error e :=
      Record.checkedValues_error hnames s.keyColumns_subset hkey hmemKey
        ((Column.validateKey_eq hv).trans he)
    rw [hvalues, herror]
    rfl

/-- An object whose key does not pass is not deleted. -/
theorem refused_deleteRow (hnames : s.columnNames.Nodup) (hv : v.isNull = false)
    (he : c.validate v = .error e) (hmem : c ∈ s.keyColumns) (hvalue : c.valueIn r = v)
    (hkey : r.FitsBut Column.validateKey c s.keyColumns) :
    ((deleteRow r s).refusals d).head? = some e := by
  subst hvalue
  have herror : r.keyValues s = .error e :=
    Record.checkedValues_error hnames s.keyColumns_subset hkey hmem
      ((Column.validateKey_eq hv).trans he)
  rw [refusals, if_neg (mt List.isEmpty_iff.1 (Schema.primaryKeys_ne_nil hmem)), bound, herror]
  rfl

/-! ### Rows in which all values pass -/

/-- A row in which all values pass binds for the column what the check of its value gives. -/
private theorem binds_row {request : Request} {values : List Value}
    (hbound : request.bound = .ok values) (hlength : values.length = request.rowColumns.length)
    (hmem : c ∈ request.rowColumns)
    (hzip : ∀ w', (c, w') ∈ request.rowColumns.zip values → c.validate v = .ok w')
    (hw : c.validate v = .ok w) : request.Binds c w :=
  .row hbound hlength hmem fun w' hw' => Except.ok.inj ((hzip w' hw').symm.trans hw)

/-- An object whose values pass is inserted, where the dialect can hand the row back. -/
theorem accepted_insertRow (hnames : s.columnNames.Nodup)
    (hc : c ∈ s.columns) (hv : v.isNull = false) (hw : c.validate v = .ok w)
    (hreturn : d.rowReturn? ≠ none) (hvalue : c.valueIn r = v)
    (hfits : r.FitsBut Column.validate c s.columns) :
    (Request.insertRow r s).refusals d = [] ∧ (Request.insertRow r s).Binds c w := by
  have hsub := r.given_subset s
  have hgiven := Record.mem_given hnames hc hvalue hv
  obtain ⟨values, hvalues⟩ : ∃ values, r.givenValues s = .ok values :=
    Record.exists_checkedValues hnames hsub (hfits.mono hsub) fun _ => ⟨w, hvalue ▸ hw⟩
  have hlayout : faultsOf (r.insertLayout s d 1) = [] := by
    have hsome : ¬ (r.given s).isEmpty = true := mt List.isEmpty_iff.1 (List.ne_nil_of_mem hgiven)
    rw [Record.insertLayout, if_neg hsome, Dialect.insertion]
    cases hform : d.rowReturn? with
    | none => exact absurd hform hreturn
    | some form => rfl
  constructor
  · rw [Request.refusals, Request.bound, hvalues, hlayout]
    rfl
  · refine binds_row hvalues (Record.length_of_checkedValues hvalues) hgiven (fun w' hw' => ?_) hw
    rw [← hvalue]
    exact Record.eq_of_mem_zip_checkedValues hnames hsub hvalues hw'

/-- An object whose values pass is stored by its key. -/
theorem accepted_updateRow (hnames : s.columnNames.Nodup)
    (hc : c ∈ s.columns) (hv : v.isNull = false) (hw : c.validate v = .ok w)
    (hkeys : s.primaryKeys ≠ []) (hcolumns : s.plainColumns ≠ []) (hvalue : c.valueIn r = v)
    (hplain : r.FitsBut Column.validate c s.plainColumns)
    (hkey : r.FitsBut Column.validateKey c s.keyColumns) :
    (Request.updateRow r s).refusals d = [] ∧ (Request.updateRow r s).Binds c w := by
  subst hvalue
  obtain ⟨values, hvalues⟩ : ∃ values, r.plainValues s = .ok values :=
    Record.exists_checkedValues hnames s.plainColumns_subset hplain fun _ => ⟨w, hw⟩
  obtain ⟨keys, hkeyValues⟩ : ∃ keys, r.keyValues s = .ok keys :=
    Record.exists_checkedValues hnames s.keyColumns_subset hkey fun _ =>
      ⟨w, (Column.validateKey_eq hv).trans hw⟩
  have hbound : (Request.updateRow r s).bound = .ok (values ++ keys) := by
    rw [Request.bound, hvalues, hkeyValues]
    rfl
  have hlength := Record.length_of_checkedValues hvalues
  constructor
  · rw [Request.refusals, if_neg (mt List.isEmpty_iff.1 hkeys),
      if_neg (mt List.isEmpty_iff.1 hcolumns), hbound]
    rfl
  · refine binds_row hbound ?_ ?_ (fun w' hw' => ?_) hw
    · rw [Request.rowColumns, List.length_append, List.length_append, hlength,
        Record.length_of_checkedValues hkeyValues]
    · exact List.mem_append.2 (Schema.mem_plainColumns_or_keyColumns hnames hc)
    · rw [Request.rowColumns, List.zip_append hlength.symm] at hw'
      rcases List.mem_append.1 hw' with hw' | hw'
      · exact Record.eq_of_mem_zip_checkedValues hnames s.plainColumns_subset hvalues hw'
      · rw [← Column.validateKey_eq hv]
        exact Record.eq_of_mem_zip_checkedValues hnames s.keyColumns_subset hkeyValues hw'

/-- An object whose key passes is deleted. -/
theorem accepted_deleteRow (hnames : s.columnNames.Nodup)
    (hv : v.isNull = false) (hw : c.validate v = .ok w) (hmem : c ∈ s.keyColumns)
    (hvalue : c.valueIn r = v) (hkey : r.FitsBut Column.validateKey c s.keyColumns) :
    (Request.deleteRow r s).refusals d = [] ∧ (Request.deleteRow r s).Binds c w := by
  subst hvalue
  have hsub := s.keyColumns_subset
  obtain ⟨keys, hkeyValues⟩ : ∃ keys, r.keyValues s = .ok keys :=
    Record.exists_checkedValues hnames hsub hkey fun _ =>
      ⟨w, (Column.validateKey_eq hv).trans hw⟩
  constructor
  · rw [Request.refusals, if_neg (mt List.isEmpty_iff.1 (Schema.primaryKeys_ne_nil hmem)),
      Request.bound, hkeyValues]
    rfl
  · refine binds_row hkeyValues (Record.length_of_checkedValues hkeyValues) hmem
      (fun w' hw' => ?_) hw
    rw [← Column.validateKey_eq hv]
    exact Record.eq_of_mem_zip_checkedValues hnames hsub hkeyValues hw'

end Request

end SqlCompose
