import SqlCompose.Proofs.Statement.Count
import SqlCompose.Proofs.Statement.Label
import SqlCompose.Proofs.Statement.Reading

/-!
# Identifiers are read back

A reader of a compiled statement without manual fragments finds identifiers
where names were written and nowhere else, and they are the names of the
request's labels in their order.  Which names they are has no part in
anything else: where tables and columns go by other names, the statement has
the other names in the same places, and all other tokens and the values stay.

That a request by other names is compiled as well is part of the statement:
columns are looked up by name while it is written, the key among them, and
the columns that an object leaves open.

## Main results

* `Request.exists_rewritten` — what is written for a request by other names,
  for each kind of request.
* `Request.identifiers_of_compile` — the reader's view of both statements.
-/

namespace SqlCompose

open Fragment Writing

variable {ρ : Relabeling} {b : BuiltIn}

/-! ## Statements on queries -/

namespace Selection

/-- The names in a list of rows. -/
def rowsLabels (s : Selection Query) (columns : List Label) (order : List OrderItem) :
    List Label :=
  columns ++ (s.schema.tableLabels ++
    ((Query.mk s).labels [] ++ { s with order }.orderLabels))

theorem faults_relabel {s : Selection Query} (h : (Query.mk s).faults (.ofBuiltIn b) = []) :
    (Query.mk (s.relabel ρ)).faults (.ofBuiltIn b) = [] := by
  have hlength := ((Query.mk s).isKept ρ b).faults
  rw [h, Query.relabel_mk] at hlength
  exact List.length_eq_zero_iff.1 hlength

theorem values_relabel (ρ : Relabeling) (s : Selection Query) :
    (Query.mk (s.relabel ρ)).values = (Query.mk s).values := by
  rw [← Query.relabel_mk]
  exact ((Query.mk s).isKept ρ .sqlite).values

theorem length_subqueries_relabel (ρ : Relabeling) (s : Selection Query) :
    (Query.mk (s.relabel ρ)).subqueries.length = (Query.mk s).subqueries.length := by
  rw [← Query.relabel_mk]
  exact ((Query.mk s).isKept ρ .sqlite).subqueries

theorem areRelabeled_layoutParts (ρ : Relabeling) {s : Selection Query}
    (h : (Query.mk s).faults (.ofBuiltIn b) = []) {front : List Label} {q q' : Qualifier}
    (hq : Qualifier.IsRelabeled ρ front q q') (issued aliases : Nat) :
    AreRelabeled ρ ((Query.mk s).labels front)
      (Query.layoutParts (.ofBuiltIn b) q issued aliases (.mk s))
      (Query.layoutParts (.ofBuiltIn b) q' issued aliases (.mk (s.relabel ρ))) := by
  rw [← Query.relabel_mk]
  exact ((Query.mk s).isKept ρ b).layout h front q q' hq issued aliases

/-- A list of rows of a table by another name. -/
theorem isRelabeled_rowsLayout {s : Selection Query}
    (h : (Query.mk s).faults (.ofBuiltIn b) = []) {labels : List Label}
    {columns columns' : Fragment} (hcolumns : IsRelabeled ρ labels columns columns')
    (order : List OrderItem) (issued aliases : Nat) :
    IsRelabeled ρ (s.rowsLabels labels order)
      (s.rowsLayout (.ofBuiltIn b) columns order issued aliases)
      ((s.relabel ρ).rowsLayout (.ofBuiltIn b) columns'
        ({ s with order }.relabel ρ).order issued aliases) := by
  have hself := Qualifier.isRelabeled_tableAlias (ρ := ρ) (aliases + 1)
  exact hcolumns.rowsFrom s.schema (aliases + 1)
    (areRelabeled_layoutParts ρ h hself issued (aliases + 1)).conjunction
    (isRelabeled_tail hself (.ofBuiltIn b) { s with order })

/-- The rows of a table by another name. -/
theorem isRelabeled_fetchLayout {s : Selection Query}
    (h : (Query.mk s).faults (.ofBuiltIn b) = []) (issued aliases : Nat) :
    IsRelabeled ρ (s.rowsLabels (s.schema.columnLabels s.schema.columns) s.order)
      (s.fetchLayout (.ofBuiltIn b) issued aliases)
      ((s.relabel ρ).fetchLayout (.ofBuiltIn b) issued aliases) :=
  isRelabeled_rowsLayout h ((Qualifier.isRelabeled_tableAlias (aliases + 1)).columns s.schema
    s.schema.columns ", ") s.order issued aliases

/-- A column to list rows by is there under any name. -/
theorem listingColumn_relabel {s : Schema} {c : Column} (h : listingColumn s = .ok c) :
    listingColumn (s.relabel ρ) = .ok (c.relabel (ρ.column s)) := by
  unfold listingColumn at h ⊢
  rw [Schema.keyColumns_relabel, Schema.columns_relabel, ← List.map_append]
  split at h
  · rename_i hcolumns
    cases h
    rw [hcolumns]
    rfl
  · cases h

/-- The names in what counts rows. -/
def countLabels (s : Selection Query) : List Label :=
  if s.isPaged then
    s.rowsLabels [.column s.schema (listingName s.schema)] s.order
  else s.rowsLabels [] []

/-- Why the rows of a table cannot be counted is no matter of names. -/
theorem countFaults_relabel {s : Selection Query} (h : s.countFaults (.ofBuiltIn b) = []) :
    (s.relabel ρ).countFaults (.ofBuiltIn b) = [] := by
  unfold countFaults at h ⊢
  obtain ⟨hown, hquery⟩ := List.append_eq_nil_iff.1 h
  rw [faults_relabel hquery, List.append_nil, isPaged_relabel, schema_relabel]
  split at hown
  · rename_i hpaged
    rw [if_pos hpaged]
    cases hlisting : listingColumn s.schema with
    | error e =>
        rw [hlisting] at hown
        cases hown
    | ok c => rw [listingColumn_relabel hlisting]
  · rename_i hpaged
    rw [if_neg hpaged]

/-- What counts the rows of a table by another name. -/
theorem isRelabeled_countLayout {s : Selection Query} (h : s.countFaults (.ofBuiltIn b) = [])
    (issued aliases : Nat) :
    IsRelabeled ρ s.countLabels (s.countLayout (.ofBuiltIn b) issued aliases)
      ((s.relabel ρ).countLayout (.ofBuiltIn b) issued aliases) := by
  obtain ⟨hown, hquery⟩ := List.append_eq_nil_iff.1 h
  unfold countLayout countLabels
  rw [isPaged_relabel]
  split
  · rename_i hpaged
    obtain ⟨c, hlisting⟩ : ∃ c, listingColumn s.schema = .ok c := by
      cases hlisting : listingColumn s.schema with
      | error e => simp [hpaged, hlisting] at hown
      | ok c => exact ⟨c, rfl⟩
    have hname : listingName (s.relabel ρ).schema = ρ.column s.schema (listingName s.schema) := by
      rw [listingName_of_listingColumn hlisting, schema_relabel,
        listingName_of_listingColumn (listingColumn_relabel hlisting), Column.name_relabel]
    have hlist := isRelabeled_rowsLayout (ρ := ρ) hquery
      (Qualifier.isRelabeled_tableAlias (aliases + 1) (.column s.schema (listingName s.schema)))
      s.order issued aliases
    rw [length_subqueries_relabel, listLayout, listLayout, hname]
    exact (((hlist.word " FROM ( ").word countWords).word "SELECT ").closed rfl
  · exact isRelabeled_rowsLayout hquery (isRelabeled_of_names_eq_nil rfl) [] issued aliases

end Selection

namespace Update

/-- The names in an update. -/
def labels (u : Update) : List Label :=
  u.query.schema.tableLabels ++ (Clause.labelsAll u.query.schema [] u.assignments ++
    if u.query.isPaged then u.member.labels u.query.schema u.query.schema.tableLabels
    else (Query.mk u.query).labels u.query.schema.tableLabels)

theorem member_relabel (u : Update) :
    (u.relabel ρ).member = u.member.relabel ρ u.query.schema := by
  rw [member, member, Clause.relabel, Query.relabel_mk]
  rfl

theorem values_relabel (ρ : Relabeling) (u : Update) : (u.relabel ρ).values = u.values := by
  have hassign := (Clause.areKept ρ .sqlite u.query.schema u.assignments).values
  unfold values
  rw [assignments_relabel, query_relabel, hassign, Selection.values_relabel]

/-- Why the rows of a table cannot be updated is no matter of names. -/
theorem faults_relabel {u : Update} (h : u.faults (.ofBuiltIn b) = []) :
    (u.relabel ρ).faults (.ofBuiltIn b) = [] := by
  obtain ⟨hassign, hrows⟩ := List.append_eq_nil_iff.1 h
  have hassign' := (Clause.areKept ρ b u.query.schema u.assignments).faults
  rw [hassign] at hassign'
  have hmember := (u.member.isKept ρ b).faults u.query.schema
  unfold faults
  refine List.append_eq_nil_iff.2 ⟨List.length_eq_zero_iff.1 hassign', ?_⟩
  rw [query_relabel, Selection.isPaged_relabel, member_relabel]
  split at hrows
  · rename_i hpaged
    rw [hrows] at hmember
    rw [if_pos hpaged]
    exact List.length_eq_zero_iff.1 hmember
  · rename_i hpaged
    rw [if_neg hpaged]
    exact Selection.faults_relabel hrows

/-- Which rows of a table by another name are updated. -/
theorem isRelabeled_conditionLayout (ρ : Relabeling) {u : Update}
    (h : u.faults (.ofBuiltIn b) = []) (issued aliases : Nat) :
    IsRelabeled ρ
      (if u.query.isPaged then u.member.labels u.query.schema u.query.schema.tableLabels
        else (Query.mk u.query).labels u.query.schema.tableLabels)
      (behindSpace (u.conditionLayout (.ofBuiltIn b) issued aliases))
      (behindSpace ((u.relabel ρ).conditionLayout (.ofBuiltIn b) issued aliases)) := by
  obtain ⟨-, hrows⟩ := List.append_eq_nil_iff.1 h
  have htable := Qualifier.isRelabeled_table (ρ := ρ) u.query.schema
  unfold conditionLayout
  rw [query_relabel, Selection.isPaged_relabel, member_relabel]
  split at hrows
  · rename_i hpaged
    have hmember := (u.member.isKept ρ b).layout hrows u.query.schema _ _ _ htable issued aliases
    have hone := (AreRelabeled.cons hmember .nil).conjunction
    rw [List.append_nil] at hone
    simp only [hpaged, if_true]
    exact hone
  · rename_i hpaged
    simp only [hpaged]
    exact (Selection.areRelabeled_layoutParts ρ hrows htable issued aliases).conjunction

/-- What updates the rows of a table by another name. -/
theorem isRelabeled_layout (ρ : Relabeling) {u : Update} (h : u.faults (.ofBuiltIn b) = []) :
    IsRelabeled ρ u.labels (u.layout (.ofBuiltIn b) 0 0)
      ((u.relabel ρ).layout (.ofBuiltIn b) 0 0) := by
  obtain ⟨hassign, -⟩ := List.append_eq_nil_iff.1 h
  have hkept := Clause.areKept ρ b u.query.schema u.assignments
  have hsets := (hkept.layout hassign [] _ _ Qualifier.isRelabeled_none 0 0).joinWith ", "
  have hhead := ((isRelabeled_table ρ u.query.schema).append (hsets.word " SET ")).word "UPDATE "
  have hwhole := hhead.append (isRelabeled_conditionLayout ρ h
    (0 + (Clause.valuesAll u.assignments).length) (0 + (Clause.subqueriesAll u.assignments).length))
  unfold layout labels
  rw [assignments_relabel, query_relabel, Selection.schema_relabel, hkept.values, hkept.subqueries,
    spaced_some_cons, spaced_some_cons]
  simpa using hwhole

end Update

/-! ## Statements on one row -/

/-- Columns with placeholders behind them. -/
theorem Column.areRelabeled_equalities (ρ : Relabeling) (s : Schema) (columns : List Column)
    (first : Nat) :
    AreRelabeled ρ (s.columnLabels columns) (numbered equality columns first)
      (numbered equality (columns.map (relabel (ρ.column s))) first) := by
  induction columns generalizing first with
  | nil => exact .nil
  | cons c rest ih =>
      have hone := (isRelabeled_name (ρ := ρ) (.column s c.name)).closed
        (g := [.word "=", .mark first]) rfl
      exact .cons hone (ih (first + 1))

/-- The cells of an insert: the columns, and the placeholders by themselves. -/
theorem Column.areRelabeled_cells (ρ : Relabeling) (s : Schema) (columns : List Column)
    (first : Nat) :
    AreRelabeled ρ (s.columnLabels columns) ((numbered cell columns first).map Prod.fst)
        ((numbered cell (columns.map (relabel (ρ.column s))) first).map Prod.fst) ∧
      AreRelabeled ρ [] ((numbered cell columns first).map Prod.snd)
        ((numbered cell (columns.map (relabel (ρ.column s))) first).map Prod.snd) := by
  induction columns generalizing first with
  | nil => exact ⟨.nil, .nil⟩
  | cons c rest ih =>
      obtain ⟨hnames, hmarks⟩ := ih (first + 1)
      have hmark : IsRelabeled ρ [] [.mark first] [.mark first] := isRelabeled_of_names_eq_nil rfl
      exact ⟨.cons (isRelabeled_name (.column s c.name)) hnames, .cons hmark hmarks⟩

namespace Record

variable {r : Record} {s : Schema} {columns : List Column} {vs : List Value}

/-- Values that pass their checks pass them where the columns have other names. -/
theorem checkedValues_relabel (hfields : s.KeepsFields ρ)
    {check : Column → Value → Except Error Value}
    (hcheck : ∀ c v w, check c v = .ok w → check (c.relabel (ρ.column s)) v = .ok w)
    (hcolumns : ∀ c ∈ columns, c ∈ s.columns) (h : r.checkedValues s check columns = .ok vs) :
    r.checkedValues (s.relabel ρ) check (columns.map (Column.relabel (ρ.column s))) = .ok vs := by
  induction columns generalizing vs with
  | nil => exact h
  | cons c rest ih =>
      obtain ⟨hc, hrest⟩ := List.forall_mem_cons.1 hcolumns
      have hvalue := Schema.valueOf_relabel ρ hfields hc r
      unfold checkedValues at h ih ⊢
      rw [List.mapM_cons] at h
      rw [List.map_cons, List.mapM_cons]
      cases hv : s.valueOf r c.name with
      | error e => simp [checkedValue, hv, Bind.bind, Except.bind] at h
      | ok v =>
          cases hw : check c v with
          | error e => simp [checkedValue, hv, hw, Bind.bind, Except.bind] at h
          | ok w =>
              cases hws : rest.mapM (r.checkedValue s check) with
              | error e => simp [checkedValue, hv, hw, hws, Bind.bind, Except.bind] at h
              | ok ws =>
                  have hone : r.checkedValue (s.relabel ρ) check (c.relabel (ρ.column s)) =
                      .ok w := by
                    rw [checkedValue, Column.name_relabel, hvalue, hv]
                    exact hcheck c v w hw
                  simp only [checkedValue, hv, hw, hws, Bind.bind, Except.bind] at h
                  rw [hone, ih hrest hws]
                  exact h

/-- The values of the key are the same by any names. -/
theorem keyValues_relabel (hfields : s.KeepsFields ρ) (h : r.keyValues s = .ok vs) :
    r.keyValues (s.relabel ρ) = .ok vs := by
  unfold keyValues
  rw [Schema.keyColumns_relabel]
  exact checkedValues_relabel hfields (fun _ _ _ => Column.validateKey_relabel)
    (fun _ => Schema.mem_of_keyColumns) h

/-- The values of the other columns are the same by any names. -/
theorem plainValues_relabel (hfields : s.KeepsFields ρ) (h : r.plainValues s = .ok vs) :
    r.plainValues (s.relabel ρ) = .ok vs := by
  unfold plainValues
  rw [Schema.plainColumns_relabel]
  exact checkedValues_relabel hfields (fun _ _ _ => Column.validate_relabel)
    (fun _ hc => (List.mem_filter.1 hc).1) h

/-- An object leaves the same columns open. -/
theorem given_relabel (hfields : s.KeepsFields ρ) (r : Record) :
    r.given (s.relabel ρ) = (r.given s).map (Column.relabel (ρ.column s)) := by
  unfold given
  rw [Schema.columns_relabel, List.filter_map]
  refine congrArg (List.map _) (List.filter_congr fun c hc => ?_)
  simp only [Function.comp_apply, leavesOpen, Column.name_relabel,
    Schema.valueOf_relabel ρ hfields hc r]

/-- The values of an insert are the same by any names. -/
theorem givenValues_relabel (hfields : s.KeepsFields ρ) (h : r.givenValues s = .ok vs) :
    r.givenValues (s.relabel ρ) = .ok vs := by
  unfold givenValues
  rw [given_relabel hfields]
  exact checkedValues_relabel hfields (fun _ _ _ => Column.validate_relabel)
    (fun _ hc => (List.mem_filter.1 hc).1) h

/-- The condition that finds a row. -/
theorem isRelabeled_keyLayout (ρ : Relabeling) (s : Schema) (first : Nat) :
    IsRelabeled ρ (s.columnLabels s.keyColumns) (keyLayout s first)
      (keyLayout (s.relabel ρ) first) := by
  unfold keyLayout
  rw [Schema.keyColumns_relabel]
  exact (Column.areRelabeled_equalities ρ s s.keyColumns first).joinWith " AND "

/-- An update of a row. -/
theorem isRelabeled_updateLayout (ρ : Relabeling) (s : Schema) (first : Nat) :
    IsRelabeled ρ
      (s.tableLabels ++ (s.columnLabels s.plainColumns ++ s.columnLabels s.keyColumns))
      (updateLayout s first) (updateLayout (s.relabel ρ) first) := by
  have hsets := (Column.areRelabeled_equalities ρ s s.plainColumns first).joinWith ", "
  have hkey := isRelabeled_keyLayout ρ s (first + s.plainColumns.length)
  have hwhole := ((isRelabeled_table ρ s).append
    ((hsets.append (hkey.word " where ")).word " SET ")).word "UPDATE "
  unfold updateLayout
  rw [Schema.plainColumns_relabel, List.length_map]
  simpa using hwhole

/-- A deletion of a row. -/
theorem isRelabeled_deleteLayout (ρ : Relabeling) (s : Schema) (first : Nat) :
    IsRelabeled ρ (s.tableLabels ++ s.columnLabels s.keyColumns) (deleteLayout s first)
      (deleteLayout (s.relabel ρ) first) :=
  ((isRelabeled_table ρ s).append ((isRelabeled_keyLayout ρ s first).word " where ")).word
    "DELETE FROM "

/-- The names in an insert: where the stored row is handed back by a list, all columns follow. -/
def insertLabels (r : Record) (s : Schema) (b : BuiltIn) : List Label :=
  s.tableLabels ++ (s.columnLabels (r.given s) ++
    if b = .mssql then s.columnLabels s.columns else [])

/-- An insert of a row. -/
theorem isRelabeled_insertLayout (hfields : s.KeepsFields ρ) {b : BuiltIn} {first : Nat}
    {f : Fragment} (h : r.insertLayout s (.ofBuiltIn b) first = .ok f) :
    ∃ f', r.insertLayout (s.relabel ρ) (.ofBuiltIn b) first = .ok f' ∧
      IsRelabeled ρ (r.insertLabels s b) f f' := by
  obtain ⟨hnames, hmarks⟩ := Column.areRelabeled_cells ρ s (r.given s) first
  have hhead := ((isRelabeled_table ρ s).append ((hnames.joinWith ", ").word " (")).word
    "INSERT INTO "
  have hvalues := hmarks.joinWith ", "
  have hcolumn : ∀ c ∈ s.columns, IsRelabeled ρ [Label.column s c.name]
      [.word "Inserted.", .name c.name] [.word "Inserted.", .name (ρ.column s c.name)] :=
    fun c _ => (isRelabeled_name (.column s c.name)).word "Inserted."
  have hstored := (AreRelabeled.map (fun c : Column => [Label.column s c.name])
    (fun c => [.word "Inserted.", .name c.name])
    (fun c => [.word "Inserted.", .name (ρ.column s c.name)]) hcolumn).joinWith ", "
  rw [← List.map_eq_flatMap] at hstored
  obtain ⟨hgiven, form, hform, rfl⟩ := exists_of_insertLayout h
  refine ⟨form (Fragment.table (s.relabel ρ).identifier) (Column.numbered Column.cell
    ((r.given s).map (Column.relabel (ρ.column s))) first) (s.relabel ρ).columns,
    ?written, ?_⟩
  case written =>
    rw [insertLayout, given_relabel hfields, List.isEmpty_map,
      if_neg (mt List.isEmpty_iff.1 hgiven), Dialect.insertion, hform]
  unfold insertLabels
  rcases Dialect.rowReturn?_ofBuiltIn hform with ⟨hb, rfl⟩ | ⟨rfl, rfl⟩
  · have hend := (hvalues.closed (g := [.word ") RETURNING *"]) rfl).word ") VALUES ("
    rw [if_neg hb]
    simpa [InsertForm.returning, InsertForm.head, InsertForm.marks] using hhead.append hend
  · have hend := (hstored.append ((hvalues.closed (g := [.word ")"]) rfl).word
      " VALUES (")).word ") OUTPUT "
    rw [if_pos rfl]
    simpa [InsertForm.output, InsertForm.head, InsertForm.marks, Schema.columnLabels,
      Function.comp_def] using hhead.append hend

variable {w : Blueprint}

/-- Whether there is anything to update is no matter of names. -/
theorem update_relabel (h : r.update s = .ok (some w)) :
    w = r.writeUpdate s ∧
      r.update (s.relabel ρ) = .ok (some (r.writeUpdate (s.relabel ρ))) := by
  unfold update at h ⊢
  rw [Schema.plainColumns_relabel, Schema.primaryKeys_relabel, List.isEmpty_map,
    List.isEmpty_map]
  split at h
  · cases h
  · rename_i hkeys
    split at h
    · cases h
    · rename_i hplain
      cases h
      rw [if_neg hkeys, if_neg hplain]
      exact ⟨rfl, rfl⟩

/-- Whether there is a key to delete by is no matter of names. -/
theorem delete_relabel (h : r.delete s = .ok w) :
    w = r.writeDelete s ∧ r.delete (s.relabel ρ) = .ok (r.writeDelete (s.relabel ρ)) := by
  unfold delete at h ⊢
  rw [Schema.primaryKeys_relabel, List.isEmpty_map]
  split at h
  · cases h
  · rename_i hkeys
    cases h
    rw [if_neg hkeys]
    exact ⟨rfl, rfl⟩

end Record

namespace Request

/-- What a request asks for, of tables that go by other names. -/
def relabel (ρ : Relabeling) : Request → Request
  | fetch s => fetch (s.relabel ρ)
  | count s => count (s.relabel ρ)
  | update u => update (u.relabel ρ)
  | updateRow r s => updateRow r (s.relabel ρ)
  | deleteRow r s => deleteRow r (s.relabel ρ)
  | insertRow r s => insertRow r (s.relabel ρ)

/-- The names that a request's statement has, in their order. -/
def labels (b : BuiltIn) : Request → List Label
  | fetch s => s.rowsLabels (s.schema.columnLabels s.schema.columns) s.order
  | count s => s.countLabels
  | update u => u.labels
  | updateRow _ s =>
    s.tableLabels ++ (s.columnLabels s.plainColumns ++ s.columnLabels s.keyColumns)
  | deleteRow _ s => s.tableLabels ++ s.columnLabels s.keyColumns
  | insertRow r s => r.insertLabels s b

/-- That the columns of a row keep the fields that hold their values. -/
def KeepsFields (ρ : Relabeling) : Request → Prop
  | updateRow _ s => s.KeepsFields ρ
  | deleteRow _ s => s.KeepsFields ρ
  | insertRow _ s => s.KeepsFields ρ
  | _ => True

theorem templates_relabel (ρ : Relabeling) (request : Request) :
    (request.relabel ρ).templates = request.templates := by
  have hquery : ∀ s : Selection Query,
      (Query.mk (s.relabel ρ)).templates = (Query.mk s).templates := by
    intro s
    rw [← Query.relabel_mk]
    exact ((Query.mk s).isKept ρ .sqlite).templates
  cases request with
  | fetch s => exact hquery s
  | count s => exact hquery s
  | update u =>
      have hassign := (Clause.areKept ρ .sqlite u.query.schema u.assignments).templates
      simp only [relabel, templates, Update.assignments_relabel, Update.query_relabel, hassign,
        hquery]
  | updateRow r s => rfl
  | deleteRow r s => rfl
  | insertRow r s => rfl

/--
Whether what is written in one way from an empty draft is written in another
way as well, with the same values and the names replaced.
-/
def IsRewritten (ρ : Relabeling) (labels : List Label) (w w' : Writing Fragment) : Prop :=
  ∀ f draft, outcome w {} = (.ok f, draft) → ∃ f' draft', outcome w' {} = (.ok f', draft') ∧
    draft'.args = draft.args ∧ IsRelabeled ρ labels f f'

/-- So it is where both have a description, without faults, and the same values. -/
theorem isRewritten_of_spec {w w' : Writing Fragment} {labels : List Label}
    {faults faults' : List Error} {values values' : List Value} {taken taken' : Nat}
    {answer answer' : Nat → Nat → Fragment} (hw : Spec w faults values taken answer)
    (hw' : Spec w' faults' values' taken' answer') (hvalues : values' = values)
    (h : faults = [] → faults' = [] ∧ IsRelabeled ρ labels (answer 0 0) (answer' 0 0)) :
    IsRewritten ρ labels w w' := by
  intro f draft hok
  obtain ⟨hfaults, rfl, rfl⟩ := hw.of_ok hok
  obtain ⟨hfaults', hanswer⟩ := h hfaults
  refine ⟨_, _, hw'.writes hfaults' {}, ?_, hanswer⟩
  rw [hvalues]
  rfl

theorem isRewritten_fetch (ρ : Relabeling) (b : BuiltIn) (s : Selection Query) :
    IsRewritten ρ ((fetch s).labels b) (s.fetch (.ofBuiltIn b))
      ((s.relabel ρ).fetch (.ofBuiltIn b)) :=
  isRewritten_of_spec (s.spec_fetch _) ((s.relabel ρ).spec_fetch _) (s.values_relabel ρ)
    fun hfaults => ⟨Selection.faults_relabel hfaults, Selection.isRelabeled_fetchLayout hfaults 0 0⟩

theorem isRewritten_count (ρ : Relabeling) (b : BuiltIn) (s : Selection Query) :
    IsRewritten ρ ((count s).labels b) (s.count (.ofBuiltIn b))
      ((s.relabel ρ).count (.ofBuiltIn b)) :=
  isRewritten_of_spec (s.spec_count _) ((s.relabel ρ).spec_count _) (s.values_relabel ρ)
    fun hfaults => ⟨Selection.countFaults_relabel hfaults,
      Selection.isRelabeled_countLayout hfaults 0 0⟩

theorem isRewritten_update (ρ : Relabeling) (b : BuiltIn) (u : Update) :
    IsRewritten ρ ((update u).labels b) (u.write (.ofBuiltIn b))
      ((u.relabel ρ).write (.ofBuiltIn b)) :=
  isRewritten_of_spec (u.spec_write _) ((u.relabel ρ).spec_write _) (u.values_relabel ρ)
    fun hfaults => ⟨Update.faults_relabel hfaults, Update.isRelabeled_layout ρ hfaults⟩

section Rows

variable {r : Record} {s : Schema}

theorem isRewritten_updateRow (hfields : s.KeepsFields ρ) (b : BuiltIn) :
    IsRewritten ρ ((updateRow r s).labels b) (r.writeUpdate s (.ofBuiltIn b))
      (r.writeUpdate (s.relabel ρ) (.ofBuiltIn b)) := by
  intro f draft hok
  obtain ⟨hfaults, rfl, rfl⟩ := Spec.of_ok (r.specOf_writeUpdate s (.ofBuiltIn b)) hok
  cases hplain : r.plainValues s with
  | error e => simp [hplain, faultsOf, Bind.bind, Except.bind] at hfaults
  | ok plain =>
      cases hkey : r.keyValues s with
      | error e => simp [hplain, hkey, faultsOf, Bind.bind, Except.bind] at hfaults
      | ok key =>
          have hwrite := r.specOf_writeUpdate (s.relabel ρ) (.ofBuiltIn b)
          rw [Record.plainValues_relabel hfields hplain,
            Record.keyValues_relabel hfields hkey] at hwrite
          exact ⟨_, _, Spec.writes hwrite rfl {}, rfl, Record.isRelabeled_updateLayout ρ s 1⟩

theorem isRewritten_deleteRow (hfields : s.KeepsFields ρ) (b : BuiltIn) :
    IsRewritten ρ ((deleteRow r s).labels b) (r.writeDelete s (.ofBuiltIn b))
      (r.writeDelete (s.relabel ρ) (.ofBuiltIn b)) := by
  intro f draft hok
  obtain ⟨hfaults, rfl, rfl⟩ := Spec.of_ok (r.specOf_writeDelete s (.ofBuiltIn b)) hok
  cases hkey : r.keyValues s with
  | error e => simp [hkey, faultsOf] at hfaults
  | ok key =>
      have hwrite := r.specOf_writeDelete (s.relabel ρ) (.ofBuiltIn b)
      rw [Record.keyValues_relabel hfields hkey] at hwrite
      exact ⟨_, _, Spec.writes hwrite rfl {}, rfl, Record.isRelabeled_deleteLayout ρ s 1⟩

theorem isRewritten_insertRow (hfields : s.KeepsFields ρ) (b : BuiltIn) :
    IsRewritten ρ ((insertRow r s).labels b) (r.insert s (.ofBuiltIn b))
      (r.insert (s.relabel ρ) (.ofBuiltIn b)) := by
  intro f draft hok
  cases hgiven : r.givenValues s with
  | error e =>
      have hfail := Record.outcome_insert_of_error hgiven (.ofBuiltIn b) {}
      rw [hok] at hfail
      cases hfail
  | ok vs =>
      rw [Record.outcome_insert_of_ok hgiven] at hok
      obtain ⟨hlayout, hdraft⟩ := Prod.mk.inj hok
      obtain ⟨f', hlayout', hf'⟩ := Record.isRelabeled_insertLayout hfields hlayout
      have hwrite := Record.outcome_insert_of_ok (Record.givenValues_relabel hfields hgiven)
        (.ofBuiltIn b) {}
      rw [hlayout'] at hwrite
      subst hdraft
      exact ⟨f', _, hwrite, rfl, hf'⟩

end Rows

/-- Whether there is anything to be written for an update does not depend on names. -/
theorem blueprint_relabel {u : Update} {w : Blueprint}
    (hw : (update u).blueprint = .ok (some w)) :
    ((update u).relabel ρ).blueprint = .ok (some (u.relabel ρ).write) := by
  simp only [blueprint, relabel, Update.blueprint, Update.assignments_relabel,
    Clause.isEmpty_relabelAll] at hw ⊢
  split at hw
  · cases hw
  · rename_i hassign
    rw [if_neg hassign]
    rfl

/--
What is written for a request is written for the request by other names: the
names are others, and the values are the same.
-/
theorem exists_rewritten {request : Request} (hfields : request.KeepsFields ρ) {w : Blueprint}
    (hw : request.blueprint = .ok (some w)) (b : BuiltIn) :
    ∃ w', (request.relabel ρ).blueprint = .ok (some w') ∧
      IsRewritten ρ (request.labels b) (w (.ofBuiltIn b)) (w' (.ofBuiltIn b)) := by
  cases request with
  | fetch s =>
      cases hw
      exact ⟨_, rfl, isRewritten_fetch ρ b s⟩
  | count s =>
      cases hw
      exact ⟨_, rfl, isRewritten_count ρ b s⟩
  | update u =>
      obtain rfl := eq_write_of_blueprint hw
      exact ⟨_, blueprint_relabel hw, isRewritten_update ρ b u⟩
  | updateRow r s =>
      obtain ⟨rfl, hw'⟩ := Record.update_relabel (ρ := ρ) hw
      exact ⟨_, hw', isRewritten_updateRow hfields b⟩
  | deleteRow r s =>
      have hdelete : r.delete s = .ok w := by
        cases hd : r.delete s with
        | error e => simp [blueprint, hd, Except.map] at hw
        | ok w' => simpa [blueprint, hd, Except.map] using hw
      obtain ⟨rfl, hw'⟩ := Record.delete_relabel (ρ := ρ) hdelete
      refine ⟨_, ?_, isRewritten_deleteRow hfields b⟩
      simp [blueprint, relabel, hw', Except.map]
  | insertRow r s =>
      cases hw
      exact ⟨_, rfl, isRewritten_insertRow hfields b⟩

end Request

/-! ## What a reader finds -/

/-- The identifier that a token is. -/
def Token.name? : Token → Option String
  | name identifier => some identifier
  | _ => none

/-- A token of which does not stay what it names. -/
def Token.unnamed : Token → Token
  | name _ => name ""
  | t => t

namespace Fragment

private theorem filterMap_name_chars (cs : List Char) :
    (cs.map Token.char).filterMap Token.name? = [] := by
  induction cs with
  | nil => rfl
  | cons c rest ih => exact ih

private theorem map_unnamed_chars (cs : List Char) :
    (cs.map Token.char).map Token.unnamed = cs.map Token.char := by
  rw [List.map_map]
  rfl

/-- The identifiers among the tokens of a fragment are those of its pieces. -/
theorem filterMap_name_tokens (d : Dialect) (f : Fragment) :
    (f.tokens d).filterMap Token.name? = f.names := by
  induction f with
  | nil => rfl
  | cons p rest ih =>
      have hp : (p.tokens d).filterMap Token.name? = p.name?.toList := by
        cases p with
        | word t => exact filterMap_name_chars t.toList
        | verbatim t => exact filterMap_name_chars t.toList
        | name n => rfl
        | tableAlias n => exact filterMap_name_chars (aliasText n).toList
        | mark n => rfl
      rw [tokens_cons, List.filterMap_append, ih, hp]
      cases p <;> rfl

/-- The other tokens are those of the other pieces. -/
theorem map_unnamed_tokens (d : Dialect) (f : Fragment) :
    (f.tokens d).map Token.unnamed = f.unnamed.tokens d := by
  induction f with
  | nil => rfl
  | cons p rest ih =>
      have hp : (p.tokens d).map Token.unnamed = p.unnamed.tokens d := by
        cases p with
        | word t => exact map_unnamed_chars t.toList
        | verbatim t => exact map_unnamed_chars t.toList
        | name n => rfl
        | tableAlias n => exact map_unnamed_chars (aliasText n).toList
        | mark n => rfl
      rw [tokens_cons, List.map_append, ih, hp]
      rfl

end Fragment

/-- The tokens of a statement. -/
def Statement.tokens (b : BuiltIn) (s : Statement) : List Token := b.lexicon.tokens s.sql.toList

namespace Request

/--
A request without manual fragments, and the same request where tables and
columns go by other names.  A reader of the first statement finds as
identifiers exactly the names that were written, and these are the names of
the request's labels in their order.  The second one is compiled as well, with
the same values; a reader finds the other names of the labels in it, and all
other tokens are the same at the same places.
-/
theorem identifiers_of_compile (ρ : Relabeling) {request : Request}
    {settings : Except Error Settings} {statement : Statement} {events : List Event}
    (hmanual : request.templates = []) (hfields : request.KeepsFields ρ)
    (h : request.compile settings (.ofBuiltIn b) = .ok (some (statement, events))) :
    (∃ w f draft, request.blueprint = .ok (some w) ∧
      outcome (w (.ofBuiltIn b)) {} = (.ok f, draft) ∧ statement.sql = f.text (.ofBuiltIn b) ∧
      (statement.tokens b).filterMap Token.name? = f.names) ∧
    (statement.tokens b).filterMap Token.name? =
      (request.labels b).map Label.name ∧
    ∃ statement' events',
      (request.relabel ρ).compile settings (.ofBuiltIn b) = .ok (some (statement', events')) ∧
        (statement'.tokens b).filterMap Token.name? =
          (request.labels b).map ρ.label ∧
        (statement'.tokens b).map Token.unnamed = (statement.tokens b).map Token.unnamed ∧
        statement'.args = statement.args := by
  obtain ⟨w, hw, hc⟩ := exists_blueprint_of_compile h
  obtain ⟨f, draft, chosen, hok, rfl, hsettle⟩ := Blueprint.exists_settle_of_compile hc
  obtain ⟨w', hw', hrewritten⟩ := exists_rewritten hfields hw b
  obtain ⟨f', draft', hok', hargs, hf⟩ := hrewritten f draft hok
  obtain ⟨events', hsettle'⟩ := Draft.exists_settle_of_le hsettle
    (Nat.le_of_eq (congrArg Array.size hargs)) (f'.text (.ofBuiltIn b))
  obtain rfl := Draft.eq_of_settle hsettle
  have hplain : ∀ t ∈ request.templates, t.IsPlain b := by simp [hmanual]
  have hplain' : ∀ t ∈ (request.relabel ρ).templates, t.IsPlain b := by
    simp [templates_relabel, hmanual]
  have hread : b.lexicon.tokens (f.text (.ofBuiltIn b)).toList = f.tokens (.ofBuiltIn b) :=
    (isClear_of_layout hplain (exists_of_written hw hok).1).tokens_text
  have hread' : b.lexicon.tokens (f'.text (.ofBuiltIn b)).toList = f'.tokens (.ofBuiltIn b) :=
    (isClear_of_layout hplain' (exists_of_written hw' hok').1).tokens_text
  have hcompile : (request.relabel ρ).compile (.ok chosen) (.ofBuiltIn b) = .ok (some
      (⟨f'.text (.ofBuiltIn b), draft'.args.toList, (Dialect.ofBuiltIn b).name⟩, events')) := by
    rw [compile_of_blueprint hw', Blueprint.compile, hok']
    exact congrArg (some <$> ·) hsettle'
  refine ⟨⟨w, f, draft, hw, hok, rfl, ?_⟩, ?_, _, events', hcompile, ?_, ?_, ?_⟩
  · rw [Statement.tokens, hread, filterMap_name_tokens]
  · rw [Statement.tokens, hread, filterMap_name_tokens, hf.names]
  · rw [Statement.tokens, hread', filterMap_name_tokens, hf.names']
  · rw [Statement.tokens, Statement.tokens, hread, hread', map_unnamed_tokens,
      map_unnamed_tokens, hf.unnamed]
  · exact congrArg Array.toList hargs

/-- A table with quotes, a placeholder and a keyword in its names. -/
def quotedLedger : Schema where
  identifier := ["books].", ""]
  columns := [{ name := "id] = ?", type := "int", field := some "id" },
    { name := "SELECT", type := "text" }]
  primaryKeys := ["id] = ?"]

/-- An entry of the table. -/
def quotedEntry : Record where
  model := ⟨"Entry", some quotedLedger⟩
  fields := [("id", .int 7), ("SELECT", .text "seven")]

/-- Names with a quote before them. -/
def quotedNames : Relabeling where
  segment _ name := "]" ++ name
  column _ name := "]" ++ name
  injective _ name _ name' _ h := by
    have hlist := congrArg String.toList h
    rw [String.toList_append, String.toList_append] at hlist
    exact String.toList_injective (List.append_cancel_left hlist)

/-- Whatever is in the names, they are read as they are, and nothing else is changed by them. -/
theorem identifiers_quotedEntry :
    (insertRow quotedEntry quotedLedger).templates = [] ∧
      (insertRow quotedEntry quotedLedger).KeepsFields quotedNames ∧
      ∃ statement events,
        (insertRow quotedEntry quotedLedger).compile (.ok {}) (.ofBuiltIn .mssql) =
            .ok (some (statement, events)) ∧
          (statement.tokens .mssql).filterMap Token.name? =
            ["books].", "", "id] = ?", "SELECT", "id] = ?", "SELECT"] ∧
          ∃ statement' events',
            ((insertRow quotedEntry quotedLedger).relabel quotedNames).compile (.ok {})
                (.ofBuiltIn .mssql) = .ok (some (statement', events')) ∧
              (statement'.tokens .mssql).filterMap Token.name? =
                ["]books].", "]", "]id] = ?", "]SELECT", "]id] = ?", "]SELECT"] ∧
              (statement'.tokens .mssql).map Token.unnamed =
                (statement.tokens .mssql).map Token.unnamed ∧
              statement'.args = [.int 7, .text "seven"] := by
  have hfields : (insertRow quotedEntry quotedLedger).KeepsFields quotedNames := by
    intro c hc
    refine Column.fieldName_relabel ?_
    revert c
    decide
  obtain ⟨statement, events, hcompile, hargs⟩ : ∃ statement events,
      (insertRow quotedEntry quotedLedger).compile (.ok {}) (.ofBuiltIn .mssql) =
          .ok (some (statement, events)) ∧
        statement.args = [.int 7, .text "seven"] := ⟨_, _, rfl, rfl⟩
  obtain ⟨-, hnames, statement', events', hcompile', hnames', hothers, hargs'⟩ :=
    identifiers_of_compile quotedNames rfl hfields hcompile
  exact ⟨rfl, hfields, statement, events, hcompile, hnames, statement', events', hcompile',
    hnames', hothers, hargs'.trans hargs⟩

end Request

end SqlCompose
