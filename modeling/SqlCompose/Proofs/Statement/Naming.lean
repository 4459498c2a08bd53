import SqlCompose.Proofs.Query.Edit
import SqlCompose.Proofs.Query.Foreign
import SqlCompose.Proofs.Statement.Check
import SqlCompose.Proofs.Statement.Occurrence

/-!
# The names of a column

A column is called by the name of its field or by its own name, and the two
may overlap: a field may be named like another column, and two columns may
have each other's names.  `Schema.Designates` says which column a name stands
for, without any lookup: the first one whose field has the name, or else the
one that is called so.

A name is given as a text, or as the handle that it leads to, each of them
directly or by a function.  A text is looked up among the fields first, and a
handle among the names alone, but the column of a handle is called by its own
name, and there it is found again.  So all ways lead to the one column
(`Schema.Names.resolveColumn_eq`), and a call that is given any of them does
what it does for the column (`Edit.Takes.apply_eq`).

## Main results

* `Schema.columnForField_eq_ok_iff` — the lookup finds what a name stands for.
* `Handle.Makes.exists_renders` — what the handle of a column makes is written
  with the column in front.
* `Schema.named_alike` — either all ways of naming a column agree, or all of
  them fail alike.
-/

namespace SqlCompose

open Writing

/-! ## What a name stands for -/

namespace Schema

variable {s : Schema} {name : String} {c : Column}

/-- Whether a name stands for a column. -/
inductive Designates (s : Schema) (name : String) (c : Column) : Prop
  /-- The column is the first one whose field has the name. -/
  | field {before after} : s.columns = before ++ c :: after → c.fieldName = name →
      (∀ d ∈ before, d.fieldName ≠ name) → Designates s name c
  /-- No field has the name, and the column is called so. -/
  | column : (∀ d ∈ s.columns, d.fieldName ≠ name) → c ∈ s.columns → c.name = name →
      Designates s name c

theorem Designates.mem (h : s.Designates name c) : c ∈ s.columns := by
  cases h with
  | field hcolumns _ _ => simp [hcolumns]
  | column _ hmem _ => exact hmem

/-- A column that is found by a name has the name. -/
theorem name_of_column (h : s.column name = .ok c) : c.name = name := by
  unfold Schema.column at h
  split at h
  · rename_i d hd
    obtain rfl : d = c := Except.ok.inj h
    exact name_of_find? hd
  · cases h

/-- Where names of columns are not repeated, the lookup finds the column that a name stands for. -/
theorem columnForField_eq_ok_iff (hnames : s.columnNames.Nodup) :
    s.columnForField name = .ok c ↔ s.Designates name c := by
  unfold columnForField
  cases hfound : s.columns.find? fun c => c.fieldName == name with
  | some d =>
      obtain ⟨hfield, before, after, hcolumns, hbefore⟩ := List.find?_eq_some_iff_append.1 hfound
      have hd : d.fieldName = name := by simpa using hfield
      constructor
      · intro h
        obtain rfl : d = c := Except.ok.inj h
        exact .field hcolumns hd (by simpa using hbefore)
      · intro h
        cases h with
        | field hcolumns' hc hbefore' =>
            have hother : s.columns.find? (fun c => c.fieldName == name) = some c := by
              apply List.find?_eq_some_iff_append.2
              exact ⟨by simpa using hc, _, _, hcolumns', by simpa using hbefore'⟩
            rw [hfound] at hother
            rw [Option.some.inj hother]
        | column hnone _ _ => exact absurd hd (hnone d (List.mem_of_find?_eq_some hfound))
  | none =>
      have hnone : ∀ d ∈ s.columns, d.fieldName ≠ name := by
        intro d hd
        simpa using List.find?_eq_none.1 hfound d hd
      constructor
      · intro h
        exact .column hnone (mem_of_column h) (name_of_column h)
      · intro h
        have hmem := h.mem
        cases h with
        | field _ hc _ => exact absurd hc (hnone c hmem)
        | column _ hc hname =>
            subst hname
            exact column_name hnames hc

/-- A name that is no field's and no column's is not found. -/
theorem columnForField_of_forall_ne (h : ∀ c ∈ s.columns, c.fieldName ≠ name ∧ c.name ≠ name) :
    s.columnForField name = .error (s.missing (.text name)) := by
  unfold columnForField
  have hnone : s.columns.find? (fun c => c.fieldName == name) = none := by
    simpa using fun c hc => (h c hc).1
  rw [hnone]
  apply column_of_not_mem
  intro hmem
  obtain ⟨c, hc, hname⟩ := List.mem_map.1 hmem
  exact (h c hc).2 hname

/-- A name stands for a column, unless it is no field's and no column's. -/
theorem exists_designates_or (s : Schema) (name : String) :
    (∃ c, s.Designates name c) ∨ ∀ c ∈ s.columns, c.fieldName ≠ name ∧ c.name ≠ name := by
  by_cases hfield : ∃ c ∈ s.columns, c.fieldName = name
  · cases hfound : s.columns.find? fun c => c.fieldName == name with
    | some c =>
        obtain ⟨hc, before, after, hcolumns, hbefore⟩ := List.find?_eq_some_iff_append.1 hfound
        exact .inl ⟨c, .field hcolumns (by simpa using hc) (by simpa using hbefore)⟩
    | none =>
        obtain ⟨c, hmem, hc⟩ := hfield
        exact absurd (List.find?_eq_none.1 hfound c hmem) (by simp [hc])
  · have hnone : ∀ c ∈ s.columns, c.fieldName ≠ name := by
      intro c hc hname
      exact hfield ⟨c, hc, hname⟩
    by_cases hcolumn : ∃ c ∈ s.columns, c.name = name
    · obtain ⟨c, hc, hname⟩ := hcolumn
      exact .inl ⟨c, .column hnone hc hname⟩
    · right
      intro c hc
      exact ⟨hnone c hc, fun hname => hcolumn ⟨c, hc, hname⟩⟩

/-! ## Ways to name a column -/

/-- The ways to give a name of a column, or the handle that the name leads to. -/
inductive Names (s : Schema) (name : String) : ColumnSource → Prop
  /-- The text, or a function that answers with it. -/
  | text : Names s name fun _ => .ok (.named (.text name))
  /-- The handle, which was taken before. -/
  | handle {h : Handle} : s.handleNamed (.text name) = .ok h →
      Names s name fun _ => .ok (.handle h)
  /-- A function that answers with the handle. -/
  | function : Names s name fun t => (t.handleNamed (.text name)).map .handle

theorem handleNamed_eq (s : Schema) (name : String) : s.handleNamed (.text name) =
    (s.columnForField name).map fun c => ⟨c, some s.tableName⟩ := by
  rw [handleNamed, columnNamed]
  cases s.columnForField name <;> rfl

/-- The column of a handle is found again by its own name. -/
theorem resolve_handle (hnames : s.columnNames.Nodup) (hc : c ∈ s.columns) :
    s.resolve (.handle ⟨c, some s.tableName⟩) = .ok c := by
  simp only [resolve, checkTable, if_true, column_name hnames hc, Bind.bind, Except.bind]

/-- All ways lead where the lookup of the text leads. -/
theorem Names.resolveColumn_eq {source : ColumnSource} (h : s.Names name source)
    (hnames : s.columnNames.Nodup) : s.resolveColumn source = s.columnForField name := by
  cases h with
  | text => rfl
  | handle hh =>
      rw [handleNamed_eq] at hh
      cases hc : s.columnForField name with
      | error e => simp [hc, Except.map] at hh
      | ok c =>
          rw [hc] at hh
          obtain rfl := Except.ok.inj hh
          exact resolve_handle hnames (mem_of_columnForField hc)
  | function =>
      rw [resolveColumn, handleNamed_eq]
      cases hc : s.columnForField name with
      | error e => rfl
      | ok c => exact resolve_handle hnames (mem_of_columnForField hc)

end Schema

/-! ## Calls that take a column -/

/-- What a call answers and leaves that changes a query. -/
def Store.changed (st : Store) (r : QueryRef) (q : Selection QueryRef) : Builder × Store :=
  (.query r, { st with queries := st.queries.setIfInBounds r.index q })

/-- What a call answers and leaves that changes an update. -/
def Store.reassigned (st : Store) (r : UpdateRef) (u : UpdateDraft) : Builder × Store :=
  (.update r, { st with updates := st.updates.setIfInBounds r.index u })

/-- What a form assigns to a column that is known. -/
inductive AssignmentForm.Sets (source : ColumnSource) :
    AssignmentForm → (Handle → Except Error (Clause QueryRef)) → Prop
  | value {v : Value} : Sets source (.value source v) fun h => h.assign v
  | null : Sets source (.null source) fun h => h.assignNull

/--
The calls that take a column of the table where the given source stands, each
with what it answers and leaves where the column is known.
-/
inductive Edit.Takes (st : Store) (s : Schema) (source : ColumnSource) :
    Edit → (Column → Except Error (Builder × Store)) → Prop
  /-- A column to order by. -/
  | order {r q direction} : st.query r = .ok q → q.schema = s →
      Takes st s source (.order r source direction) fun c =>
        .ok (st.changed r { q with order := q.order ++ [⟨c.name, direction⟩] })
  /-- The column of the table at hand, related to a column of another query. -/
  | outer {r q inner other innerSource negated} : st.query r = .ok q → q.schema = s →
      st.query inner = .ok other →
      Takes st s source (.related r (.query inner) source innerSource negated) fun c => do
        let d ← other.schema.resolveColumn innerSource
        return st.changed r
          { q with related := q.related ++ [.related c.name inner d.name negated] }
  /-- The column of the table at hand, related to a column of all rows of another table. -/
  | outerOfModel {r q model table innerSource negated} : st.query r = .ok q → q.schema = s →
      Model.schema model = .ok table →
      Takes st s source (.related r (.model model) source innerSource negated) fun c => do
        let d ← table.resolveColumn innerSource
        return (st.newQuery table).2.changed r { q with
          related := q.related ++ [.related c.name (st.newQuery table).1 d.name negated] }
  /-- The column of the table that an inner query is over. -/
  | inner {r q inner other outerSource outer negated} : st.query r = .ok q →
      q.schema.resolveColumn outerSource = .ok outer → st.query inner = .ok other →
      other.schema = s →
      Takes st s source (.related r (.query inner) outerSource source negated) fun c =>
        .ok (st.changed r
          { q with related := q.related ++ [.related outer.name inner c.name negated] })
  /-- The column of a table all of whose rows are meant. -/
  | innerOfModel {r q model outerSource outer negated} : st.query r = .ok q →
      q.schema.resolveColumn outerSource = .ok outer → Model.schema model = .ok s →
      Takes st s source (.related r (.model model) outerSource source negated) fun c =>
        .ok ((st.newQuery s).2.changed r { q with
          related := q.related ++ [.related outer.name (st.newQuery s).1 c.name negated] })
  /-- The first assignment of an update. -/
  | start {r q form make} : st.query r = .ok q → q.schema = s →
      AssignmentForm.Sets source form make →
      Takes st s source (.assign (.query r) form) fun c => do
        let a ← make ⟨c, some s.tableName⟩
        return (.update (st.newUpdate r [a]).1, (st.newUpdate r [a]).2)
  /-- One more assignment of an update. -/
  | assign {r u q form make} : st.update r = .ok u → st.query u.query = .ok q → q.schema = s →
      AssignmentForm.Sets source form make →
      Takes st s source (.assign (.update r) form) fun c => do
        let a ← make ⟨c, some s.tableName⟩
        return st.reassigned r { u with assignments := u.assignments ++ [a] }

/-- An assignment is made with the handle of the column that the source stands for. -/
theorem AssignmentForm.Sets.source_eq {s : Schema} {source : ColumnSource} {form : AssignmentForm}
    {make : Handle → Except Error (Clause QueryRef)} (h : Sets source form make)
    (hnames : s.columnNames.Nodup) :
    form.source s = (s.resolveColumn source).bind fun c => make ⟨c, some s.tableName⟩ := by
  have hhandle : s.handleOf source =
      (s.resolveColumn source).map fun c => ⟨c, some s.tableName⟩ := by
    rw [Schema.handleOf]
    cases hc : s.resolveColumn source with
    | error e => rfl
    | ok c =>
        have hmem : c ∈ s.columns := by
          obtain ⟨ref, -, hresolve⟩ := exists_of_bind hc
          exact Schema.mem_of_resolve hresolve
        simp only [Bind.bind, Except.bind, Schema.column_name hnames hmem]
        rfl
  cases h with
  | value =>
      show s.assignment source _ = _
      rw [Schema.assignment, hhandle]
      cases s.resolveColumn source <;> rfl
  | null =>
      show s.nullAssignment source = _
      rw [Schema.nullAssignment, hhandle]
      cases s.resolveColumn source <;> rfl

/-- What a call that takes a column comes to: the column is found first. -/
theorem Edit.Takes.apply_eq {st : Store} {s : Schema} {source : ColumnSource} {e : Edit}
    {answer : Column → Except Error (Builder × Store)} (h : Edit.Takes st s source e answer)
    (hnames : s.columnNames.Nodup) : e.apply st = (s.resolveColumn source).bind answer := by
  cases h with
  | order hq hs =>
      subst hs
      simp only [apply, Store.addOrder, Store.modifyQuery, hq, Selection.addOrder, Bind.bind,
        Except.bind]
      cases Schema.resolveColumn _ source <;> rfl
  | @outer r q inner other innerSource negated hq hs hinner =>
      subst hs
      simp only [apply, Store.addRelated, Store.modifyQuery, hq, hinner, Selection.addRelated,
        Bind.bind, Except.bind]
      cases q.schema.resolveColumn source with
      | error e => rfl
      | ok c => cases other.schema.resolveColumn innerSource <;> rfl
  | @outerOfModel r q model table innerSource negated hq hs hmodel =>
      subst hs
      simp only [apply, hmodel, Store.addRelatedTable, Store.addRelated, Store.modifyQuery, hq,
        Store.query_newQuery hq, Store.query_newQuery_self, Selection.addRelated,
        Selection.ofSchema, Bind.bind, Except.bind]
      cases q.schema.resolveColumn source with
      | error e => rfl
      | ok c => cases table.resolveColumn innerSource <;> rfl
  | inner hq houter hinner hs =>
      subst hs
      simp only [apply, Store.addRelated, Store.modifyQuery, hq, hinner, Selection.addRelated,
        houter, Bind.bind, Except.bind]
      cases Schema.resolveColumn _ source <;> rfl
  | innerOfModel hq houter hmodel =>
      simp only [apply, hmodel, Store.addRelatedTable, Store.addRelated, Store.modifyQuery, hq,
        Store.query_newQuery hq, Store.query_newQuery_self, Selection.addRelated,
        Selection.ofSchema, houter, Bind.bind, Except.bind]
      cases s.resolveColumn source <;> rfl
  | @start r q form make hq hs hsets =>
      subst hs
      simp only [apply, Store.startUpdate, hq, hsets.source_eq hnames, Bind.bind, Except.bind]
      cases q.schema.resolveColumn source with
      | error e => rfl
      | ok c =>
          dsimp only
          cases make ⟨c, some q.schema.tableName⟩ <;> rfl
  | @assign r u q form make hu hq hs hsets =>
      subst hs
      simp only [apply, Store.addAssignment, Store.updateSchema, hu, hq, hsets.source_eq hnames,
        Bind.bind, Except.bind, Pure.pure, Except.pure]
      cases q.schema.resolveColumn source with
      | error e => rfl
      | ok c =>
          dsimp only
          cases make ⟨c, some q.schema.tableName⟩ <;> rfl

/-! ## Clauses on a column -/

/-- Whether a condition is written with the column in front, alone and in every statement. -/
structure Clause.Renders (c : Clause Query) (column : String) : Prop where
  written : ∀ d q draft, ∃ rest next,
    outcome (Clause.write d q c) draft = (.ok (q.column column ++ rest), next)
  compiled : ∀ (request : Request) s, request.query? = some s → c ∈ s.conditions →
    ∀ settings b statement events,
      request.compile settings (.ofBuiltIn b) = .ok (some (statement, events)) →
      ∃ q : Qualifier, q.isOwn = true ∧ ∃ before after, statement.sql =
        before ++ Fragment.text (.ofBuiltIn b) (q.column column) ++ after

/-- What is in a clause of a list is in the list. -/
theorem Clause.mem_clausesAll {c c' : Clause Query} {cs : List (Clause Query)} (hc : c ∈ cs)
    (hc' : c' ∈ c.clauses) : c' ∈ clausesAll cs := by
  induction cs with
  | nil => cases hc
  | cons first rest ih =>
      rw [clausesAll_cons, List.mem_append]
      rcases List.mem_cons.1 hc with rfl | hc
      · exact .inl hc'
      · exact .inr (ih hc)

/-- A condition without a sub-query that is laid out with the column in front is written so. -/
theorem Clause.Renders.of_layout {c : Clause Query} {column : String}
    (hfaults : ∀ d, c.faults d = []) (hown : c ∈ c.clauses)
    (hlayout : ∀ d q issued aliases, q.column column <+: c.layout d q issued aliases) :
    c.Renders column where
  written d q draft := by
    obtain ⟨rest, hrest⟩ := hlayout d q draft.issued draft.aliases
    refine ⟨rest, draft.advance c.values c.subqueries.length, ?_⟩
    rw [(Clause.spec_write d q c).writes (hfaults d) draft, hrest]
  compiled request s hs hc settings b statement events h := by
    obtain ⟨f, vs, hf, -, hsql, -⟩ := Request.exists_of_compile h
    obtain ⟨q, issued, aliases, hq, hparts⟩ := Request.exists_infix_of_layout hs hf
    have hmem : c ∈ (Query.mk s).clauses := by
      rw [Query.clauses_mk, List.mem_append]
      exact .inl (Clause.mem_clausesAll hc hown)
    obtain ⟨part, hpart, q', issued', aliases', hq', hinside⟩ :=
      Query.exists_infix_of_mem (b := b) hmem hq issued aliases
    have hcolumn : q'.column column <:+: f :=
      (hlayout _ q' issued' aliases').isInfix.trans
        (hinside.trans ((infix_conjunction hpart).trans hparts))
    obtain ⟨before, after, htext⟩ := Fragment.exists_text_of_infix hcolumn (.ofBuiltIn b)
    exact ⟨q', hq', before, after, by rw [hsql, htext]⟩

/-- A clause that remembers a table holds no reference, and is written with its column in front. -/
theorem Clause.exists_renders {ρ : Type} {c : Clause ρ} {column table : String}
    (hcolumn : c.column? = some column) (htable : c.table? = some table) :
    ∃ c' : Clause Query, c.IsPlain c' ∧ c'.Renders column := by
  cases c with
  | compare name op value negated table' =>
      cases hcolumn
      refine ⟨.compare column op value negated table', fun _ => rfl,
        .of_layout (fun _ => rfl) List.mem_cons_self ?_⟩
      intro d q issued aliases
      rw [Clause.layout]
      split
      · exact List.prefix_append _ _
      · exact List.prefix_append _ _
  | assign name value table' =>
      cases hcolumn
      refine ⟨.assign column value table', fun _ => rfl,
        .of_layout (fun _ => rfl) List.mem_cons_self ?_⟩
      intro d q issued aliases
      rw [Clause.layout]
      exact List.prefix_append _ _
  | assignNull name table' =>
      cases hcolumn
      refine ⟨.assignNull column table', fun _ => rfl,
        .of_layout (fun _ => rfl) List.mem_cons_self ?_⟩
      intro d q issued aliases
      rw [Clause.layout]
      exact List.prefix_append _ _
  | manual name template table' =>
      cases hcolumn
      refine ⟨.manual column template table', fun _ => rfl,
        .of_layout (fun _ => rfl) List.mem_cons_self ?_⟩
      intro d q issued aliases
      rw [Clause.layout]
      exact List.prefix_append _ _
  | related => cases htable
  | among => cases htable

/-- What the handle of a column makes is written with the column in front. -/
theorem Handle.Makes.exists_renders {ρ : Type} {h : Handle} {clause : Clause ρ} {table : String}
    (hc : h.Makes clause) (htable : h.table = some table) :
    ∃ clause' : Clause Query, clause.IsPlain clause' ∧ clause'.Renders h.column.name :=
  Clause.exists_renders hc.column? (hc.table?.trans htable)

/-! ## All ways -/

/-- A clause of the table's own handle becomes the last condition, however it is given. -/
theorem Edit.exists_apply_condition {st : Store} {s : Schema} {r : QueryRef}
    {q : Selection QueryRef} {c : Column} {clause : Clause QueryRef} {clause' : Clause Query}
    {source : ClauseSource QueryRef} (hq : st.query r = .ok q) (hs : q.schema = s)
    (hc : c ∈ s.columns) (hmakes : Handle.Makes ⟨c, some s.tableName⟩ clause)
    (hplain : clause.IsPlain clause') (hsource : source s = .ok clause) :
    ∃ st', (Edit.condition r source).apply st = .ok (.query r, st') ∧
      st'.query r = .ok { q with conditions := q.conditions ++ [clause] } ∧
      ∀ selection, r.isUpdate = false → st.settle r = .ok (.mk selection) →
        st'.settle r = .ok (.mk
          { selection with conditions := selection.conditions ++ [clause'] }) := by
  have hresolve : s.resolveClause source = .ok clause := by
    rw [Schema.resolveClause, hsource]
    exact hmakes.accepted rfl (Schema.name_mem_columnNames hc)
  subst hs
  have hchange : q.addCondition source =
      .ok { q with conditions := q.conditions ++ [clause] } := by
    rw [Selection.addCondition, hresolve]
    rfl
  obtain ⟨st', hadd, hquery⟩ : ∃ st', st.addCondition r source = .ok st' ∧
      st'.query r = .ok { q with conditions := q.conditions ++ [clause] } :=
    Store.exists_modifyQuery hq hchange
  have happly : (Edit.condition r source).apply st = .ok (.query r, st') := by
    rw [apply, hadd]
    rfl
  refine ⟨st', happly, hquery, ?_⟩
  intro selection hr hsettle
  obtain ⟨st'', hadd', hsettled⟩ := Store.settle_addCondition hq hr hsettle hresolve hplain
  obtain rfl : st' = st'' := Except.ok.inj (hadd.symm.trans hadd')
  exact hsettled

namespace Schema

/--
All ways of naming a column agree.  Either the name stands for a column: then
it gives the handle of this column; the name, the handle and a function that
answers with either all lead to it, and every call that takes a column does
with any of them what it does for this one; and what the handle makes is
accepted on a query over the table, however it is given, stands last among
the conditions when references are followed, and is written with the column in
front.  Or no field and no column has the name: then there is no handle, and
all ways and all calls fail, with the name, the table and its columns.
-/
theorem named_alike {s : Schema} (hnames : s.columnNames.Nodup) (name : String) :
    (∃ c, s.Designates name c ∧ s.handleNamed (.text name) = .ok ⟨c, some s.tableName⟩ ∧
      (∀ source, s.Names name source → s.resolveColumn source = .ok c ∧
        ∀ st e answer, Edit.Takes st s source e answer → e.apply st = answer c) ∧
      ∀ clause : Clause QueryRef, Handle.Makes ⟨c, some s.tableName⟩ clause →
        ∃ clause' : Clause Query, clause'.Renders c.name ∧
          ∀ st r q source, st.query r = .ok q → q.schema = s → source s = .ok clause →
            ∃ st', (Edit.condition r source).apply st = .ok (.query r, st') ∧
              st'.query r = .ok { q with conditions := q.conditions ++ [clause] } ∧
              ∀ selection, r.isUpdate = false → st.settle r = .ok (.mk selection) →
                st'.settle r = .ok (.mk
                  { selection with conditions := selection.conditions ++ [clause'] })) ∨
    (∀ c ∈ s.columns, c.fieldName ≠ name ∧ c.name ≠ name) ∧
      s.handleNamed (.text name) =
        .error (.missingColumn (.text name) s.tableName s.columnNames) ∧
      (∀ source, s.Names name source →
        s.resolveColumn source =
          .error (.missingColumn (.text name) s.tableName s.columnNames) ∧
        ∀ st e answer, Edit.Takes st s source e answer →
          e.apply st = .error (.missingColumn (.text name) s.tableName s.columnNames)) ∧
      ∀ (make : Handle → Except Error (Clause QueryRef)) st r q, st.query r = .ok q →
        q.schema = s →
        (Edit.condition r fun t => do make (← t.handleNamed (.text name))).apply st =
          .error (.missingColumn (.text name) s.tableName s.columnNames) := by
  rcases s.exists_designates_or name with ⟨c, hc⟩ | hnone
  · left
    have hfound := (columnForField_eq_ok_iff hnames).2 hc
    have hhandle : s.handleNamed (.text name) = .ok ⟨c, some s.tableName⟩ := by
      rw [handleNamed_eq, hfound]
      rfl
    refine ⟨c, hc, hhandle, ?_, ?_⟩
    · intro source hsource
      have hresolve := (hsource.resolveColumn_eq hnames).trans hfound
      refine ⟨hresolve, ?_⟩
      intro st e answer htakes
      rw [htakes.apply_eq hnames, hresolve]
      rfl
    · intro clause hmakes
      obtain ⟨clause', hplain, hrenders⟩ := hmakes.exists_renders rfl
      refine ⟨clause', hrenders, ?_⟩
      intro st r q source hq hs hsource
      exact Edit.exists_apply_condition hq hs hc.mem hmakes hplain hsource
  · right
    have hmissing := columnForField_of_forall_ne hnone
    have hhandle : s.handleNamed (.text name) = .error (s.missing (.text name)) := by
      rw [handleNamed_eq, hmissing]
      rfl
    refine ⟨hnone, hhandle, ?_, ?_⟩
    · intro source hsource
      have hresolve := (hsource.resolveColumn_eq hnames).trans hmissing
      refine ⟨hresolve, ?_⟩
      intro st e answer htakes
      rw [htakes.apply_eq hnames, hresolve]
      rfl
    · intro make st r q hq hs
      subst hs
      simp only [Edit.apply, Store.addCondition, Store.modifyQuery, hq, Selection.addCondition,
        resolveClause, hhandle, Bind.bind, Except.bind]
      rfl

/-- Pairs, with each column's field named like the other column. -/
def pairs : Schema where
  identifier := ["pairs"]
  columns := [
    { name := "left", type := "int", field := some "right" },
    { name := "right", type := "int", field := some "left" }]
  primaryKeys := ["left"]

/-- The name of the one column stands for the other one, and a third name for none. -/
theorem named_alike_pairs :
    pairs.columnNames.Nodup ∧
      (∀ source, pairs.Names "left" source → ∃ c, c.name = "right" ∧
        pairs.resolveColumn source = .ok c) ∧
      ∀ source, pairs.Names "middle" source → pairs.resolveColumn source =
        .error (.missingColumn (.text "middle") "pairs" ["left", "right"]) := by
  have hnames : pairs.columnNames.Nodup := by decide
  refine ⟨hnames, ?_, ?_⟩
  · intro source hsource
    rcases named_alike hnames "left" with ⟨c, hc, hhandle, hall, -⟩ | ⟨hnone, -⟩
    · cases hhandle
      exact ⟨_, rfl, (hall source hsource).1⟩
    · exact absurd rfl (hnone _ (List.mem_cons_self)).2
  · intro source hsource
    rcases named_alike hnames "middle" with ⟨c, hc, hhandle, -⟩ | ⟨-, -, hall, -⟩
    · cases hhandle
    · exact (hall source hsource).1

end Schema

end SqlCompose
