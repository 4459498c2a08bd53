import SqlCompose.Proofs.Query.Built
import SqlCompose.Proofs.Statement.Citation

/-!
# Columns are declared by their tables

The columns that a statement names are those that its query cites, each of
the table that its alias stands for.  In a query that was built step by step
almost all of them are declared there, since each call checks what it names.
There is one gap: a condition with a query in it, given ready made, is asked
for its own column only.  The inner column of a condition on another table is
taken as it is, and so is the key of a list of rows on the outer table.

So a statement names a column that its table has not just where such a
condition does (`Clause.Fits`), at any depth.

## Main results

* `Selection.isDeclared_citations_iff` — when everything that a query cites
  is declared.
* `Request.columns_of_compile` — which columns a compiled statement names, and
  what the gate for conditions lets through.
* `Request.columns_answersByColour` — a statement with a column that its table
  has not.
-/

namespace SqlCompose

open Fragment

/-! ## Trees -/

/-- Whether what is cited is declared, if it is a column. -/
def Citation.IsDeclared : Citation → Prop
  | column s name => name ∈ s.columnNames
  | table _ => True

@[simp] theorem Citation.isDeclared_column (s : Schema) (name : String) :
    (column s name).IsDeclared ↔ name ∈ s.columnNames := Iff.rfl

@[simp] theorem Citation.isDeclared_table (s : Schema) : (table s).IsDeclared := trivial

theorem Citation.isDeclared_order {ρ : Type} {s : Selection ρ} {schemaOf : ρ → Option Schema}
    (h : s.IsResolved schemaOf) :
    ∀ x ∈ s.order.map fun o => column s.schema o.column, x.IsDeclared := by
  intro x hx
  obtain ⟨o, ho, rfl⟩ := List.mem_map.1 hx
  exact h.order o ho

/--
Whether the column that a condition on a table takes from the query in it, or
for it, is declared: the inner column by the table of the query, and the key
of a list of rows by the table that the condition is on.
-/
def Clause.Fits (s : Schema) : Clause Query → Prop
  | related _ inner innerColumn _ => innerColumn ∈ inner.selection.schema.columnNames
  | among query _ => query.selection.schema.firstKey ∈ s.columnNames
  | _ => True

/-- So it is with the conditions of a query that may have been given ready made. -/
def Query.Fits (q : Query) : Prop := ∀ c ∈ q.selection.conditions, c.Fits q.selection.schema

/-- The key by which rows are found again is declared. -/
theorem Schema.firstKey_mem {s : Schema} {c : Column} (h : s.uniqueColumn = .ok c) :
    s.firstKey ∈ s.columnNames := by
  rw [firstKey_of_uniqueColumn h]
  unfold uniqueColumn at h
  split at h
  · rename_i found rest hkeys
    cases h
    have hmem : c ∈ s.keyColumns := hkeys ▸ List.mem_cons_self
    exact name_mem_columnNames (mem_of_keyColumns hmem)
  · cases h

/-- A dialect can write a list of rows only if there is a key to find them by. -/
theorem Clause.firstKey_mem_of_faults {d : Dialect} {query : Query} {column : Option String}
    (h : (Clause.among query column).faults d = []) :
    query.selection.schema.firstKey ∈ query.selection.schema.columnNames := by
  cases hkey : query.selection.schema.uniqueColumn with
  | ok c => exact Schema.firstKey_mem hkey
  | error e => simp [faults, hkey] at h

section Trees

variable {d : Dialect}

private def Clause.IsJudged (d : Dialect) (c : Clause Query) : Prop :=
  ∀ s : Schema, c.faults d = [] →
    (∀ column, c.column? = some column → column ∈ s.columnNames) →
    (∀ q ∈ c.subqueries, q.IsResolved) →
    ((∀ x ∈ c.citations s, x.IsDeclared) ↔ c.Fits s ∧ ∀ q ∈ c.subqueries, q.Fits)

private def Query.IsJudged (d : Dialect) (q : Query) : Prop :=
  q.faults d = [] → (∀ q' ∈ q :: q.subqueries, q'.IsResolved) →
    ((∀ x ∈ q.citations, x.IsDeclared) ↔ ∀ q' ∈ q :: q.subqueries, q'.Fits)

private theorem isDeclared_citationsAll_iff {cs : List (Clause Query)}
    (h : ∀ c ∈ cs, c.IsJudged d) {s : Schema} (hfaults : Clause.faultsAll d cs = [])
    (hown : ∀ c ∈ cs, ∀ column, c.column? = some column → column ∈ s.columnNames)
    (hresolved : ∀ q ∈ Clause.subqueriesAll cs, q.IsResolved) :
    (∀ x ∈ Clause.citationsAll s cs, x.IsDeclared) ↔
      (∀ c ∈ cs, c.Fits s) ∧ ∀ q ∈ Clause.subqueriesAll cs, q.Fits := by
  induction cs with
  | nil => simp [Clause.citationsAll, Clause.subqueriesAll]
  | cons c rest ih =>
      obtain ⟨hfault, hfaults⟩ := List.append_eq_nil_iff.1 hfaults
      rw [Clause.subqueriesAll_cons, List.forall_mem_append] at hresolved
      rw [List.forall_mem_cons] at h hown
      rw [Clause.citationsAll, Clause.subqueriesAll_cons, List.forall_mem_append,
        List.forall_mem_append, List.forall_mem_cons, h.1 s hfault hown.1 hresolved.1,
        ih h.2 hfaults hown.2 hresolved.2]
      constructor
      · rintro ⟨⟨hc, hq⟩, hcs, hqs⟩
        exact ⟨⟨hc, hcs⟩, hq, hqs⟩
      · rintro ⟨⟨hc, hcs⟩, hq, hqs⟩
        exact ⟨⟨hc, hq⟩, hcs, hqs⟩

private theorem isJudged_hereditary (d : Dialect) :
    Hereditary (Clause.IsJudged d) (Query.IsJudged d) where
  compare column op value negated table s _ hown _ := by
    simp [Clause.citations, Clause.Fits, Clause.subqueries, hown column rfl]
  assign column value table s _ hown _ := by
    simp [Clause.citations, Clause.Fits, Clause.subqueries, hown column rfl]
  assignNull column table s _ hown _ := by
    simp [Clause.citations, Clause.Fits, Clause.subqueries, hown column rfl]
  manual column template table s _ hown _ := by
    simp [Clause.citations, Clause.Fits, Clause.subqueries, hown column rfl]
  related column inner innerColumn negated ih s hfaults hown hresolved := by
    have hqueries : (Clause.related column inner innerColumn negated).subqueries =
        inner :: inner.subqueries := rfl
    rw [hqueries] at hresolved ⊢
    have hinner := ih hfaults hresolved
    simp only [Clause.citations, List.forall_mem_cons, Citation.isDeclared_column,
      Citation.isDeclared_table, Clause.Fits, hown column rfl, hinner, true_and, and_self_left]
  among query column ih s hfaults _ hresolved := by
    have hqueries : (Clause.among query column).subqueries = query :: query.subqueries := rfl
    rw [hqueries] at hresolved ⊢
    have hkey := Clause.firstKey_mem_of_faults hfaults
    have horder := Citation.isDeclared_order (hresolved query List.mem_cons_self)
    have hinner := ih (List.append_eq_nil_iff.1 hfaults).2 hresolved
    simp only [Clause.citations, List.forall_mem_cons, List.forall_mem_append,
      Citation.isDeclared_column, Citation.isDeclared_table, Clause.Fits, hkey, hinner, true_and]
    exact and_congr_right fun _ => and_iff_left horder
  selection s hconditions hrelated hfaults hresolved := by
    obtain ⟨hown, htree⟩ := List.forall_mem_cons.1 hresolved
    rw [Query.IsResolved, Query.selection_mk] at hown
    rw [Query.subqueries_mk, List.forall_mem_append] at htree
    obtain ⟨hfirst, hothers⟩ := List.append_eq_nil_iff.1 hfaults
    have hconditions := isDeclared_citationsAll_iff hconditions hfirst hown.conditions htree.1
    -- A row of another table is related by columns that were both resolved.
    have hfits : ∀ c ∈ s.related, (∀ column, c.column? = some column →
        column ∈ s.schema.columnNames) ∧ c.Fits s.schema := by
      intro c hc
      obtain ⟨column, inner, innerColumn, negated, schema, rfl, houter, hinner, hmem⟩ :=
        hown.related c hc
      cases hinner
      refine ⟨fun name hname => ?_, hmem⟩
      cases hname
      exact houter
    have hrelated := isDeclared_citationsAll_iff hrelated hothers (fun c hc => (hfits c hc).1)
      htree.2
    rw [Query.citations_mk, List.forall_mem_append, hconditions, hrelated, List.forall_mem_cons,
      Query.subqueries_mk, List.forall_mem_append]
    constructor
    · rintro ⟨⟨hc, hq⟩, -, hq'⟩
      exact ⟨hc, hq, hq'⟩
    · rintro ⟨hc, hq, hq'⟩
      exact ⟨⟨hc, hq⟩, fun c hc => (hfits c hc).2, hq'⟩
  unwritable schema reason hfaults _ := by
    cases hfaults

end Trees

/--
Everything that a query names is declared just where each condition with a
query in it fits.
-/
theorem Selection.isDeclared_citations_iff {d : Dialect} {s : Selection Query}
    (hfaults : (Query.mk s).faults d = [])
    (hresolved : ∀ q ∈ .mk s :: (Query.mk s).subqueries, q.IsResolved) :
    (∀ x ∈ s.citations, x.IsDeclared) ↔ ∀ q ∈ .mk s :: (Query.mk s).subqueries, q.Fits := by
  have hcolumns : ∀ x ∈ s.schema.columns.map fun c => Citation.column s.schema c.name,
      x.IsDeclared := by
    intro x hx
    obtain ⟨c, hc, rfl⟩ := List.mem_map.1 hx
    exact Schema.name_mem_columnNames hc
  have horder := Citation.isDeclared_order (hresolved (.mk s) List.mem_cons_self)
  have htree := (isJudged_hereditary d).query (.mk s) hfaults hresolved
  rw [citations, List.forall_mem_append, List.forall_mem_cons, List.forall_mem_append, htree]
  constructor
  · rintro ⟨-, -, h, -⟩
    exact h
  · intro h
    exact ⟨hcolumns, trivial, h, horder⟩

/-! ## Statements -/

/-- The columns that are seen are declared just where those that are cited are. -/
theorem Fragment.Cites.isDeclared_iff {tables : Nat → Option Schema} {f : Fragment}
    {cited : List Citation} {numbers : List Nat} (h : Cites tables f cited numbers) :
    (∀ n name, .column n name ∈ f.sightings → ∃ t, tables n = some t ∧ name ∈ t.columnNames) ↔
      ∀ c ∈ cited, c.IsDeclared := by
  constructor
  · intro hseen c hc
    obtain ⟨x, hx, hdenote⟩ := h.exists_of_cited hc
    cases x with
    | column n name =>
        obtain ⟨t, ht, hmem⟩ := hseen n name hx
        rw [Sighting.denotation, ht] at hdenote
        cases hdenote
        exact hmem
    | table identifier n =>
        obtain ⟨t, -, hdenote⟩ := Option.bind_eq_some_iff.1 hdenote
        split at hdenote
        · cases hdenote
          exact trivial
        · cases hdenote
    | stray name => cases hdenote
  · intro hcited n name hx
    obtain ⟨c, hc, hdenote⟩ := h.exists_of_mem hx
    obtain ⟨t, ht, rfl⟩ := Option.map_eq_some_iff.1 hdenote
    exact ⟨t, ht, hcited _ hc⟩

namespace Request

/--
Of every query in a store that was built step by step a compiled statement
names the tables, each once and in the order of their aliases, and columns
behind these aliases, and no other names.  The columns are all declared by
the tables that their aliases stand for just where every condition with a
query in it fits.  A clause becomes a condition of a query just where its own
column, if it has one, is declared by the table of the query.
-/
theorem columns_of_compile {st : Store} (hst : st.IsBuilt) :
    (∀ r s settings d statement events, st.settle r = .ok (.mk s) →
      (fetch s).compile settings d = .ok (some (statement, events)) →
      ∃ w f draft, (fetch s).blueprint = .ok (some w) ∧
        Writing.outcome (w d) {} = (.ok f, draft) ∧ statement.sql = f.text d ∧
        f.sightings.filterMap Sighting.declared? = List.range' 1 (fetch s).listCount ∧
        (∀ identifier n, .table identifier n ∈ f.sightings →
          ∃ t, s.tableOf n = some t ∧ t.identifier = identifier) ∧
        (∀ name, .stray name ∉ f.sightings) ∧
        ((∀ n name, .column n name ∈ f.sightings →
            ∃ t, s.tableOf n = some t ∧ name ∈ t.columnNames) ↔
          ∀ q ∈ .mk s :: (Query.mk s).subqueries, q.Fits)) ∧
    ∀ r s source c, st.query r = .ok s → source s.schema = .ok c →
      (s.schema.Admits c → ∃ st', st.addCondition r source = .ok st' ∧
        st'.query r = .ok { s with conditions := s.conditions ++ [c] }) ∧
      (¬ s.schema.Admits c → ∃ column, c.column? = some column ∧
        ((∃ t, c.table? = some t ∧ t ≠ s.schema.tableName ∧ st.addCondition r source =
            .error (.compilation (.foreignColumn t column s.schema.tableName))) ∨
          column ∉ s.schema.columnNames ∧
            st.addCondition r source = .error (s.schema.missing (.text column)))) := by
  constructor
  · intro r s settings d statement events hsettle h
    obtain ⟨w, hw, hcompile⟩ := exists_blueprint_of_compile h
    obtain ⟨f, draft, hok, hsql, -⟩ := Blueprint.exists_of_compile hcompile
    obtain ⟨hlayout, -⟩ := exists_of_written hw hok
    have hfaults : (Query.mk s).faults d = [] := by
      cases hw
      exact ((s.spec_fetch d).of_ok hok).1
    cases hlayout
    have hcites := s.cites_fetchLayout d
    have hresolved := (hst.isResolved.settle hsettle).2
    refine ⟨w, _, draft, hw, hok, hsql, hcites.filterMap_declared, ?_, ?_, ?_⟩
    · intro identifier n hx
      obtain ⟨c, -, hdenote⟩ := hcites.exists_of_mem hx
      obtain ⟨t, ht, hdenote⟩ := Option.bind_eq_some_iff.1 hdenote
      split at hdenote
      · rename_i hidentifier
        exact ⟨t, ht, hidentifier⟩
      · cases hdenote
    · intro name hx
      obtain ⟨c, -, hdenote⟩ := hcites.exists_of_mem hx
      cases hdenote
    · rw [hcites.isDeclared_iff]
      exact Selection.isDeclared_citations_iff hfaults hresolved
  · intro r s source c hs hc
    refine ⟨fun h => Store.addCondition_of_admits hs hc h, fun h => ?_⟩
    obtain ⟨column, hcolumn, ⟨t, ht, hother, herror⟩ | ⟨hmem, herror⟩⟩ :=
      Schema.accept_of_not_admits h
    · exact ⟨column, hcolumn, .inl ⟨t, ht, hother, Store.addCondition_of_error hs hc herror⟩⟩
    · exact ⟨column, hcolumn, .inr ⟨hmem, Store.addCondition_of_error hs hc herror⟩⟩

/-- The answers whose number stands in a column of some answer, in the order of what they are to. -/
def answersBy (column : String) : Selection Query where
  schema := answers
  conditions := [.related "id" anyAnswer column false]
  order := [⟨"parent", .descending⟩]

/-- The calls that build it, the condition given ready made. -/
def selectAnswersBy (column : String) : Except Error (QueryRef × Store) := do
  let (inner, st) := Store.newQuery {} answers
  let (outer, st) := st.newQuery answers
  let st ← st.addCondition outer fun _ => .ok (.related "id" inner column false)
  let st ← st.addOrder outer (fun _ => .ok (.named (.text "parent"))) .descending
  return (outer, st)

/-- The calls succeed, whatever the column is called. -/
theorem exists_selectAnswersBy (column : String) :
    ∃ r st q, selectAnswersBy column = .ok (r, st) ∧ st.IsBuilt ∧ st.query r = .ok q ∧
      q.schema = answers ∧ st.settle r = .ok (.mk (answersBy column)) := by
  obtain ⟨r, st, q, hselect, hquery, hschema, hsettle⟩ : ∃ r st q,
      selectAnswersBy column = .ok (r, st) ∧ st.query r = .ok q ∧ q.schema = answers ∧
        st.settle r = .ok (.mk (answersBy column)) := ⟨_, _, _, rfl, rfl, rfl, rfl⟩
  refine ⟨r, st, q, hselect, ?_, hquery, hschema, hsettle⟩
  obtain ⟨st', hcondition, h⟩ := exists_of_bind hselect
  obtain ⟨st'', horder, h⟩ := exists_of_bind h
  cases h
  exact (((Store.IsBuilt.empty.step (.newQuery answers)).step (.newQuery answers)).step
    (.addCondition hcondition)).step (.addOrder horder)

set_option maxRecDepth 4000 in
/--
The answers to an answer are found by a column that they have; one that they
have not is refused where it is a condition's own.
-/
theorem columns_answersByParent :
    ∃ r st statement events, selectAnswersBy "parent" = .ok (r, st) ∧ st.IsBuilt ∧
      st.settle r = .ok (.mk (answersBy "parent")) ∧
      (fetch (answersBy "parent")).compile (.ok {}) .postgres = .ok (some (statement, events)) ∧
      statement.sql = "SELECT t1.\"id\", t1.\"parent\" FROM \"answers\" t1 WHERE ( EXISTS ( " ++
        "SELECT t2.\"parent\" FROM \"answers\" t2 WHERE t2.\"parent\" = t1.\"id\" ) ) " ++
        "ORDER BY t1.\"parent\" DESC" ∧
      (∃ f : Fragment, statement.sql = f.text .postgres ∧
        f.sightings.filterMap Sighting.declared? = [1, 2] ∧
        ∀ n name, .column n name ∈ f.sightings →
          ∃ t, (answersBy "parent").tableOf n = some t ∧ name ∈ t.columnNames) ∧
      st.addCondition r (fun _ => .ok (.compare "colour" .eq (.text "red") false none)) =
        .error (answers.missing (.text "colour")) := by
  obtain ⟨r, st, q, hselect, hst, hquery, hschema, hsettle⟩ := exists_selectAnswersBy "parent"
  obtain ⟨statement, events, hcompile, hsql⟩ : ∃ statement events,
      (fetch (answersBy "parent")).compile (.ok {}) .postgres = .ok (some (statement, events)) ∧
        statement.sql = "SELECT t1.\"id\", t1.\"parent\" FROM \"answers\" t1 " ++
          "WHERE ( EXISTS ( SELECT t2.\"parent\" FROM \"answers\" t2 " ++
          "WHERE t2.\"parent\" = t1.\"id\" ) ) ORDER BY t1.\"parent\" DESC" := ⟨_, _, rfl, rfl⟩
  have hfits : ∀ q ∈ .mk (answersBy "parent") :: (Query.mk (answersBy "parent")).subqueries,
      q.Fits := by
    simp [Query.subqueries_mk, Clause.subqueriesAll, answersBy, anyAnswer, Query.gather_mk,
      Query.Fits, Clause.Fits, answers, Schema.columnNames]
  obtain ⟨hstatement, hgate⟩ := columns_of_compile hst
  obtain ⟨-, f, -, -, -, htext, hnumbers, -, -, hdeclared⟩ :=
    hstatement r _ _ _ _ _ hsettle hcompile
  have hundeclared : ¬ q.schema.Admits
      (.compare "colour" .eq (.text "red") false none : Clause QueryRef) := by
    intro h
    have hmem := (h "colour" rfl).1
    rw [hschema] at hmem
    revert hmem
    decide
  obtain ⟨column, hcolumn, hrefused⟩ := (hgate r q (fun _ => .ok _) _ hquery rfl).2 hundeclared
  cases hcolumn
  obtain ⟨t, ht, -⟩ | ⟨-, herror⟩ := hrefused
  · cases ht
  · rw [hschema] at herror
    exact ⟨r, st, statement, events, hselect, hst, hsettle, hcompile, hsql,
      ⟨f, htext, hnumbers, hdeclared.2 hfits⟩, herror⟩

set_option maxRecDepth 4000 in
/-- They are looked for by a column that no answer has, and nothing is refused. -/
theorem columns_answersByColour :
    ∃ r st statement events, selectAnswersBy "colour" = .ok (r, st) ∧ st.IsBuilt ∧
      st.settle r = .ok (.mk (answersBy "colour")) ∧
      (fetch (answersBy "colour")).compile (.ok {}) .postgres = .ok (some (statement, events)) ∧
      statement.sql = "SELECT t1.\"id\", t1.\"parent\" FROM \"answers\" t1 WHERE ( EXISTS ( " ++
        "SELECT t2.\"colour\" FROM \"answers\" t2 WHERE t2.\"colour\" = t1.\"id\" ) ) " ++
        "ORDER BY t1.\"parent\" DESC" ∧
      ∃ f : Fragment, statement.sql = f.text .postgres ∧ .column 2 "colour" ∈ f.sightings ∧
        .table ["answers"] 2 ∈ f.sightings ∧
        (answersBy "colour").tableOf 2 = some answers ∧ "colour" ∉ answers.columnNames := by
  obtain ⟨r, st, -, hselect, hst, -, -, hsettle⟩ := exists_selectAnswersBy "colour"
  exact ⟨r, st, _, _, hselect, hst, hsettle, rfl, rfl,
    (answersBy "colour").fetchLayout .postgres 0 0, rfl, by decide, by decide, rfl, by decide⟩

end Request

end SqlCompose
