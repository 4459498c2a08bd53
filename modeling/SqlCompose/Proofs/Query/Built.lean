import SqlCompose.Proofs.Query.Assignment
import SqlCompose.Proofs.Query.Tree

/-!
# Stores that are built step by step

A store starts empty and grows by one call at a time (`Store.Step`).  A call
checks the columns that it names: a condition's own column, the two columns
by which a row of another table is related, and a column to order by.  The
table of a query never changes, so what was checked once stays right
(`Store.IsResolved`), and it is right of every query in the tree that a
reference is settled to.

Of a clause that the caller gives, only its own column is checked.  What the
gate lets through is said exactly (`Schema.accept_of_admits`,
`Schema.accept_of_not_admits`).

## Main results

* `Store.IsResolved.step`, `Store.IsBuilt.isResolved` — in every store that
  can be reached, the columns that calls have checked are declared.
* `Store.IsResolved.settle` — so they are in the whole tree of a query.
-/

namespace SqlCompose

/-! ## The gate for clauses -/

namespace Schema

variable {ρ : Type} {s : Schema} {c : Clause ρ}

/--
Whether a clause may become a condition on the table: its own column, if it
has one, is declared, and was not taken from a table of another name.
-/
def Admits (s : Schema) (c : Clause ρ) : Prop :=
  ∀ column, c.column? = some column →
    column ∈ s.columnNames ∧ ∀ t, c.table? = some t → t = s.tableName

theorem column_of_mem {name : String} (h : name ∈ s.columnNames) :
    ∃ c, s.column name = .ok c := by
  obtain ⟨c, hc⟩ := Option.isSome_iff_exists.1 (find?_isSome h)
  exact ⟨c, by rw [column, hc]⟩

theorem column_of_not_mem {name : String} (h : name ∉ s.columnNames) :
    s.column name = .error (s.missing (.text name)) := by
  unfold column
  split
  · rename_i c hc
    rw [← name_of_find? hc] at h
    exact absurd (name_mem_columnNames (mem_of_find? hc)) h
  · rfl

theorem checkTable_of_forall {table : Option String} (column : String)
    (h : ∀ t, table = some t → t = s.tableName) : s.checkTable table column = .ok () := by
  cases table with
  | none => rfl
  | some t => exact if_pos (h t rfl)

theorem checkTable_of_ne {t : String} (column : String) (h : t ≠ s.tableName) :
    s.checkTable (some t) column = .error (.compilation (.foreignColumn t column s.tableName)) :=
  if_neg h

theorem accept_of_admits (h : s.Admits c) : s.accept c = .ok c := by
  unfold accept
  split
  · rfl
  · rename_i column hcolumn
    obtain ⟨hmem, htable⟩ := h column hcolumn
    obtain ⟨found, hfound⟩ := column_of_mem hmem
    rw [checkTable_of_forall column htable, hfound]
    rfl

/-- What is not admitted is refused for its table, or else for its column. -/
theorem accept_of_not_admits (h : ¬ s.Admits c) :
    ∃ column, c.column? = some column ∧
      ((∃ t, c.table? = some t ∧ t ≠ s.tableName ∧
          s.accept c = .error (.compilation (.foreignColumn t column s.tableName))) ∨
        column ∉ s.columnNames ∧ s.accept c = .error (s.missing (.text column))) := by
  obtain ⟨column, hcolumn, hnot⟩ : ∃ column, c.column? = some column ∧
      ¬ (column ∈ s.columnNames ∧ ∀ t, c.table? = some t → t = s.tableName) := by
    simpa [Admits] using h
  refine ⟨column, hcolumn, ?_⟩
  unfold accept
  rw [hcolumn]
  by_cases htable : ∀ t, c.table? = some t → t = s.tableName
  · have hmem : column ∉ s.columnNames := fun hmem => hnot ⟨hmem, htable⟩
    refine .inr ⟨hmem, ?_⟩
    simp only [checkTable_of_forall column htable, column_of_not_mem hmem]
    rfl
  · obtain ⟨t, ht, hother⟩ : ∃ t, c.table? = some t ∧ t ≠ s.tableName := by
      simpa using htable
    refine .inl ⟨t, ht, hother, ?_⟩
    simp only [ht, checkTable_of_ne column hother]
    rfl

theorem admits_of_accept {c' : Clause ρ} (h : s.accept c = .ok c') : c' = c ∧ s.Admits c := by
  by_cases hadmits : s.Admits c
  · rw [accept_of_admits hadmits] at h
    cases h
    exact ⟨rfl, hadmits⟩
  · obtain ⟨column, -, ⟨t, -, -, herror⟩ | ⟨-, herror⟩⟩ := accept_of_not_admits hadmits
    all_goals
      rw [herror] at h
      cases h

end Schema

/-! ## Queries -/

/--
Whether the columns of a query that calls check are declared, where
`schemaOf` says what table the query behind a reference is over.
-/
structure Selection.IsResolved {ρ : Type} (schemaOf : ρ → Option Schema) (s : Selection ρ) :
    Prop where
  conditions : ∀ c ∈ s.conditions, ∀ column, c.column? = some column →
    column ∈ s.schema.columnNames
  related : ∀ c ∈ s.related, ∃ column inner innerColumn negated schema,
    c = .related column inner innerColumn negated ∧ column ∈ s.schema.columnNames ∧
      schemaOf inner = some schema ∧ innerColumn ∈ schema.columnNames
  order : ∀ o ∈ s.order, o.column ∈ s.schema.columnNames

namespace Selection

variable {ρ : Type} {schemaOf : ρ → Option Schema} {s s' : Selection ρ}

/-- A query that was just made names no columns. -/
theorem isResolved_ofSchema (schemaOf : ρ → Option Schema) (schema : Schema) :
    (ofSchema schema : Selection ρ).IsResolved schemaOf := by
  constructor <;> simp [ofSchema]

namespace IsResolved

/-- It does not matter which queries there are besides. -/
theorem mono (h : s.IsResolved schemaOf) {schemaOf' : ρ → Option Schema}
    (hkept : ∀ r schema, schemaOf r = some schema → schemaOf' r = some schema) :
    s.IsResolved schemaOf' where
  conditions := h.conditions
  related c hc := by
    obtain ⟨column, inner, innerColumn, negated, schema, hshape, houter, hinner, hmem⟩ :=
      h.related c hc
    exact ⟨column, inner, innerColumn, negated, schema, hshape, houter, hkept _ _ hinner, hmem⟩
  order := h.order

theorem addCondition (h : s.IsResolved schemaOf) {source : ClauseSource ρ}
    (hs : s.addCondition source = .ok s') : s'.schema = s.schema ∧ s'.IsResolved schemaOf := by
  obtain ⟨c, hc, hs⟩ := exists_of_bind hs
  cases hs
  obtain ⟨given, -, haccept⟩ := exists_of_bind hc
  obtain ⟨rfl, hadmits⟩ := Schema.admits_of_accept haccept
  refine ⟨rfl, ?_, h.related, h.order⟩
  intro c' hc' column hcolumn
  rcases List.mem_append.1 hc' with hc' | hc'
  · exact h.conditions c' hc' column hcolumn
  · obtain rfl := List.mem_singleton.1 hc'
    exact (hadmits column hcolumn).1

theorem addRelated (h : s.IsResolved schemaOf) {inner : ρ} {innerSchema : Schema}
    (hinner : schemaOf inner = some innerSchema) {column innerColumn : ColumnSource}
    {negated : Bool} (hs : s.addRelated inner innerSchema column innerColumn negated = .ok s') :
    s'.schema = s.schema ∧ s'.IsResolved schemaOf := by
  obtain ⟨outer, houter, hs⟩ := exists_of_bind hs
  obtain ⟨other, hother, hs⟩ := exists_of_bind hs
  cases hs
  obtain ⟨ref, -, hresolve⟩ := exists_of_bind houter
  obtain ⟨ref', -, hresolve'⟩ := exists_of_bind hother
  refine ⟨rfl, h.conditions, ?_, h.order⟩
  intro c hc
  rcases List.mem_append.1 hc with hc | hc
  · exact h.related c hc
  · exact ⟨outer.name, inner, other.name, negated, innerSchema, List.mem_singleton.1 hc,
      Schema.name_mem_columnNames (Schema.mem_of_resolve hresolve), hinner,
      Schema.name_mem_columnNames (Schema.mem_of_resolve hresolve')⟩

theorem addOrder (h : s.IsResolved schemaOf) {column : ColumnSource} {direction : Direction}
    (hs : s.addOrder column direction = .ok s') :
    s'.schema = s.schema ∧ s'.IsResolved schemaOf := by
  obtain ⟨c, hc, hs⟩ := exists_of_bind hs
  cases hs
  obtain ⟨ref, -, hresolve⟩ := exists_of_bind hc
  refine ⟨rfl, h.conditions, h.related, ?_⟩
  intro o ho
  rcases List.mem_append.1 ho with ho | ho
  · exact h.order o ho
  · rw [List.mem_singleton.1 ho]
    exact Schema.name_mem_columnNames (Schema.mem_of_resolve hresolve)

theorem setLimit (h : s.IsResolved schemaOf) {v : Value} (hs : s.setLimit v = .ok s') :
    s'.schema = s.schema ∧ s'.IsResolved schemaOf := by
  obtain ⟨n, -, hs⟩ := exists_of_bind hs
  cases hs
  exact ⟨rfl, h.conditions, h.related, h.order⟩

theorem setOffset (h : s.IsResolved schemaOf) {v : Value} (hs : s.setOffset v = .ok s') :
    s'.schema = s.schema ∧ s'.IsResolved schemaOf := by
  obtain ⟨n, -, hs⟩ := exists_of_bind hs
  cases hs
  exact ⟨rfl, h.conditions, h.related, h.order⟩

end IsResolved

end Selection

/-! ## Stores -/

namespace Store

/-- What a call does to a store, if it succeeds. -/
inductive Step : Store → Store → Prop
  | newQuery {st} (schema : Schema) : Step st (st.newQuery schema).2
  | addCondition {st st' r source} : st.addCondition r source = .ok st' → Step st st'
  | addRelated {st st' r inner column innerColumn negated} :
      st.addRelated r inner column innerColumn negated = .ok st' → Step st st'
  | addRelatedTable {st st' r table column innerColumn negated} :
      st.addRelatedTable r table column innerColumn negated = .ok st' → Step st st'
  | addOrder {st st' r column direction} : st.addOrder r column direction = .ok st' → Step st st'
  | setLimit {st st' r v} : st.setLimit r v = .ok st' → Step st st'
  | setOffset {st st' r v} : st.setOffset r v = .ok st' → Step st st'
  | newUpdate {st} (query : QueryRef) : Step st (st.newUpdate query []).2
  | startUpdate {st st' r r' source} : st.startUpdate r source = .ok (r', st') → Step st st'
  | addAssignment {st st' r source} : st.addAssignment r source = .ok st' → Step st st'

/-- Whether a store can be reached from the empty one. -/
inductive IsBuilt : Store → Prop
  | empty : IsBuilt {}
  | step {st st'} : IsBuilt st → Step st st' → IsBuilt st'

/-- The table of the query that a reference leads to. -/
def schemaOf (st : Store) (r : QueryRef) : Option Schema :=
  st.queries[r.index]?.map Selection.schema

/-- Whether the columns that were checked are declared, in every query. -/
def IsResolved (st : Store) : Prop := ∀ s ∈ st.queries, s.IsResolved st.schemaOf

theorem getElem?_of_query {st : Store} {r : QueryRef} {s : Selection QueryRef}
    (h : st.query r = .ok s) : st.queries[r.index]? = some s := by
  unfold query at h
  split at h
  · rename_i found hfound
    cases h
    exact hfound
  · cases h

/-- A query stays where it is when another one is made. -/
theorem query_newQuery {st : Store} {r : QueryRef} {q : Selection QueryRef}
    (h : st.query r = .ok q) (table : Schema) : (st.newQuery table).2.query r = .ok q := by
  have hfound := getElem?_of_query h
  obtain ⟨hbound, -⟩ := Array.getElem?_eq_some_iff.1 hfound
  rw [newQuery, query, Array.getElem?_push_lt hbound, ← Array.getElem?_eq_getElem hbound, hfound]

/-- The query that was just made is over its table. -/
theorem query_newQuery_self (st : Store) (table : Schema) :
    (st.newQuery table).2.query (st.newQuery table).1 = .ok (.ofSchema table) := by
  simp [newQuery, query]

/-- A relation with all rows of a table is given once both its columns are found. -/
theorem addRelatedTable_eq {st : Store} {r : QueryRef} {s : Selection QueryRef}
    (hs : st.query r = .ok s) (table : Schema) (column innerColumn : ColumnSource)
    (negated : Bool) :
    st.addRelatedTable r table column innerColumn negated = (do
      let outer ← s.schema.resolveColumn column
      let far ← table.resolveColumn innerColumn
      return (st.newQuery table).2.setQuery r
        (s.withRelated (.related outer.name (st.newQuery table).1 far.name negated))) := by
  simp only [addRelatedTable, addRelated, modifyQuery, Selection.addRelated, hs,
    query_newQuery hs, query_newQuery_self, Selection.ofSchema, Bind.bind, Except.bind]
  cases s.schema.resolveColumn column with
  | error e => rfl
  | ok outer => cases table.resolveColumn innerColumn <;> rfl

/-- A query that can be changed is put in its own place. -/
theorem modifyQuery_eq {st : Store} {r : QueryRef} {s s' : Selection QueryRef}
    {change : Selection QueryRef → Except Error (Selection QueryRef)}
    (hs : st.query r = .ok s) (hs' : change s = .ok s') :
    st.modifyQuery r change = .ok { st with queries := st.queries.setIfInBounds r.index s' } := by
  rw [modifyQuery, hs]
  simp only [hs', setQuery, Bind.bind, Except.bind, Pure.pure, Except.pure]

/-- A query that can be changed is found changed. -/
theorem exists_modifyQuery {st : Store} {r : QueryRef} {s s' : Selection QueryRef}
    {change : Selection QueryRef → Except Error (Selection QueryRef)}
    (hs : st.query r = .ok s) (hs' : change s = .ok s') :
    ∃ st', st.modifyQuery r change = .ok st' ∧ st'.query r = .ok s' := by
  obtain ⟨hbound, -⟩ := Array.getElem?_eq_some_iff.1 (getElem?_of_query hs)
  exact ⟨_, modifyQuery_eq hs hs', by simp [query, hbound]⟩

/-- A clause that is admitted becomes the last condition of the query. -/
theorem addCondition_of_admits {st : Store} {r : QueryRef} {s : Selection QueryRef}
    (hs : st.query r = .ok s) {source : ClauseSource QueryRef} {c : Clause QueryRef}
    (hc : source s.schema = .ok c) (h : s.schema.Admits c) :
    ∃ st', st.addCondition r source = .ok st' ∧
      st'.query r = .ok { s with conditions := s.conditions ++ [c] } := by
  have hadd : s.addCondition source = .ok { s with conditions := s.conditions ++ [c] } := by
    simp only [Selection.addCondition, Selection.withCondition, Schema.resolveClause, hc,
      Schema.accept_of_admits h, Bind.bind, Except.bind, Pure.pure, Except.pure]
  exact exists_modifyQuery hs hadd

/-- A clause that is not admitted is refused as the gate refuses it. -/
theorem addCondition_of_error {st : Store} {r : QueryRef} {s : Selection QueryRef}
    (hs : st.query r = .ok s) {source : ClauseSource QueryRef} {c : Clause QueryRef}
    (hc : source s.schema = .ok c) {e : Error} (h : s.schema.accept c = .error e) :
    st.addCondition r source = .error e := by
  simp only [addCondition, modifyQuery, Selection.addCondition, Schema.resolveClause, hs, hc, h,
    Bind.bind, Except.bind]

theorem isResolved_empty : IsResolved {} := by
  simp [IsResolved]

namespace IsResolved

variable {st st' : Store}

theorem of_query (h : st.IsResolved) {r : QueryRef} {s : Selection QueryRef}
    (hs : st.query r = .ok s) : st.schemaOf r = some s.schema ∧ s.IsResolved st.schemaOf := by
  have hfound := getElem?_of_query hs
  exact ⟨by rw [schemaOf, hfound]; rfl, h s (Array.mem_of_getElem? hfound)⟩

theorem newQuery (h : st.IsResolved) (schema : Schema) : (st.newQuery schema).2.IsResolved := by
  have hkept : ∀ r found, st.schemaOf r = some found →
      (st.newQuery schema).2.schemaOf r = some found := by
    intro r found hr
    obtain ⟨s, hs, hschema⟩ := Option.map_eq_some_iff.1 hr
    obtain ⟨hbound, -⟩ := Array.getElem?_eq_some_iff.1 hs
    have hpush : (st.newQuery schema).2.queries[r.index]? = some s := by
      rw [Store.newQuery, Array.getElem?_push_lt hbound, ← hs, Array.getElem?_eq_getElem hbound]
    rw [schemaOf, hpush, ← hschema]
    rfl
  intro s hs
  rcases Array.mem_push.1 hs with hs | rfl
  · exact (h s hs).mono hkept
  · exact Selection.isResolved_ofSchema _ _

/-- What is done to a query keeps the law if it keeps the table of the query. -/
theorem modifyQuery (h : st.IsResolved) {r : QueryRef}
    {change : Selection QueryRef → Except Error (Selection QueryRef)}
    (hchange : ∀ s s', s.IsResolved st.schemaOf → change s = .ok s' →
      s'.schema = s.schema ∧ s'.IsResolved st.schemaOf)
    (hst : st.modifyQuery r change = .ok st') : st'.IsResolved := by
  obtain ⟨s, hs, hst⟩ := exists_of_bind hst
  obtain ⟨s', hs', hst⟩ := exists_of_bind hst
  cases hst
  obtain ⟨hr, hresolved⟩ := h.of_query hs
  obtain ⟨hschema, hresolved'⟩ := hchange s s' hresolved hs'
  have hkept : ∀ r' schema, st.schemaOf r' = some schema →
      Store.schemaOf { st with queries := st.queries.setIfInBounds r.index s' } r' =
        some schema := by
    intro r' schema hr'
    by_cases hindex : r.index = r'.index
    · have hsame : st.schemaOf r' = st.schemaOf r := by rw [schemaOf, schemaOf, hindex]
      rw [hsame, hr] at hr'
      obtain ⟨hbound, -⟩ := Array.getElem?_eq_some_iff.1 (getElem?_of_query hs)
      simp [schemaOf, ← hindex, hbound, hschema, ← hr']
    · rw [schemaOf, Array.getElem?_setIfInBounds_ne hindex]
      exact hr'
  intro found hfound
  rcases Array.mem_or_eq_of_mem_setIfInBounds hfound with hfound | rfl
  · exact (h found hfound).mono hkept
  · exact hresolved'.mono hkept

theorem addRelated (h : st.IsResolved) {r inner : QueryRef} {column innerColumn : ColumnSource}
    {negated : Bool} (hst : st.addRelated r inner column innerColumn negated = .ok st') :
    st'.IsResolved := by
  obtain ⟨other, hother, hst⟩ := exists_of_bind hst
  obtain ⟨hinner, -⟩ := h.of_query hother
  exact h.modifyQuery (fun s s' hs => hs.addRelated hinner) hst

/-- A call keeps the law. -/
theorem step (h : st.IsResolved) (hstep : Step st st') : st'.IsResolved := by
  cases hstep with
  | newQuery schema => exact h.newQuery schema
  | addCondition hst => exact h.modifyQuery (fun s s' hs => hs.addCondition) hst
  | addRelated hst => exact h.addRelated hst
  | addRelatedTable hst =>
      obtain ⟨-, -, hst⟩ := exists_of_bind hst
      exact (h.newQuery _).addRelated hst
  | addOrder hst => exact h.modifyQuery (fun s s' hs => hs.addOrder) hst
  | setLimit hst => exact h.modifyQuery (fun s s' hs => hs.setLimit) hst
  | setOffset hst => exact h.modifyQuery (fun s s' hs => hs.setOffset) hst
  | newUpdate query => exact h
  | startUpdate hst =>
      obtain ⟨s, -, hst⟩ := exists_of_bind hst
      obtain ⟨c, -, hst⟩ := exists_of_bind hst
      cases hst
      exact h
  | addAssignment hst =>
      obtain ⟨u, -, hst⟩ := exists_of_bind hst
      obtain ⟨schema, -, hst⟩ := exists_of_bind hst
      obtain ⟨c, -, hst⟩ := exists_of_bind hst
      cases hst
      exact h

end IsResolved

/-- In every store that can be reached, the columns that were checked are declared. -/
theorem IsBuilt.isResolved {st : Store} (h : st.IsBuilt) : st.IsResolved := by
  induction h with
  | empty => exact isResolved_empty
  | step _ hstep ih => exact ih.step hstep

end Store

/-! ## Trees -/

theorem Clause.mem_subqueriesAll {q : Query} {cs : List (Clause Query)} :
    q ∈ subqueriesAll cs ↔ ∃ c ∈ cs, q ∈ c.subqueries := by
  induction cs with
  | nil => simp [subqueriesAll]
  | cons c rest ih => simp [subqueriesAll_cons, ih]

theorem Query.mem_subqueries_mk {q : Query} {s : Selection Query} :
    q ∈ (mk s).subqueries ↔ ∃ c ∈ s.conditions ++ s.related, q ∈ c.subqueries := by
  rw [subqueries_mk, List.mem_append, Clause.mem_subqueriesAll, Clause.mem_subqueriesAll]
  simp [or_and_right, exists_or]

/-- Whether the columns of a query that were checked are declared. -/
def Query.IsResolved (q : Query) : Prop := q.selection.IsResolved fun q' => some q'.selection.schema

theorem Query.isResolved_unwritable (schema : Schema) (reason : Error) :
    (unwritable schema reason).IsResolved := by
  constructor <;> simp [selection]

section Follow

variable {ρ : Type} {schemaOf : ρ → Option Schema} {f : ρ → Except Error Query}

/-- Whether a reference is followed to a tree over the table that it is known for. -/
def IsFollowed (schemaOf : ρ → Option Schema) (r : ρ) (q : Query) : Prop :=
  schemaOf r = some q.selection.schema ∧ ∀ q' ∈ q :: q.subqueries, q'.IsResolved

theorem isFollowed_unwritable {r : ρ} {schema : Schema} (h : schemaOf r = some schema)
    (reason : Error) : IsFollowed schemaOf r (.unwritable schema reason) :=
  ⟨h, List.forall_mem_singleton.2 (Query.isResolved_unwritable schema reason)⟩

theorem Clause.follow_spec (hf : ∀ r q, f r = .ok q → IsFollowed schemaOf r q) {c : Clause ρ}
    {c' : Clause Query} (hc : c.follow f = .ok c') :
    c'.column? = c.column? ∧ ∀ q ∈ c'.subqueries, q.IsResolved := by
  cases c with
  | related column inner innerColumn negated =>
      obtain ⟨q, hq, hc⟩ := exists_of_bind hc
      cases hc
      exact ⟨rfl, (hf inner q hq).2⟩
  | among query column =>
      obtain ⟨q, hq, hc⟩ := exists_of_bind hc
      cases hc
      exact ⟨rfl, (hf query q hq).2⟩
  | _ =>
      cases hc
      exact ⟨rfl, by simp [Clause.subqueries]⟩

/-- A query whose references are followed is a tree in which the columns are declared. -/
theorem Selection.IsResolved.follow {s : Selection ρ} (h : s.IsResolved schemaOf)
    (hf : ∀ r q, f r = .ok q → IsFollowed schemaOf r q) {s' : Selection Query}
    (hs : s.follow f = .ok s') :
    s'.schema = s.schema ∧ ∀ q ∈ .mk s' :: (Query.mk s').subqueries, q.IsResolved := by
  obtain ⟨conditions, hconditions, hs⟩ := exists_of_bind hs
  obtain ⟨related, hrelated, hs⟩ := exists_of_bind hs
  cases hs
  refine ⟨rfl, List.forall_mem_cons.2 ⟨⟨?_, ?_, h.order⟩, ?_⟩⟩
  · intro c' hc' column hcolumn
    obtain ⟨c, hc, hmade⟩ := exists_of_mem_mapM hconditions c' hc'
    rw [(Clause.follow_spec hf hmade).1] at hcolumn
    exact h.conditions c hc column hcolumn
  · intro c' hc'
    obtain ⟨c, hc, hmade⟩ := exists_of_mem_mapM hrelated c' hc'
    obtain ⟨column, inner, innerColumn, negated, schema, rfl, houter, hinner, hmem⟩ :=
      h.related c hc
    obtain ⟨q, hq, hmade⟩ := exists_of_bind hmade
    cases hmade
    have hschema := (hf inner q hq).1
    rw [hinner] at hschema
    exact ⟨column, q, innerColumn, negated, schema, rfl, houter, hschema.symm, hmem⟩
  · intro q hq
    obtain ⟨c', hc', hq⟩ := Query.mem_subqueries_mk.1 hq
    rcases List.mem_append.1 hc' with hc' | hc'
    · obtain ⟨c, -, hmade⟩ := exists_of_mem_mapM hconditions c' hc'
      exact (Clause.follow_spec hf hmade).2 q hq
    · obtain ⟨c, -, hmade⟩ := exists_of_mem_mapM hrelated c' hc'
      exact (Clause.follow_spec hf hmade).2 q hq

end Follow

namespace Store.IsResolved

variable {st : Store}

theorem settleWithin (h : st.IsResolved) (depth : Nat) (path : List QueryRef) (r : QueryRef)
    (q : Query) (hq : st.settleWithin depth path r = .ok q) : IsFollowed st.schemaOf r q := by
  induction depth generalizing path r q with
  | zero =>
      obtain ⟨s, hs, hq⟩ := exists_of_bind hq
      cases hq
      exact isFollowed_unwritable (h.of_query hs).1 _
  | succ depth ih =>
      obtain ⟨s, hs, hq⟩ := exists_of_bind hq
      obtain ⟨hr, hresolved⟩ := h.of_query hs
      split at hq
      · cases hq
        exact isFollowed_unwritable hr _
      · split at hq
        · cases hq
          exact isFollowed_unwritable hr _
        · obtain ⟨s', hs', hq⟩ := exists_of_bind hq
          cases hq
          obtain ⟨hschema, htree⟩ := hresolved.follow (fun r' q' hq' => ih _ r' q' hq') hs'
          exact ⟨by rw [hr, ← hschema]; rfl, htree⟩

/-- A reference is settled to a tree in which the columns that were checked are declared. -/
theorem settle (h : st.IsResolved) {r : QueryRef} {q : Query} (hq : st.settle r = .ok q) :
    st.schemaOf r = some q.selection.schema ∧ ∀ q' ∈ q :: q.subqueries, q'.IsResolved :=
  h.settleWithin _ [] r q hq

end Store.IsResolved

end SqlCompose
