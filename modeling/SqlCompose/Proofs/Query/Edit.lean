import SqlCompose.Proofs.Query.Settle

/-!
# Stores made by edits

`Store.IsMade` is said of the stores that edits make out of the empty one,
where the callers name only builders that are there (`Edit.IsOf`).

Such a store is closed: no condition holds a reference to a query that is not
there, no update is of the rows of such a query, and what an update assigns
holds no reference at all.  Edits of the order and of the window of a query
keep its filter (`Selection.SameFilter`), so there is nothing to be shown of
them.

## Main results

* `Store.IsClosed.apply` — an edit keeps a store closed.
* `Store.IsMade.isClosed` — so every store that is made by edits is closed.
* `Store.IsClosed.exists_settleUpdate` — what an update assigns is settled to
  the same, whatever is said of queries.
-/

namespace SqlCompose

theorem AssignmentForm.isSound_source (form : AssignmentForm) : form.source.IsSound := by
  cases form with
  | value column v => exact Schema.isSound_assignment column v
  | null column => exact Schema.isSound_nullAssignment column
  | clause source => exact Schema.isSound_assignmentOf source

/-! ## What is in a store -/

/-- Whether a reference leads to a query in the store, and not to an update in its place. -/
def QueryRef.IsIn (r : QueryRef) (st : Store) : Prop :=
  r.isUpdate = false ∧ r.index < st.queries.size

/-- Whether a reference leads to an update in the store. -/
def UpdateRef.IsIn (r : UpdateRef) (st : Store) : Prop := r.index < st.updates.size

/-- Whether a builder is in the store. -/
def Builder.IsIn (st : Store) : Builder → Prop
  | query r => r.IsIn st
  | update r => r.IsIn st

namespace QueryRef.IsIn

variable {r : QueryRef} {st st' : Store}

theorem mono (h : r.IsIn st) (hsize : st.queries.size ≤ st'.queries.size) : r.IsIn st' :=
  ⟨h.1, Nat.lt_of_lt_of_le h.2 hsize⟩

theorem exists_query (h : r.IsIn st) : ∃ s, st.query r = .ok s ∧ s ∈ st.queries := by
  have hfound := Array.getElem?_eq_getElem h.2
  exact ⟨_, by rw [Store.query, hfound], Array.getElem_mem h.2⟩

theorem of_query {s : Selection QueryRef} (hs : st.query r = .ok s) (hr : r.isUpdate = false) :
    r.IsIn st :=
  ⟨hr, (Array.getElem?_eq_some_iff.1 (Store.getElem?_of_query hs)).1⟩

/-- Two references to queries are the same if they lead to the same place. -/
theorem eq_of_index {r' : QueryRef} (h : r.IsIn st) (h' : r'.IsIn st)
    (hindex : r'.index = r.index) : r' = r := by
  cases r
  cases r'
  rw [QueryRef.mk.injEq]
  exact ⟨hindex, h'.1.trans h.1.symm⟩

end QueryRef.IsIn

theorem UpdateRef.IsIn.exists_update {r : UpdateRef} {st : Store} (h : r.IsIn st) :
    ∃ u, st.update r = .ok u ∧ u ∈ st.updates := by
  have hfound := Array.getElem?_eq_getElem h
  exact ⟨_, by rw [Store.update, hfound], Array.getElem_mem h⟩

/-- The queries that a clause refers to. -/
def Clause.references {ρ : Type} : Clause ρ → List ρ
  | related _ inner _ _ => [inner]
  | among query _ => [query]
  | _ => []

/-- All clauses of a query. -/
def Selection.clauses {ρ : Type} (s : Selection ρ) : List (Clause ρ) := s.conditions ++ s.related

/-- Whether all clauses that the caller can give refer to queries in the store. -/
def ClauseSource.IsOf (st : Store) (source : ClauseSource QueryRef) : Prop :=
  ∀ s c, source s = .ok c → ∀ r ∈ c.references, r.IsIn st

/-- Whether the rows of another table come from a query in the store, if they come from one. -/
def RowSource.IsOf (st : Store) : RowSource → Prop
  | query r => r.IsIn st
  | model _ => True

/-- Whether the caller names builders in the store only. -/
def Edit.IsOf (st : Store) : Edit → Prop
  | select _ => True
  | condition r clause => r.IsIn st ∧ clause.IsOf st
  | related r rows _ _ _ => r.IsIn st ∧ rows.IsOf st
  | order r _ _ => r.IsIn st
  | limit r _ => r.IsIn st
  | offset r _ => r.IsIn st
  | update r => r.IsIn st
  | assign b _ => b.IsIn st

/-! ## Filters -/

namespace Selection

variable {ρ : Type}

/-- Whether two queries have the same table and the same conditions. -/
structure SameFilter (s s' : Selection ρ) : Prop where
  schema : s'.schema = s.schema
  conditions : s'.conditions = s.conditions
  related : s'.related = s.related

namespace SameFilter

variable {s s' : Selection ρ}

theorem refl (s : Selection ρ) : s.SameFilter s := ⟨rfl, rfl, rfl⟩

theorem clauses (h : s.SameFilter s') : s'.clauses = s.clauses := by
  rw [Selection.clauses, Selection.clauses, h.conditions, h.related]

theorem addOrder {column : ColumnSource} {direction : Direction}
    (h : s.addOrder column direction = .ok s') : s.SameFilter s' := by
  obtain ⟨found, -, h⟩ := exists_of_bind h
  cases h
  exact ⟨rfl, rfl, rfl⟩

theorem setLimit {v : Value} (h : s.setLimit v = .ok s') : s.SameFilter s' := by
  obtain ⟨n, -, h⟩ := exists_of_bind h
  cases h
  exact ⟨rfl, rfl, rfl⟩

theorem setOffset {v : Value} (h : s.setOffset v = .ok s') : s.SameFilter s' := by
  obtain ⟨n, -, h⟩ := exists_of_bind h
  cases h
  exact ⟨rfl, rfl, rfl⟩

end SameFilter

end Selection

namespace Store

/-- Whether a store is made by edits. -/
inductive IsMade : Store → Prop
  | empty : IsMade {}
  | edit {st st' e b} : IsMade st → Edit.IsOf st e → e.apply st = .ok (b, st') → IsMade st'

/-! ## Closed stores -/

/-- Whether the references of a store lead to queries in it, and assignments hold none. -/
structure IsClosed (st : Store) : Prop where
  clauses : ∀ s ∈ st.queries, ∀ c ∈ s.clauses, ∀ r ∈ c.references, r.IsIn st
  targets : ∀ u ∈ st.updates, u.query.IsIn st
  assignsOnly : st.AssignsOnly

/-- What is done to a query puts the result in its place. -/
theorem exists_of_modifyQuery {st st' : Store} {r : QueryRef}
    {change : Selection QueryRef → Except Error (Selection QueryRef)}
    (h : st.modifyQuery r change = .ok st') :
    ∃ s s', st.query r = .ok s ∧ change s = .ok s' ∧
      st' = { st with queries := st.queries.setIfInBounds r.index s' } := by
  obtain ⟨s, hs, h⟩ := exists_of_bind h
  obtain ⟨s', hs', h⟩ := exists_of_bind h
  cases h
  exact ⟨s, s', hs, hs', rfl⟩

namespace IsClosed

variable {st st' : Store}

theorem empty : IsClosed {} where
  clauses := by simp
  targets := by simp
  assignsOnly := assignsOnly_empty

/-- Only what refers to something can refer to what is not there. -/
theorem newQuery (h : st.IsClosed) (schema : Schema) : (st.newQuery schema).2.IsClosed := by
  have hsize : st.queries.size ≤ (st.newQuery schema).2.queries.size := by simp [Store.newQuery]
  refine ⟨fun s hs c hc r hr => ?_, fun u hu => (h.targets u hu).mono hsize, h.assignsOnly⟩
  rcases Array.mem_push.1 hs with hs | rfl
  · exact (h.clauses s hs c hc r hr).mono hsize
  · exact absurd hc List.not_mem_nil

/-- A query may be changed if its new clauses refer to queries that are there. -/
theorem modifyQuery (h : st.IsClosed) {r : QueryRef}
    {change : Selection QueryRef → Except Error (Selection QueryRef)}
    (hchange : ∀ s s', change s = .ok s' → ∀ c ∈ s'.clauses,
      c ∈ s.clauses ∨ ∀ r ∈ c.references, r.IsIn st)
    (hst : st.modifyQuery r change = .ok st') : st'.IsClosed := by
  have hassigns := h.assignsOnly.modifyQuery hst
  obtain ⟨s, s', hs, hs', rfl⟩ := exists_of_modifyQuery hst
  have hmem := Array.mem_of_getElem? (getElem?_of_query hs)
  have hsize : st.queries.size ≤ (st.queries.setIfInBounds r.index s').size := by simp
  refine ⟨fun found hfound c hc r' hr' => ?_, fun u hu => (h.targets u hu).mono hsize, hassigns⟩
  suffices hthere : r'.IsIn st from hthere.mono hsize
  rcases Array.mem_or_eq_of_mem_setIfInBounds hfound with hfound | rfl
  · exact h.clauses found hfound c hc r' hr'
  · rcases hchange s found hs' c hc with hc | hnew
    · exact h.clauses s hmem c hc r' hr'
    · exact hnew r' hr'

theorem addCondition (h : st.IsClosed) {r : QueryRef} {source : ClauseSource QueryRef}
    (hsource : source.IsOf st) (hst : st.addCondition r source = .ok st') : st'.IsClosed := by
  refine h.modifyQuery (fun s s' hs c hc => ?_) hst
  obtain ⟨given, hgiven, hs⟩ := exists_of_bind hs
  cases hs
  obtain ⟨made, hmade, haccept⟩ := exists_of_bind hgiven
  obtain ⟨rfl, -⟩ := Schema.admits_of_accept haccept
  simp only [Selection.clauses, Selection.withCondition, List.append_assoc, List.mem_append,
    List.mem_singleton] at hc ⊢
  rcases hc with hc | rfl | hc
  · exact .inl (.inl hc)
  · exact .inr (hsource _ _ hmade)
  · exact .inl (.inr hc)

theorem addRelated (h : st.IsClosed) {r inner : QueryRef} {column innerColumn : ColumnSource}
    {negated : Bool} (hinner : inner.IsIn st)
    (hst : st.addRelated r inner column innerColumn negated = .ok st') : st'.IsClosed := by
  obtain ⟨other, -, hst⟩ := exists_of_bind hst
  refine h.modifyQuery (fun s s' hs c hc => ?_) hst
  obtain ⟨outer, -, hs⟩ := exists_of_bind hs
  obtain ⟨column, -, hs⟩ := exists_of_bind hs
  cases hs
  simp only [Selection.clauses, Selection.withRelated, List.mem_append, List.mem_singleton]
    at hc ⊢
  rcases hc with hc | hc | rfl
  · exact .inl (.inl hc)
  · exact .inl (.inr hc)
  · exact .inr (List.forall_mem_singleton.2 hinner)

/-- What keeps the filter of a query adds no reference. -/
theorem keepFilter (h : st.IsClosed) {r : QueryRef}
    {change : Selection QueryRef → Except Error (Selection QueryRef)}
    (hchange : ∀ s s', change s = .ok s' → s.SameFilter s')
    (hst : st.modifyQuery r change = .ok st') : st'.IsClosed :=
  h.modifyQuery (fun s s' hs _ hc => .inl ((hchange s s' hs).clauses ▸ hc)) hst

theorem newUpdate (h : st.IsClosed) {query : QueryRef} (hquery : query.IsIn st)
    {cs : List (Clause QueryRef)} (hcs : ∀ c ∈ cs, c.isAssignment = true) :
    (st.newUpdate query cs).2.IsClosed := by
  refine ⟨h.clauses, fun u hu => ?_, h.assignsOnly.newUpdate query hcs⟩
  rcases Array.mem_push.1 hu with hu | rfl
  · exact h.targets u hu
  · exact hquery

theorem startUpdate (h : st.IsClosed) {query : QueryRef} (hquery : query.IsIn st)
    {form : AssignmentForm} {made : UpdateRef × Store}
    (hst : st.startUpdate query form.source = .ok made) : made.2.IsClosed := by
  obtain ⟨s, -, hst⟩ := exists_of_bind hst
  obtain ⟨c, hc, hst⟩ := exists_of_bind hst
  cases hst
  exact h.newUpdate hquery (List.forall_mem_singleton.2 (form.isSound_source _ _ hc))

theorem addAssignment (h : st.IsClosed) {r : UpdateRef} {form : AssignmentForm}
    (hst : st.addAssignment r form.source = .ok st') : st'.IsClosed := by
  have hassigns := h.assignsOnly.addAssignment form.isSound_source hst
  obtain ⟨u, hu, hst⟩ := exists_of_bind hst
  obtain ⟨s, -, hst⟩ := exists_of_bind hst
  obtain ⟨c, -, hst⟩ := exists_of_bind hst
  cases hst
  refine ⟨h.clauses, fun u' hu' => ?_, hassigns⟩
  rcases Array.mem_or_eq_of_mem_setIfInBounds hu' with hu' | rfl
  · exact h.targets u' hu'
  · exact h.targets u (mem_of_update hu)

/-- An edit keeps a store closed. -/
theorem apply (h : st.IsClosed) {e : Edit} (he : e.IsOf st) {b : Builder}
    (hst : e.apply st = .ok (b, st')) : st'.IsClosed := by
  cases e with
  | select model =>
      obtain ⟨s, -, hst⟩ := exists_of_bind hst
      cases hst
      exact h.newQuery s
  | condition r clause =>
      obtain ⟨next, hnext, hst⟩ := exists_of_bind hst
      cases hst
      exact h.addCondition he.2 hnext
  | related r rows column innerColumn negated =>
      cases rows with
      | query inner =>
          obtain ⟨next, hnext, hst⟩ := exists_of_bind hst
          cases hst
          exact h.addRelated he.2 hnext
      | model model =>
          obtain ⟨s, -, hst⟩ := exists_of_bind hst
          obtain ⟨next, hnext, hst⟩ := exists_of_bind hst
          cases hst
          obtain ⟨-, -, hnext⟩ := exists_of_bind hnext
          have hmade : (st.newQuery s).1.IsIn (st.newQuery s).2 := by
            simp [QueryRef.IsIn, Store.newQuery]
          exact (h.newQuery s).addRelated hmade hnext
  | order r column direction =>
      obtain ⟨next, hnext, hst⟩ := exists_of_bind hst
      cases hst
      exact h.keepFilter (fun _ _ => .addOrder) hnext
  | limit r v =>
      obtain ⟨next, hnext, hst⟩ := exists_of_bind hst
      cases hst
      exact h.keepFilter (fun _ _ => .setLimit) hnext
  | offset r v =>
      obtain ⟨next, hnext, hst⟩ := exists_of_bind hst
      cases hst
      exact h.keepFilter (fun _ _ => .setOffset) hnext
  | update r =>
      cases hst
      exact h.newUpdate he fun c hc => absurd hc List.not_mem_nil
  | assign target form =>
      cases target with
      | query r =>
          obtain ⟨made, hmade, hst⟩ := exists_of_bind hst
          cases hst
          exact h.startUpdate he hmade
      | update r =>
          obtain ⟨next, hnext, hst⟩ := exists_of_bind hst
          cases hst
          exact h.addAssignment hnext

/--
What an update assigns is settled to the same in every store in which it is
the same update.
-/
theorem exists_settleUpdate (h : st.IsClosed) {r : UpdateRef} {u : UpdateDraft}
    (hu : st.update r = .ok u) :
    ∃ assignments : List (Clause Query), assignments.length = u.assignments.length ∧
      ∀ (st' : Store) (s : Selection Query), st'.update r = .ok u →
        st'.settle u.query = .ok (.mk s) → st'.settleUpdate r = .ok ⟨s, assignments⟩ := by
  obtain ⟨assignments, hlength, hfollow⟩ :=
    Clause.exists_followAll (h.assignsOnly u (mem_of_update hu))
  refine ⟨assignments, hlength, fun st' s hu' hs => ?_⟩
  have hassignments : u.assignments.mapM st'.settleClause = .ok assignments := hfollow st'.settle
  rw [settleUpdate, hu']
  simp only [Bind.bind, Except.bind, hs, hassignments]
  rfl

end IsClosed

/-- Every store that is made by edits is closed. -/
theorem IsMade.isClosed {st : Store} (h : st.IsMade) : st.IsClosed := by
  induction h with
  | empty => exact .empty
  | edit _ he hst ih => exact ih.apply he hst

end Store

end SqlCompose
