import SqlCompose.Proofs.Query.History

/-!
# Calls in another order

Calls on a query, and on an update of its rows, are of several kinds: they add
a condition, a relation to another table, an order or an assignment, or they
set the limit or the offset.  What a call of one kind does, and whether it is
accepted, depends on the table alone and on earlier calls of its own kind.  So
calls that are the same, kind by kind, leave the same store, however the kinds
are mixed (`Store.Runs.eq`).

Each part of a query grows by the calls of its kind (`Selection.GrownBy`), and
so do the assignments of the update (`Store.Assigned`).  A relation to a table
makes a query of its own besides; the queries that are made, and the references
to them, are those that the relations alone would have made
(`Store.SameRelations`).

## Main results

* `Selection.GrownBy.trans`, `Store.SameRelations.relate`,
  `Store.Assigned.addAssignment` — how each part grows by one call.
* `Store.Grown.call` — what a store has after one call more.
* `Store.Runs.eq` — calls that are the same, kind by kind, leave the same
  store.
-/

namespace SqlCompose

/-! ## Kinds of calls -/

/-- Rows of another table, as they are given to a query. -/
structure Relation where
  rows : RowSource
  column : ColumnSource
  innerColumn : ColumnSource
  negated : Bool

namespace Edit

/-- The condition that a call gives. -/
def condition? : Edit → Option (ClauseSource QueryRef)
  | condition _ clause => some clause
  | _ => none

/-- The rows of another table that a call gives. -/
def relation? : Edit → Option Relation
  | related _ rows column innerColumn negated => some ⟨rows, column, innerColumn, negated⟩
  | _ => none

/-- The limit that a call gives. -/
def limit? : Edit → Option Value
  | limit _ v => some v
  | _ => none

/-- The offset that a call gives. -/
def offset? : Edit → Option Value
  | offset _ v => some v
  | _ => none

/-- Whether a call is on the query or on the update. -/
def IsOn (r : QueryRef) (u : UpdateRef) : Edit → Prop
  | select _ => False
  | condition q _ | related q .. | order q .. | limit q _ | offset q _ => q = r
  | update q | assign (.query q) _ => q = r
  | assign (.update v) _ => v = u

end Edit

/--
Whether two lists of calls are the same, kind by kind: the same conditions,
relations, orders and assignments, each kind in its order, and the same limit
and offset at last.
-/
structure SameCalls (calls calls' : List Edit) : Prop where
  conditions : calls.filterMap Edit.condition? = calls'.filterMap Edit.condition?
  relations : calls.filterMap Edit.relation? = calls'.filterMap Edit.relation?
  orders : calls.filterMap Edit.order? = calls'.filterMap Edit.order?
  assignments : calls.filterMap Edit.form? = calls'.filterMap Edit.form?
  limit : (calls.filterMap Edit.limit?).getLast? = (calls'.filterMap Edit.limit?).getLast?
  offset : (calls.filterMap Edit.offset?).getLast? = (calls'.filterMap Edit.offset?).getLast?

/-- The last of what a step makes of a list is made of the last member. -/
theorem getLast?_of_mapM {α β : Type} {f : α → Except Error β} {xs : List α} {ys : List β}
    (h : xs.mapM f = .ok ys) : ys.getLast? = xs.getLast?.bind fun x => (f x).toOption := by
  rw [mapM_eq_ok_iff] at h
  induction h with
  | nil => rfl
  | @cons x y xs ys hy htail ih =>
      rw [List.getLast?_cons, List.getLast?_cons, ih]
      cases hlast : xs.getLast? with
      | none => simp [hy, Except.toOption]
      | some last =>
          obtain ⟨made, hmade⟩ := exists_of_mapM (mapM_eq_ok_iff.2 htail) last
            (List.mem_of_getLast? hlast)
          simp [hmade, Except.toOption]

/-- What is made of some calls, and of further ones, is made of all of them. -/
private theorem mapM_filterMap_append {α β : Type} {pick : Edit → Option α}
    {f : α → Except Error β} {calls calls' : List Edit} {before added : List β}
    (hbefore : (calls.filterMap pick).mapM f = .ok before)
    (hadded : (calls'.filterMap pick).mapM f = .ok added) :
    ((calls ++ calls').filterMap pick).mapM f = .ok (before ++ added) := by
  rw [List.filterMap_append, List.mapM_append, hbefore, hadded]
  rfl

/-! ## Parts of a query -/

/-- Whether the parts of a query grow by what calls give, but for its relations. -/
structure Selection.GrownBy (calls : List Edit) (s s' : Selection QueryRef) : Prop where
  schema : s'.schema = s.schema
  conditions : ∃ added, (calls.filterMap Edit.condition?).mapM s.schema.resolveClause = .ok added ∧
    s'.conditions = s.conditions ++ added
  order : ∃ added, (calls.filterMap Edit.order?).mapM s.schema.orderItem = .ok added ∧
    s'.order = s.order ++ added
  limit : ∃ bounds, (calls.filterMap Edit.limit?).mapM (Selection.boundOf .limit) = .ok bounds ∧
    s'.limit = bounds.getLast?.or s.limit
  offset : ∃ bounds, (calls.filterMap Edit.offset?).mapM (Selection.boundOf .offset) = .ok bounds ∧
    s'.offset = bounds.getLast?.or s.offset

namespace Selection.GrownBy

variable {calls calls' : List Edit} {s s' s'' : Selection QueryRef} {r : QueryRef}

/-- A call of another kind leaves the parts as they are. -/
theorem keep {e : Edit} (s : Selection QueryRef) (related : List (Clause QueryRef))
    (hconditions : e.condition? = none) (horder : e.order? = none) (hlimit : e.limit? = none)
    (hoffset : e.offset? = none) : GrownBy [e] s { s with related } := by
  refine ⟨rfl, ⟨[], ?_, (List.append_nil _).symm⟩, ⟨[], ?_, (List.append_nil _).symm⟩,
    ⟨[], ?_, rfl⟩, ⟨[], ?_, rfl⟩⟩
  · rw [List.filterMap_cons_none hconditions]
    rfl
  · rw [List.filterMap_cons_none horder]
    rfl
  · rw [List.filterMap_cons_none hlimit]
    rfl
  · rw [List.filterMap_cons_none hoffset]
    rfl

theorem refl (s : Selection QueryRef) : GrownBy [] s s where
  schema := rfl
  conditions := ⟨[], rfl, (List.append_nil _).symm⟩
  order := ⟨[], rfl, (List.append_nil _).symm⟩
  limit := ⟨[], rfl, rfl⟩
  offset := ⟨[], rfl, rfl⟩

theorem addCondition {source : ClauseSource QueryRef} (h : s.addCondition source = .ok s') :
    GrownBy [.condition r source] s s' := by
  obtain ⟨c, hc, h⟩ := exists_of_bind h
  cases h
  refine ⟨rfl, ⟨[c], ?_, rfl⟩, ⟨[], rfl, (List.append_nil _).symm⟩, ⟨[], rfl, rfl⟩, ⟨[], rfl, rfl⟩⟩
  exact mapM_eq_ok_iff.2 (.cons hc .nil)

theorem addOrder {column : ColumnSource} {direction : Direction}
    (h : s.addOrder column direction = .ok s') : GrownBy [.order r column direction] s s' := by
  obtain ⟨c, hc, h⟩ := exists_of_bind h
  cases h
  refine ⟨rfl, ⟨[], rfl, (List.append_nil _).symm⟩, ⟨[⟨c.name, direction⟩], ?_, rfl⟩,
    ⟨[], rfl, rfl⟩, ⟨[], rfl, rfl⟩⟩
  refine mapM_eq_ok_iff.2 (.cons ?_ .nil)
  rw [Schema.orderItem, hc]
  rfl

theorem setLimit {v : Value} (h : s.setLimit v = .ok s') : GrownBy [.limit r v] s s' := by
  obtain ⟨n, hn, h⟩ := exists_of_bind h
  cases h
  refine ⟨rfl, ⟨[], rfl, (List.append_nil _).symm⟩, ⟨[], rfl, (List.append_nil _).symm⟩,
    ⟨[n], ?_, rfl⟩, ⟨[], rfl, rfl⟩⟩
  exact mapM_eq_ok_iff.2 (.cons hn .nil)

theorem setOffset {v : Value} (h : s.setOffset v = .ok s') : GrownBy [.offset r v] s s' := by
  obtain ⟨n, hn, h⟩ := exists_of_bind h
  cases h
  refine ⟨rfl, ⟨[], rfl, (List.append_nil _).symm⟩, ⟨[], rfl, (List.append_nil _).symm⟩,
    ⟨[], rfl, rfl⟩, ⟨[n], ?_, rfl⟩⟩
  exact mapM_eq_ok_iff.2 (.cons hn .nil)

theorem trans (h : GrownBy calls s s') (h' : GrownBy calls' s' s'') :
    GrownBy (calls ++ calls') s s'' := by
  obtain ⟨hschema, ⟨cs, hcs, hconditions⟩, ⟨os, hos, horder⟩, ⟨ns, hns, hlimit⟩,
    ⟨ms, hms, hoffset⟩⟩ := h
  obtain ⟨hschema', ⟨cs', hcs', hconditions'⟩, ⟨os', hos', horder'⟩, ⟨ns', hns', hlimit'⟩,
    ⟨ms', hms', hoffset'⟩⟩ := h'
  rw [hschema] at hcs' hos'
  refine ⟨hschema'.trans hschema, ⟨_, mapM_filterMap_append hcs hcs', ?_⟩,
    ⟨_, mapM_filterMap_append hos hos', ?_⟩, ⟨_, mapM_filterMap_append hns hns', ?_⟩,
    ⟨_, mapM_filterMap_append hms hms', ?_⟩⟩
  · rw [hconditions', hconditions, List.append_assoc]
  · rw [horder', horder, List.append_assoc]
  · rw [hlimit', hlimit, List.getLast?_append, Option.or_assoc]
  · rw [hoffset', hoffset, List.getLast?_append, Option.or_assoc]

/-- Calls that are the same, kind by kind, make the same of a query, but for its relations. -/
theorem eq_of_sameCalls (hsame : SameCalls calls calls') (h : GrownBy calls s s')
    (h' : GrownBy calls' s s'') (hrelated : s'.related = s''.related) : s' = s'' := by
  obtain ⟨hschema, ⟨cs, hcs, hconditions⟩, ⟨os, hos, horder⟩, ⟨ns, hns, hlimit⟩,
    ⟨ms, hms, hoffset⟩⟩ := h
  obtain ⟨hschema', ⟨cs', hcs', hconditions'⟩, ⟨os', hos', horder'⟩, ⟨ns', hns', hlimit'⟩,
    ⟨ms', hms', hoffset'⟩⟩ := h'
  rw [hsame.conditions] at hcs
  rw [hsame.orders] at hos
  obtain rfl := Except.ok.inj (hcs.symm.trans hcs')
  obtain rfl := Except.ok.inj (hos.symm.trans hos')
  have hbounds : ns.getLast? = ns'.getLast? := by
    rw [getLast?_of_mapM hns, getLast?_of_mapM hns', hsame.limit]
  have hstarts : ms.getLast? = ms'.getLast? := by
    rw [getLast?_of_mapM hms, getLast?_of_mapM hms', hsame.offset]
  obtain ⟨schema, conditions, related, order, limit, offset⟩ := s'
  obtain ⟨schema', conditions', related', order', limit', offset'⟩ := s''
  rw [Selection.mk.injEq]
  exact ⟨hschema.trans hschema'.symm, hconditions.trans hconditions'.symm, hrelated,
    horder.trans horder'.symm, hlimit.trans (hbounds ▸ hlimit'.symm),
    hoffset.trans (hstarts ▸ hoffset'.symm)⟩

end Selection.GrownBy

/-! ## Relations -/

namespace Store

variable {r : QueryRef} {u : UpdateRef} {st st' mid start : Store}

/-- The store with rows of another table given to a query. -/
def relate (r : QueryRef) (st : Store) (given : Relation) : Except Error Store := do
  return (← (Edit.related r given.rows given.column given.innerColumn given.negated).apply st).2

/--
Whether two stores have the same queries, but for the parts of one query that
are neither its table nor its relations.
-/
structure SameRelations (r : QueryRef) (st mid : Store) : Prop where
  size : mid.queries.size = st.queries.size
  others : ∀ i, i ≠ r.index → mid.queries[i]? = st.queries[i]?
  own : ∀ s, st.queries[r.index]? = some s →
    ∃ t, mid.queries[r.index]? = some t ∧ t.schema = s.schema ∧ t.related = s.related

namespace SameRelations

theorem refl (r : QueryRef) (st : Store) : st.SameRelations r st where
  size := rfl
  others _ _ := rfl
  own s hs := ⟨s, hs, rfl, rfl⟩

/-- What is found in one store is found over the same table in the other one. -/
theorem exists_query (h : st.SameRelations r mid) {q : QueryRef} {s : Selection QueryRef}
    (hs : st.query q = .ok s) : ∃ t, mid.query q = .ok t ∧ t.schema = s.schema := by
  have hfound := getElem?_of_query hs
  by_cases hindex : q.index = r.index
  · rw [hindex] at hfound
    obtain ⟨t, ht, hschema, -⟩ := h.own s hfound
    exact ⟨t, by rw [query, hindex, ht], hschema⟩
  · exact ⟨s, by rw [query, h.others q.index hindex, hfound], rfl⟩

/-- A change of another part of the query makes no difference. -/
theorem part (h : st.SameRelations r mid) {s s' : Selection QueryRef} (hs : st.query r = .ok s)
    (hschema : s'.schema = s.schema) (hrelated : s'.related = s.related) :
    { st with queries := st.queries.setIfInBounds r.index s' }.SameRelations r mid where
  size := by rw [Array.size_setIfInBounds, h.size]
  others i hi := by rw [Array.getElem?_setIfInBounds_ne (Ne.symm hi), h.others i hi]
  own found hfound := by
    obtain ⟨hbound, -⟩ := Array.getElem?_eq_some_iff.1 (getElem?_of_query hs)
    rw [Array.getElem?_setIfInBounds_self_of_lt hbound] at hfound
    cases hfound
    rw [hschema, hrelated]
    exact h.own s (getElem?_of_query hs)

/-- A query that is made in both stores is the same in both. -/
theorem newQuery (h : st.SameRelations r mid) (hr : r.index < st.queries.size) (schema : Schema) :
    (mid.newQuery schema).1 = (st.newQuery schema).1 ∧
      (st.newQuery schema).2.SameRelations r (mid.newQuery schema).2 := by
  have hsize := h.size
  refine ⟨by rw [Store.newQuery, Store.newQuery, hsize], ⟨?_, fun i hi => ?_, fun s hs => ?_⟩⟩
  · simp only [Store.newQuery, Array.size_push, hsize]
  · simp only [Store.newQuery, Array.getElem?_push, hsize, h.others i hi]
  · simp only [Store.newQuery] at hs ⊢
    rw [Array.getElem?_push_lt hr] at hs
    rw [Array.getElem?_push_lt (hsize ▸ hr), ← Array.getElem?_eq_getElem]
    exact h.own s (by rw [Array.getElem?_eq_getElem hr, hs])

/-- A relation is given in both stores alike. -/
theorem addRelated (h : st.SameRelations r mid) {inner : QueryRef}
    {column innerColumn : ColumnSource} {negated : Bool}
    (hst : st.addRelated r inner column innerColumn negated = .ok st') :
    ∃ mid', mid.addRelated r inner column innerColumn negated = .ok mid' ∧
      st'.SameRelations r mid' := by
  obtain ⟨other, hother, hst⟩ := exists_of_bind hst
  obtain ⟨s, s', hs, hs', rfl⟩ := exists_of_modifyQuery hst
  obtain ⟨outer, houter, hs'⟩ := exists_of_bind hs'
  obtain ⟨found, hfound, hs'⟩ := exists_of_bind hs'
  cases hs'
  obtain ⟨other', hother', hinner⟩ := h.exists_query hother
  obtain ⟨t, ht, hschema, hrelated⟩ := h.own s (getElem?_of_query hs)
  have hquery : mid.query r = .ok t := by rw [query, ht]
  obtain ⟨hbound, -⟩ := Array.getElem?_eq_some_iff.1 (getElem?_of_query hs)
  obtain ⟨c, hc⟩ : ∃ c, c = Clause.related outer.name inner found.name negated := ⟨_, rfl⟩
  have hchange : t.addRelated inner other'.schema column innerColumn negated =
      .ok (t.withRelated c) := by
    rw [Selection.addRelated, hschema, hinner, houter, hc]
    simp only [bind, Except.bind, hfound]
    rfl
  have hadded : mid.addRelated r inner column innerColumn negated =
      .ok (mid.setQuery r (t.withRelated c)) := by
    rw [Store.addRelated, hother']
    exact modifyQuery_eq hquery hchange
  refine ⟨_, hadded, ?_, fun i hi => ?_, fun found' hfound' => ?_⟩
  · simp only [queries_setQuery, Array.size_setIfInBounds, h.size]
  · simp only [queries_setQuery, Array.getElem?_setIfInBounds_ne (Ne.symm hi), h.others i hi]
  · rw [Array.getElem?_setIfInBounds_self_of_lt hbound] at hfound'
    cases hfound'
    refine ⟨_, Array.getElem?_setIfInBounds_self_of_lt (h.size ▸ hbound), hschema, ?_⟩
    rw [Selection.withRelated, Selection.withRelated, hrelated, hc]

/-- So are rows of another table, whether they come from a query or from a model. -/
theorem relate (h : st.SameRelations r mid) (hr : r.index < st.queries.size) {given : Relation}
    (hst : st.relate r given = .ok st') :
    ∃ mid', mid.relate r given = .ok mid' ∧ st'.SameRelations r mid' := by
  obtain ⟨rows, column, innerColumn, negated⟩ := given
  obtain ⟨made, hmade, hst⟩ := exists_of_bind hst
  cases hst
  cases rows with
  | query inner =>
      obtain ⟨next, hnext, hmade⟩ := exists_of_bind hmade
      cases hmade
      obtain ⟨mid', hmid', hsame⟩ := h.addRelated hnext
      refine ⟨mid', ?_, hsame⟩
      simp only [Store.relate, Edit.apply, hmid']
      rfl
  | model model =>
      obtain ⟨schema, hschema, hmade⟩ := exists_of_bind hmade
      obtain ⟨next, hnext, hmade⟩ := exists_of_bind hmade
      cases hmade
      obtain ⟨s, hs, hadded⟩ := exists_of_bind hnext
      obtain ⟨hinner, hpushed⟩ := h.newQuery hr schema
      obtain ⟨mid', hmid', hsame⟩ := hpushed.addRelated hadded
      rw [← hinner] at hmid'
      obtain ⟨t, ht, -⟩ := h.exists_query hs
      have htable : mid.addRelatedTable r schema column innerColumn negated = .ok mid' := by
        rw [addRelatedTable, ht]
        exact hmid'
      refine ⟨mid', ?_, hsame⟩
      simp only [Store.relate, Edit.apply, hschema, bind, Except.bind, htable]
      rfl

end SameRelations

/-- A relation is all that changes in the query, and no update changes. -/
theorem exists_of_addRelated {inner : QueryRef} {column innerColumn : ColumnSource}
    {negated : Bool} (hst : st.addRelated r inner column innerColumn negated = .ok st')
    {s : Selection QueryRef} (hs : st.query r = .ok s) :
    ∃ related, st'.query r = .ok { s with related } ∧ st'.updates = st.updates := by
  obtain ⟨other, -, hst⟩ := exists_of_bind hst
  obtain ⟨found, s', hfound, hs', rfl⟩ := exists_of_modifyQuery hst
  obtain rfl := Except.ok.inj (hfound.symm.trans hs)
  obtain ⟨outer, -, hs'⟩ := exists_of_bind hs'
  obtain ⟨c, -, hs'⟩ := exists_of_bind hs'
  cases hs'
  obtain ⟨hbound, -⟩ := Array.getElem?_eq_some_iff.1 (getElem?_of_query hs)
  refine ⟨found.related ++ [.related outer.name inner c.name negated], ?_, rfl⟩
  rw [query, Array.getElem?_setIfInBounds_self_of_lt hbound]
  rfl

theorem exists_of_relate {given : Relation} (hst : st.relate r given = .ok st')
    {s : Selection QueryRef} (hs : st.query r = .ok s) :
    ∃ related, st'.query r = .ok { s with related } ∧ st'.updates = st.updates := by
  obtain ⟨rows, column, innerColumn, negated⟩ := given
  obtain ⟨made, hmade, hst⟩ := exists_of_bind hst
  cases hst
  cases rows with
  | query inner =>
      obtain ⟨next, hnext, hmade⟩ := exists_of_bind hmade
      cases hmade
      exact exists_of_addRelated hnext hs
  | model model =>
      obtain ⟨schema, -, hmade⟩ := exists_of_bind hmade
      obtain ⟨next, hnext, hmade⟩ := exists_of_bind hmade
      cases hmade
      obtain ⟨-, -, hadded⟩ := exists_of_bind hnext
      obtain ⟨hbound, -⟩ := Array.getElem?_eq_some_iff.1 (getElem?_of_query hs)
      refine exists_of_addRelated hadded (s := s) ?_
      rw [query, Store.newQuery, Array.getElem?_push_lt hbound, ← Array.getElem?_eq_getElem hbound]
      exact hs

/-! ## Assignments -/

/-- The assignments of an update; one that is not there has none. -/
def assignmentsOf (st : Store) (u : UpdateRef) : List (Clause QueryRef) :=
  (st.updates[u.index]?.map UpdateDraft.assignments).getD []

/--
Whether an update of the rows of a query has the assignments that calls give
besides those from before, and no other update changed.
-/
structure Assigned (r : QueryRef) (u : UpdateRef) (schema : Schema) (start : Store)
    (calls : List Edit) (st : Store) : Prop where
  others : ∀ i, i ≠ u.index → st.updates[i]? = start.updates[i]?
  own : ∃ added, (calls.filterMap Edit.form?).mapM (fun form => form.source schema) = .ok added ∧
    (st.updates[u.index]? = some ⟨r, start.assignmentsOf u ++ added⟩ ∨
      st.updates[u.index]? = none ∧ start.assignmentsOf u ++ added = [])

namespace Assigned

variable {schema : Schema} {calls : List Edit}

theorem nil (schema : Schema) (hu : ∀ draft, start.update u = .ok draft → draft.query = r) :
    start.Assigned r u schema [] start := by
  refine ⟨fun _ _ => rfl, [], rfl, ?_⟩
  rw [List.append_nil, assignmentsOf]
  cases hfound : start.updates[u.index]? with
  | none => exact .inr ⟨rfl, rfl⟩
  | some draft =>
      obtain rfl := hu draft (by rw [update, hfound])
      exact .inl rfl

/-- A call of another kind assigns nothing. -/
theorem keep (h : start.Assigned r u schema calls st) {e : Edit} (he : e.form? = none)
    (hupdates : st'.updates = st.updates) : start.Assigned r u schema (calls ++ [e]) st' := by
  have hcalls : (calls ++ [e]).filterMap Edit.form? = calls.filterMap Edit.form? := by
    rw [List.filterMap_append, List.filterMap_cons_none he, List.filterMap_nil, List.append_nil]
  exact ⟨hupdates ▸ h.others, by rw [hcalls, hupdates]; exact h.own⟩

/-- The update is made with what the call assigns that makes it. -/
theorem newUpdate (h : start.Assigned r ⟨st.updates.size⟩ schema calls st) {e : Edit}
    {added : List (Clause QueryRef)}
    (hadded : ([e].filterMap Edit.form?).mapM (fun form => form.source schema) = .ok added) :
    start.Assigned r ⟨st.updates.size⟩ schema (calls ++ [e]) (st.newUpdate r added).2 := by
  obtain ⟨before, hbefore, hown⟩ := h.own
  have hnone : start.assignmentsOf ⟨st.updates.size⟩ ++ before = [] := by
    rcases hown with hsome | ⟨-, hnone⟩
    · have hbound := (Array.getElem?_eq_some_iff.1 hsome).1
      exact absurd hbound (Nat.lt_irrefl _)
    · exact hnone
  refine ⟨fun i hi => ?_, before ++ added, mapM_filterMap_append hbefore hadded, .inl ?_⟩
  · rw [← h.others i hi, Store.newUpdate, Array.getElem?_push, if_neg hi]
  · rw [Store.newUpdate, Array.getElem?_push_size, ← List.append_assoc, hnone, List.nil_append]

/-- One assignment more stands behind those from before. -/
theorem addAssignment (h : start.Assigned r u schema calls st) {s : Selection QueryRef}
    (hs : st.query r = .ok s) (hschema : s.schema = schema) {form : AssignmentForm}
    (hst : st.addAssignment u form.source = .ok st') :
    start.Assigned r u schema (calls ++ [.assign (.update u) form]) st' := by
  obtain ⟨draft, hdraft, hst⟩ := exists_of_bind hst
  obtain ⟨table, htable, hst⟩ := exists_of_bind hst
  obtain ⟨c, hc, hst⟩ := exists_of_bind hst
  cases hst
  have hbound : u.index < st.updates.size := UpdateRef.IsIn.of_update hdraft
  have hfound : st.updates[u.index]? = some draft := by
    rw [update] at hdraft
    split at hdraft
    · rename_i found hfound
      cases hdraft
      exact hfound
    · cases hdraft
  obtain ⟨before, hbefore, hsome | ⟨hnone, -⟩⟩ := h.own
  · obtain rfl := Option.some.inj (hfound.symm.trans hsome)
    have hsame : table = schema := by
      rw [updateSchema, hs] at htable
      exact (Except.ok.inj htable).symm.trans hschema
    refine ⟨fun i hi => ?_, before ++ [c], mapM_filterMap_append hbefore ?_, .inl ?_⟩
    · rw [updates_setUpdate, Array.getElem?_setIfInBounds_ne (Ne.symm hi), h.others i hi]
    · exact mapM_eq_ok_iff.2 (.cons (hsame ▸ hc) .nil)
    · rw [updates_setUpdate, Array.getElem?_setIfInBounds_self_of_lt hbound, List.append_assoc]
  · cases hfound.symm.trans hnone

end Assigned

/-! ## Calls one after another -/

/-- What a store has after calls on a query and on an update of its rows. -/
structure Grown (r : QueryRef) (u : UpdateRef) (start : Store) (first : Selection QueryRef)
    (calls : List Edit) (st : Store) : Prop where
  query : ∃ s, st.query r = .ok s ∧ first.GrownBy calls s
  relations : ∃ mid, (calls.filterMap Edit.relation?).foldlM (relate r) start = .ok mid ∧
    st.SameRelations r mid
  assignments : start.Assigned r u first.schema calls st

namespace Grown

variable {first : Selection QueryRef} {calls : List Edit} {e : Edit}

private theorem foldlM_keep (he : e.relation? = none)
    (h : (calls.filterMap Edit.relation?).foldlM (Store.relate r) start = .ok mid) :
    ((calls ++ [e]).filterMap Edit.relation?).foldlM (Store.relate r) start = .ok mid := by
  rw [List.filterMap_append, List.filterMap_cons_none he, List.filterMap_nil, List.append_nil, h]

/-- A call for a part of the query that is no relation. -/
theorem part (h : start.Grown r u first calls st)
    {change : Selection QueryRef → Except Error (Selection QueryRef)}
    (hchange : ∀ s s', change s = .ok s' → s.GrownBy [e] s' ∧ s'.related = s.related)
    (hrelation : e.relation? = none) (hform : e.form? = none)
    (hst : st.modifyQuery r change = .ok st') : start.Grown r u first (calls ++ [e]) st' := by
  obtain ⟨s, s', hs, hs', rfl⟩ := exists_of_modifyQuery hst
  obtain ⟨hgrown, hrelated⟩ := hchange s s' hs'
  obtain ⟨found, hfound, hparts⟩ := h.query
  obtain rfl := Except.ok.inj (hs.symm.trans hfound)
  obtain ⟨mid, hmid, hsame⟩ := h.relations
  obtain ⟨hbound, -⟩ := Array.getElem?_eq_some_iff.1 (getElem?_of_query hs)
  refine ⟨⟨s', ?_, hparts.trans hgrown⟩, ⟨mid, foldlM_keep hrelation hmid, ?_⟩,
    h.assignments.keep hform rfl⟩
  · rw [Store.query, Array.getElem?_setIfInBounds_self_of_lt hbound]
  · exact hsame.part hs hgrown.schema hrelated

/-- A call that relates the query to another table. -/
theorem relate (h : start.Grown r u first calls st) {given : Relation}
    (hrelation : e.relation? = some given) (hform : e.form? = none)
    (hparts : e.condition? = none ∧ e.order? = none ∧ e.limit? = none ∧ e.offset? = none)
    (hst : st.relate r given = .ok st') : start.Grown r u first (calls ++ [e]) st' := by
  obtain ⟨s, hs, hgrown⟩ := h.query
  obtain ⟨mid, hmid, hsame⟩ := h.relations
  obtain ⟨hbound, -⟩ := Array.getElem?_eq_some_iff.1 (getElem?_of_query hs)
  obtain ⟨related, hs', hupdates⟩ := exists_of_relate hst hs
  obtain ⟨mid', hmid', hsame'⟩ := hsame.relate hbound hst
  obtain ⟨hcondition, horder, hlimit, hoffset⟩ := hparts
  refine ⟨⟨_, hs', hgrown.trans (.keep s related hcondition horder hlimit hoffset)⟩,
    ⟨mid', ?_, hsame'⟩, h.assignments.keep hform hupdates⟩
  rw [List.filterMap_append, List.filterMap_cons_some hrelation, List.foldlM_append, hmid]
  show [given].foldlM (Store.relate r) mid = .ok mid'
  rw [List.foldlM_cons, hmid']
  rfl

/-- A call that is about the update only. -/
theorem assign (h : start.Grown r u first calls st) (hqueries : st'.queries = st.queries)
    (hassigned : start.Assigned r u first.schema (calls ++ [e]) st')
    (hrelation : e.relation? = none)
    (hparts : e.condition? = none ∧ e.order? = none ∧ e.limit? = none ∧ e.offset? = none) :
    start.Grown r u first (calls ++ [e]) st' := by
  obtain ⟨s, hs, hgrown⟩ := h.query
  obtain ⟨mid, hmid, hsame⟩ := h.relations
  obtain ⟨hcondition, horder, hlimit, hoffset⟩ := hparts
  refine ⟨⟨s, ?_, hgrown.trans (.keep s s.related hcondition horder hlimit hoffset)⟩,
    ⟨mid, foldlM_keep hrelation hmid, ?_⟩, hassigned⟩
  · rw [Store.query, hqueries]
    exact hs
  · exact ⟨hqueries ▸ hsame.size, hqueries ▸ hsame.others, hqueries ▸ hsame.own⟩

/-- A store grows by a call that is accepted, whatever was called before. -/
theorem call (h : start.Grown r u first calls st) {b : Builder} (he : e.IsOn r u)
    (hst : e.apply st = .ok (b, st')) (hb : b = .query r ∨ b = .update u) :
    start.Grown r u first (calls ++ [e]) st' := by
  cases e with
  | select model => exact he.elim
  | condition q clause =>
      obtain rfl : q = r := he
      obtain ⟨next, hnext, hst⟩ := exists_of_bind hst
      cases hst
      refine h.part (fun s s' hs => ⟨.addCondition hs, ?_⟩) rfl rfl hnext
      obtain ⟨c, -, hs⟩ := exists_of_bind hs
      cases hs
      rfl
  | related q rows column innerColumn negated =>
      obtain rfl : q = r := he
      have hrelate : st.relate q ⟨rows, column, innerColumn, negated⟩ = .ok st' := by
        rw [Store.relate, hst]
        rfl
      exact h.relate rfl rfl ⟨rfl, rfl, rfl, rfl⟩ hrelate
  | order q column direction =>
      obtain rfl : q = r := he
      obtain ⟨next, hnext, hst⟩ := exists_of_bind hst
      cases hst
      exact h.part (fun s s' hs => ⟨.addOrder hs, (Selection.SameFilter.addOrder hs).related⟩)
        rfl rfl hnext
  | limit q v =>
      obtain rfl : q = r := he
      obtain ⟨next, hnext, hst⟩ := exists_of_bind hst
      cases hst
      exact h.part (fun s s' hs => ⟨.setLimit hs, (Selection.SameFilter.setLimit hs).related⟩)
        rfl rfl hnext
  | offset q v =>
      obtain rfl : q = r := he
      obtain ⟨next, hnext, hst⟩ := exists_of_bind hst
      cases hst
      exact h.part (fun s s' hs => ⟨.setOffset hs, (Selection.SameFilter.setOffset hs).related⟩)
        rfl rfl hnext
  | update q =>
      obtain rfl : q = r := he
      cases hst
      obtain rfl : (⟨st.updates.size⟩ : UpdateRef) = u := by simpa [Store.newUpdate] using hb
      exact h.assign rfl (h.assignments.newUpdate rfl) rfl ⟨rfl, rfl, rfl, rfl⟩
  | assign target form =>
      cases target with
      | query q =>
          obtain rfl : q = r := he
          obtain ⟨made, hmade, hst⟩ := exists_of_bind hst
          cases hst
          obtain ⟨found, hfound, hmade⟩ := exists_of_bind hmade
          obtain ⟨c, hc, hmade⟩ := exists_of_bind hmade
          cases hmade
          obtain ⟨s, hs, hgrown⟩ := h.query
          obtain rfl := Except.ok.inj (hfound.symm.trans hs)
          obtain rfl : (⟨st.updates.size⟩ : UpdateRef) = u := by simpa [Store.newUpdate] using hb
          refine h.assign rfl (h.assignments.newUpdate ?_) rfl ⟨rfl, rfl, rfl, rfl⟩
          rw [hgrown.schema] at hc
          exact mapM_eq_ok_iff.2 (.cons hc .nil)
      | update v =>
          obtain rfl : v = u := he
          obtain ⟨next, hnext, hst⟩ := exists_of_bind hst
          cases hst
          obtain ⟨s, hs, hgrown⟩ := h.query
          have hqueries : st'.queries = st.queries := by
            obtain ⟨draft, -, hnext⟩ := exists_of_bind hnext
            obtain ⟨table, -, hnext⟩ := exists_of_bind hnext
            obtain ⟨c, -, hnext⟩ := exists_of_bind hnext
            cases hnext
            rfl
          exact h.assign hqueries (h.assignments.addAssignment hs hgrown.schema hnext) rfl
            ⟨rfl, rfl, rfl, rfl⟩

end Grown

/-- Whether accepted calls on a query, and on one update of its rows, lead from a store to one. -/
inductive Runs (r : QueryRef) (u : UpdateRef) (start : Store) : List Edit → Store → Prop
  | nil : Runs r u start [] start
  | call {calls st st' e b} : Runs r u start calls st → e.IsOn r u → e.apply st = .ok (b, st') →
      b = .query r ∨ b = .update u → Runs r u start (calls ++ [e]) st'

namespace Runs

variable {calls calls' : List Edit} {first : Selection QueryRef}

/-- What a store has after calls is what they give, kind by kind. -/
theorem grown (h : start.Runs r u calls st) (hfirst : start.query r = .ok first)
    (hu : ∀ draft, start.update u = .ok draft → draft.query = r) :
    start.Grown r u first calls st := by
  induction h with
  | nil => exact ⟨⟨first, hfirst, .refl first⟩, ⟨start, rfl, .refl r start⟩, .nil _ hu⟩
  | call _ he hst hb ih => exact ih.call he hst hb

/-- The queries of a store depend on what calls give, kind by kind. -/
theorem queries_eq (h : start.Grown r u first calls st) (h' : start.Grown r u first calls' st')
    (hsame : SameCalls calls calls') : st.queries = st'.queries := by
  obtain ⟨s, hs, hgrown⟩ := h.query
  obtain ⟨s', hs', hgrown'⟩ := h'.query
  obtain ⟨mid, hmid, hrelations⟩ := h.relations
  obtain ⟨mid', hmid', hrelations'⟩ := h'.relations
  rw [hsame.relations] at hmid
  obtain rfl := Except.ok.inj (hmid.symm.trans hmid')
  apply Array.ext_getElem?
  intro i
  by_cases hi : i = r.index
  · subst hi
    obtain ⟨t, ht, -, hrelated⟩ := hrelations.own s (getElem?_of_query hs)
    obtain ⟨t', ht', -, hrelated'⟩ := hrelations'.own s' (getElem?_of_query hs')
    obtain rfl := Option.some.inj (ht.symm.trans ht')
    rw [getElem?_of_query hs, getElem?_of_query hs',
      hgrown.eq_of_sameCalls hsame hgrown' (hrelated.symm.trans hrelated')]
  · rw [← hrelations.others i hi, hrelations'.others i hi]

/-- So do its updates, if the one at hand is there in both stores or in neither. -/
theorem updates_eq (h : start.Grown r u first calls st) (h' : start.Grown r u first calls' st')
    (hsame : SameCalls calls calls') (hthere : u.IsIn st ↔ u.IsIn st') :
    st.updates = st'.updates := by
  obtain ⟨added, hadded, hown⟩ := h.assignments.own
  obtain ⟨added', hadded', hown'⟩ := h'.assignments.own
  rw [hsame.assignments] at hadded
  obtain rfl := Except.ok.inj (hadded.symm.trans hadded')
  apply Array.ext_getElem?
  intro i
  by_cases hi : i = u.index
  · subst hi
    rcases hown with hsome | ⟨hnone, -⟩ <;> rcases hown' with hsome' | ⟨hnone', -⟩
    · rw [hsome, hsome']
    · have hin := hthere.1 (Array.getElem?_eq_some_iff.1 hsome).1
      exact absurd hin (Nat.not_lt.2 (Array.getElem?_eq_none_iff.1 hnone'))
    · have hin := hthere.2 (Array.getElem?_eq_some_iff.1 hsome').1
      exact absurd hin (Nat.not_lt.2 (Array.getElem?_eq_none_iff.1 hnone))
    · rw [hnone, hnone']
  · rw [h.assignments.others i hi, h'.assignments.others i hi]

/-- Calls that are the same, kind by kind, leave the same store. -/
theorem eq (h : start.Runs r u calls st) (h' : start.Runs r u calls' st')
    (hr : r.IsIn start) (hu : ∀ draft, start.update u = .ok draft → draft.query = r)
    (hsame : SameCalls calls calls') (hthere : u.IsIn st ↔ u.IsIn st') : st = st' := by
  obtain ⟨first, hfirst, -⟩ := hr.exists_query
  have hgrown := h.grown hfirst hu
  have hgrown' := h'.grown hfirst hu
  have hqueries := queries_eq hgrown hgrown' hsame
  have hupdates := updates_eq hgrown hgrown' hsame hthere
  cases st
  cases st'
  rw [Store.mk.injEq]
  exact ⟨hqueries, hupdates⟩

end Runs

end Store

end SqlCompose
