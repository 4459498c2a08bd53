import SqlCompose.Proofs.Query.Frame

/-!
# What calls leave in a store

A store holds what the calls gave that made it, and nothing else.  The calls
are taken with the builders that they answered with (`History`), as an update
can be made by the call that gives its first assignment: what is given to a
builder is what the calls give that answered with it.

A query is ordered by the columns that were given to it, all of them and in
the order of the calls; an update makes the assignments that were given to it,
all of them and in the order of the calls.

## Main results

* `Store.Records.apply` — one call more is recorded as it is made.
* `Store.IsMadeBy.records` — so is every list of calls that makes a store.
-/

namespace SqlCompose

/-! ## Calls with their answers -/

namespace Edit

/-- The column to order by that a call gives, with the direction. -/
def order? : Edit → Option (ColumnSource × Direction)
  | order _ column direction => some (column, direction)
  | _ => none

/-- The assignment that a call gives. -/
def form? : Edit → Option AssignmentForm
  | assign _ form => some form
  | _ => none

end Edit

/-- Calls on builders, the first one first, with the builders that they answered with. -/
abbrev History := List (Edit × Builder)

namespace History

variable {α : Type} {pick : Edit → Option α} {b : Builder} {calls : History}

/-- What the calls give that answered with a builder. -/
def given (pick : Edit → Option α) (b : Builder) (calls : History) : List α :=
  calls.filterMap fun call => if call.2 = b then pick call.1 else none

theorem given_concat (e : Edit) (b' : Builder) :
    given pick b (calls ++ [(e, b')]) =
      given pick b calls ++ (if b' = b then pick e else none).toList := by
  rw [given, List.filterMap_append, given]
  cases h : (if b' = b then pick e else none) <;> simp [h]

/-- A call gives to the builder that it answers with. -/
theorem given_concat_self (e : Edit) :
    given pick b (calls ++ [(e, b)]) = given pick b calls ++ (pick e).toList := by
  rw [given_concat, if_pos rfl]

/-- A call gives nothing to other builders. -/
theorem given_concat_of_ne {b' : Builder} (h : b' ≠ b) (e : Edit) :
    given pick b (calls ++ [(e, b')]) = given pick b calls := by
  rw [given_concat, if_neg h]
  exact List.append_nil _

theorem given_concat_of_eq_none {e : Edit} (h : pick e = none) (b' : Builder) :
    given pick b (calls ++ [(e, b')]) = given pick b calls := by
  rw [given_concat, h, ite_self]
  exact List.append_nil _

/-- Nothing is given to a builder that no call answered with. -/
theorem given_eq_nil (h : ∀ call ∈ calls, call.2 ≠ b) : given pick b calls = [] := by
  rw [given, List.filterMap_eq_nil_iff]
  exact fun call hcall => if_neg (h call hcall)

end History

theorem UpdateRef.IsIn.of_update {r : UpdateRef} {st : Store} {u : UpdateDraft}
    (h : st.update r = .ok u) : r.IsIn st := by
  unfold Store.update at h
  split at h
  · rename_i found hfound
    exact (Array.getElem?_eq_some_iff.1 hfound).1
  · cases h

/-! ## What keeps the order of a query -/

namespace Selection

variable {ρ : Type} {s s' : Selection ρ}

theorem keeps_addCondition {source : ClauseSource ρ} (h : s.addCondition source = .ok s') :
    s'.schema = s.schema ∧ s'.order = s.order := by
  obtain ⟨c, -, h⟩ := exists_of_bind h
  cases h
  exact ⟨rfl, rfl⟩

theorem keeps_addRelated {inner : ρ} {schema : Schema} {column innerColumn : ColumnSource}
    {negated : Bool} (h : s.addRelated inner schema column innerColumn negated = .ok s') :
    s'.schema = s.schema ∧ s'.order = s.order := by
  obtain ⟨outer, -, h⟩ := exists_of_bind h
  obtain ⟨other, -, h⟩ := exists_of_bind h
  cases h
  exact ⟨rfl, rfl⟩

theorem keeps_setLimit {v : Value} (h : s.setLimit v = .ok s') :
    s'.schema = s.schema ∧ s'.order = s.order := by
  obtain ⟨n, -, h⟩ := exists_of_bind h
  cases h
  exact ⟨rfl, rfl⟩

theorem keeps_setOffset {v : Value} (h : s.setOffset v = .ok s') :
    s'.schema = s.schema ∧ s'.order = s.order := by
  obtain ⟨n, -, h⟩ := exists_of_bind h
  cases h
  exact ⟨rfl, rfl⟩

end Selection

/-! ## Orders that were given -/

/-- The column of a table to order by, as it is given. -/
def Schema.orderItem (s : Schema) (given : ColumnSource × Direction) : Except Error OrderItem := do
  let c ← s.resolveColumn given.1
  return ⟨c.name, given.2⟩

/-- A builder that is in a store is in every larger one. -/
theorem Builder.IsIn.mono {st st' : Store} {b : Builder} (h : b.IsIn st)
    (hqueries : st.queries.size ≤ st'.queries.size)
    (hupdates : st.updates.size ≤ st'.updates.size) : b.IsIn st' := by
  cases b with
  | query r => exact QueryRef.IsIn.mono h hqueries
  | update r => exact Nat.lt_of_lt_of_le h hupdates

namespace Store

open History (given)

/-- Whether a store is made by the calls, in their order. -/
inductive IsMadeBy : History → Store → Prop
  | empty : IsMadeBy [] {}
  | edit {calls st st' e b} :
      IsMadeBy calls st → Edit.IsOf st e → e.apply st = .ok (b, st') →
        IsMadeBy (calls ++ [(e, b)]) st'

theorem IsMadeBy.isMade {calls : History} {st : Store} (h : IsMadeBy calls st) : st.IsMade := by
  induction h with
  | empty => exact .empty
  | edit _ he hst ih => exact ih.edit he hst

/-! ## What is recorded -/

/-- Whether a store holds what calls gave, and nothing else. -/
structure Records (st : Store) (calls : History) : Prop where
  answered : ∀ call ∈ calls, call.2.IsIn st
  orders : ∀ r s, r.IsIn st → st.query r = .ok s →
    (given Edit.order? (.query r) calls).mapM s.schema.orderItem = .ok s.order
  assignments : ∀ r u s, st.update r = .ok u → st.updateSchema u = .ok s →
    (given Edit.form? (.update r) calls).mapM (fun form => form.source s) = .ok u.assignments

/-- What is in the place of a query after one was changed. -/
theorem query_of_modifyQuery {st st' : Store} {r : QueryRef}
    {change : Selection QueryRef → Except Error (Selection QueryRef)}
    (hst : st.modifyQuery r change = .ok st') {r' : QueryRef} {s' : Selection QueryRef}
    (hs' : st'.query r' = .ok s') :
    (r'.index = r.index ∧ ∃ s, st.query r' = .ok s ∧ change s = .ok s') ∨
      (r'.index ≠ r.index ∧ st.query r' = .ok s') := by
  obtain ⟨before, after, hbefore, hafter, rfl⟩ := exists_of_modifyQuery hst
  by_cases hindex : r'.index = r.index
  · have hfound : st.query r' = .ok before := by
      rw [query, hindex]
      exact hbefore
    obtain ⟨hbound, -⟩ := Array.getElem?_eq_some_iff.1 (getElem?_of_query hbefore)
    rw [query, hindex, Array.getElem?_setIfInBounds_self_of_lt hbound] at hs'
    cases hs'
    exact .inl ⟨hindex, before, hfound, hafter⟩
  · rw [query, Array.getElem?_setIfInBounds_ne (Ne.symm hindex)] at hs'
    exact .inr ⟨hindex, hs'⟩

/-- A table that is kept is the table of the same updates. -/
theorem updateSchema_of_modifyQuery {st st' : Store} {r : QueryRef}
    {change : Selection QueryRef → Except Error (Selection QueryRef)}
    (hchange : ∀ s s', change s = .ok s' → s'.schema = s.schema)
    (hst : st.modifyQuery r change = .ok st') {u : UpdateDraft} {s : Schema}
    (hs : st'.updateSchema u = .ok s) : st.updateSchema u = .ok s := by
  obtain ⟨q', hq', hs⟩ := exists_of_bind hs
  cases hs
  obtain ⟨-, q, hq, hq'⟩ | ⟨-, hq⟩ := query_of_modifyQuery hst hq'
  · rw [updateSchema, hq, hchange q q' hq']
    rfl
  · rw [updateSchema, hq]
    rfl

namespace Records

variable {calls : History} {st st' : Store}

theorem empty : Records {} [] where
  answered := by simp
  orders r s hr := absurd hr.2 (Nat.not_lt_zero _)
  assignments r u s hu := by cases hu

/-- A call that gives neither an order nor an assignment adds to what was answered only. -/
theorem answer (h : st.Records calls) {e : Edit} {b : Builder} (hb : b.IsIn st)
    (horder : e.order? = none) (hform : e.form? = none) : st.Records (calls ++ [(e, b)]) where
  answered call hcall := by
    rcases List.mem_append.1 hcall with hcall | hcall
    · exact h.answered call hcall
    · rw [List.mem_singleton.1 hcall]
      exact hb
  orders r s hr hs := by
    rw [History.given_concat_of_eq_none horder]
    exact h.orders r s hr hs
  assignments r u s hu hs := by
    rw [History.given_concat_of_eq_none hform]
    exact h.assignments r u s hu hs

/-- A query that no call answered with is not ordered. -/
theorem newQuery (h : st.Records calls) (hclosed : st.IsClosed) (schema : Schema) :
    (st.newQuery schema).2.Records calls := by
  have hagrees := AgreesBut.newQuery st schema
  refine ⟨fun call hcall => (h.answered call hcall).mono hagrees.queriesSize hagrees.updatesSize,
    fun r s hr hs => ?_, fun r u s hu hs => ?_⟩
  · by_cases hthere : r.IsIn st
    · rw [hagrees.queries r hthere (Option.some_ne_none _).symm] at hs
      exact h.orders r s hthere hs
    · have hindex : r.index = st.queries.size := by
        have hbound : r.index < (st.queries.push (.ofSchema schema)).size := hr.2
        rw [Array.size_push] at hbound
        have hout : ¬ r.index < st.queries.size := fun hlt => hthere ⟨hr.1, hlt⟩
        omega
      rw [query, Store.newQuery, hindex, Array.getElem?_push_size] at hs
      cases hs
      have hfresh : ∀ call ∈ calls, call.2 ≠ .query r := by
        intro call hcall hcalled
        have hanswered := h.answered call hcall
        rw [hcalled] at hanswered
        exact hthere hanswered
      rw [History.given_eq_nil hfresh]
      rfl
  · obtain ⟨q, hq, hs⟩ := exists_of_bind hs
    have htarget := hclosed.targets u (mem_of_update hu)
    rw [hagrees.queries u.query htarget (Option.some_ne_none _).symm] at hq
    exact h.assignments r u s hu (by rw [updateSchema, hq]; exact hs)

/-- What is made of the calls up to one, and of that one, is made of all of them. -/
private theorem mapM_given_concat {α β : Type} {pick : Edit → Option α} {f : α → Except Error β}
    {b : Builder} {e : Edit} {before added : List β}
    (hbefore : (given pick b calls).mapM f = .ok before)
    (hadded : (pick e).toList.mapM f = .ok added) :
    (given pick b (calls ++ [(e, b)])).mapM f = .ok (before ++ added) := by
  rw [History.given_concat_self, List.mapM_append, hbefore, hadded]
  rfl

private theorem isIn_of_mem_concat {e : Edit} {b : Builder} (h : ∀ call ∈ calls, call.2.IsIn st)
    (hb : b.IsIn st) : ∀ call ∈ calls ++ [(e, b)], call.2.IsIn st := by
  intro call hcall
  rcases List.mem_append.1 hcall with hcall | hcall
  · exact h call hcall
  · rw [List.mem_singleton.1 hcall]
    exact hb

/-- What a call adds to the order of a query stands after what was given before. -/
theorem modifyQuery (h : st.Records calls) {r : QueryRef} (hr : r.IsIn st) {e : Edit}
    (hform : e.form? = none) {change : Selection QueryRef → Except Error (Selection QueryRef)}
    (hchange : ∀ s s', change s = .ok s' → s'.schema = s.schema ∧
      ∃ added, e.order?.toList.mapM s.schema.orderItem = .ok added ∧ s'.order = s.order ++ added)
    (hst : st.modifyQuery r change = .ok st') : st'.Records (calls ++ [(e, .query r)]) := by
  have hupdates : st'.updates = st.updates := by
    obtain ⟨s, s', -, -, rfl⟩ := exists_of_modifyQuery hst
    rfl
  have hsize : st'.queries.size = st.queries.size := by
    obtain ⟨s, s', -, -, rfl⟩ := exists_of_modifyQuery hst
    exact Array.size_setIfInBounds ..
  refine ⟨fun call hcall => ?_, fun r' s' hr' hs' => ?_, fun r' u s hu hs => ?_⟩
  · have hanswered : call.2.IsIn st :=
      isIn_of_mem_concat h.answered (b := .query r) hr call hcall
    exact hanswered.mono (by omega) (Nat.le_of_eq (by rw [hupdates]))
  · have hthere : r'.IsIn st := ⟨hr'.1, hsize ▸ hr'.2⟩
    obtain ⟨hindex, s, hs, hmade⟩ | ⟨hindex, hs⟩ := query_of_modifyQuery hst hs'
    · obtain rfl : r' = r := hr.eq_of_index hthere hindex
      obtain ⟨hschema, added, hadded, horder⟩ := hchange s s' hmade
      rw [hschema, horder]
      exact mapM_given_concat (h.orders r' s hthere hs) hadded
    · rw [History.given_concat_of_ne (by rintro ⟨⟩; exact hindex rfl)]
      exact h.orders r' s' hthere hs
  · rw [update, hupdates] at hu
    rw [History.given_concat_of_eq_none hform]
    exact h.assignments r' u s hu
      (updateSchema_of_modifyQuery (fun _ _ hmade => (hchange _ _ hmade).1) hst hs)

/-- What keeps the table and the order of a query adds nothing to its order. -/
theorem keepOrder (h : st.Records calls) {r : QueryRef} (hr : r.IsIn st) {e : Edit}
    (horder : e.order? = none) (hform : e.form? = none)
    {change : Selection QueryRef → Except Error (Selection QueryRef)}
    (hchange : ∀ s s', change s = .ok s' → s'.schema = s.schema ∧ s'.order = s.order)
    (hst : st.modifyQuery r change = .ok st') : st'.Records (calls ++ [(e, .query r)]) := by
  refine h.modifyQuery hr hform (fun s s' hs => ?_) hst
  obtain ⟨hschema, hsame⟩ := hchange s s' hs
  exact ⟨hschema, [], by rw [horder]; rfl, by rw [hsame, List.append_nil]⟩

/-- A new update assigns what the call gives that makes it. -/
theorem newUpdate (h : st.Records calls) {query : QueryRef} {cs : List (Clause QueryRef)}
    {e : Edit} (horder : e.order? = none)
    (hcs : ∀ s, st.query query = .ok s →
      e.form?.toList.mapM (fun form => form.source s.schema) = .ok cs) :
    (st.newUpdate query cs).2.Records (calls ++ [(e, .update ⟨st.updates.size⟩)]) := by
  have hagrees := AgreesBut.newUpdate st query cs
  have hmade : (Builder.update ⟨st.updates.size⟩).IsIn (st.newUpdate query cs).2 := by
    simp [Builder.IsIn, UpdateRef.IsIn, Store.newUpdate]
  refine ⟨isIn_of_mem_concat (fun call hcall => (h.answered call hcall).mono hagrees.queriesSize
    hagrees.updatesSize) hmade, fun r s hr hs => ?_, fun r u s hu hs => ?_⟩
  · rw [History.given_concat_of_eq_none horder]
    exact h.orders r s hr hs
  · by_cases hthere : r.IsIn st
    · rw [hagrees.updates r hthere (Option.some_ne_none _).symm] at hu
      have hindex : r.index ≠ st.updates.size := Nat.ne_of_lt hthere
      rw [History.given_concat_of_ne (by rintro ⟨⟩; exact hindex rfl)]
      exact h.assignments r u s hu hs
    · have hindex : r = ⟨st.updates.size⟩ := by
        have hbound := UpdateRef.IsIn.of_update hu
        rw [UpdateRef.IsIn, Store.newUpdate, Array.size_push] at hbound
        have hout : ¬ r.index < st.updates.size := hthere
        exact congrArg UpdateRef.mk (by omega : r.index = st.updates.size)
      subst hindex
      rw [update, Store.newUpdate, Array.getElem?_push_size] at hu
      cases hu
      obtain ⟨q, hq, hs⟩ := exists_of_bind hs
      cases hs
      have hbefore : (given Edit.form? (.update ⟨st.updates.size⟩) calls).mapM
          (fun form => form.source q.schema) = .ok [] := by
        rw [History.given_eq_nil]
        · rfl
        · intro call hcall hcalled
          have hanswered := h.answered call hcall
          rw [hcalled] at hanswered
          exact hthere hanswered
      exact mapM_given_concat hbefore (hcs q hq)

/-- One assignment more stands after those that were given before. -/
theorem addAssignment (h : st.Records calls) {r : UpdateRef} {form : AssignmentForm}
    (hst : st.addAssignment r form.source = .ok st') :
    st'.Records (calls ++ [(.assign (.update r) form, .update r)]) := by
  have hagrees := AgreesBut.addAssignment hst
  obtain ⟨draft, hdraft, hst⟩ := exists_of_bind hst
  obtain ⟨schema, hschema, hst⟩ := exists_of_bind hst
  obtain ⟨c, hc, hst⟩ := exists_of_bind hst
  have hr : r.IsIn st := UpdateRef.IsIn.of_update hdraft
  cases hst
  refine ⟨fun call hcall => ?_, fun r' s hr' hs => ?_, fun r' u s hu hs => ?_⟩
  · have hanswered : call.2.IsIn st :=
      isIn_of_mem_concat h.answered (b := .update r) hr call hcall
    exact hanswered.mono hagrees.queriesSize hagrees.updatesSize
  · rw [History.given_concat_of_eq_none rfl]
    exact h.orders r' s hr' hs
  · by_cases hsame : r' = r
    · subst hsame
      rw [update, updates_setUpdate, Array.getElem?_setIfInBounds_self_of_lt hr] at hu
      cases hu
      obtain rfl : schema = s := Except.ok.inj (hschema.symm.trans hs)
      refine mapM_given_concat (h.assignments r' draft schema hdraft hschema) ?_
      show ([form].mapM fun form => form.source schema) = .ok [c]
      rw [List.mapM_cons, hc]
      rfl
    · have hthere : r'.IsIn st := by
        have hbound := UpdateRef.IsIn.of_update hu
        rwa [UpdateRef.IsIn, updates_setUpdate, Array.size_setIfInBounds] at hbound
      rw [hagrees.updates r' hthere (by rintro ⟨⟩; exact hsame rfl)] at hu
      rw [History.given_concat_of_ne (by rintro ⟨⟩; exact hsame rfl)]
      exact h.assignments r' u s hu hs

/-! ## One call more -/

/-- One call more is recorded as it is made. -/
theorem apply (h : st.Records calls) (hclosed : st.IsClosed) {e : Edit} (he : e.IsOf st)
    {b : Builder} (hst : e.apply st = .ok (b, st')) : st'.Records (calls ++ [(e, b)]) := by
  cases e with
  | select model =>
      obtain ⟨s, -, hst⟩ := exists_of_bind hst
      cases hst
      have hmade : (Builder.query (st.newQuery s).1).IsIn (st.newQuery s).2 := by
        simp [Builder.IsIn, QueryRef.IsIn, Store.newQuery]
      exact (h.newQuery hclosed s).answer hmade rfl rfl
  | condition r clause =>
      obtain ⟨next, hnext, hst⟩ := exists_of_bind hst
      cases hst
      exact h.keepOrder he.1 rfl rfl (fun _ _ => Selection.keeps_addCondition) hnext
  | related r rows column innerColumn negated =>
      cases rows with
      | query inner =>
          obtain ⟨next, hnext, hst⟩ := exists_of_bind hst
          cases hst
          obtain ⟨other, -, hnext⟩ := exists_of_bind hnext
          exact h.keepOrder he.1 rfl rfl (fun _ _ => Selection.keeps_addRelated) hnext
      | model model =>
          obtain ⟨s, -, hst⟩ := exists_of_bind hst
          obtain ⟨next, hnext, hst⟩ := exists_of_bind hst
          cases hst
          obtain ⟨-, -, hnext⟩ := exists_of_bind hnext
          obtain ⟨other, -, hnext⟩ := exists_of_bind hnext
          exact (h.newQuery hclosed s).keepOrder
            (he.1.mono (AgreesBut.newQuery st s).queriesSize) rfl rfl
            (fun _ _ => Selection.keeps_addRelated) hnext
  | order r column direction =>
      obtain ⟨next, hnext, hst⟩ := exists_of_bind hst
      cases hst
      refine h.modifyQuery he rfl (fun s s' hs => ?_) hnext
      obtain ⟨c, hc, hs⟩ := exists_of_bind hs
      cases hs
      refine ⟨rfl, [⟨c.name, direction⟩], ?_, rfl⟩
      show ([(column, direction)].mapM s.schema.orderItem) = _
      rw [List.mapM_cons, Schema.orderItem, hc]
      rfl
  | limit r v =>
      obtain ⟨next, hnext, hst⟩ := exists_of_bind hst
      cases hst
      exact h.keepOrder he rfl rfl (fun _ _ => Selection.keeps_setLimit) hnext
  | offset r v =>
      obtain ⟨next, hnext, hst⟩ := exists_of_bind hst
      cases hst
      exact h.keepOrder he rfl rfl (fun _ _ => Selection.keeps_setOffset) hnext
  | update r =>
      cases hst
      exact h.newUpdate rfl fun _ _ => rfl
  | assign target form =>
      cases target with
      | query r =>
          obtain ⟨made, hmade, hst⟩ := exists_of_bind hst
          cases hst
          obtain ⟨s, hs, hmade⟩ := exists_of_bind hmade
          obtain ⟨c, hc, hmade⟩ := exists_of_bind hmade
          cases hmade
          refine h.newUpdate rfl fun s' hs' => ?_
          obtain rfl : s = s' := Except.ok.inj (hs.symm.trans hs')
          show ([form].mapM fun form => form.source s.schema) = .ok [c]
          rw [List.mapM_cons, hc]
          rfl
      | update r =>
          obtain ⟨next, hnext, hst⟩ := exists_of_bind hst
          cases hst
          exact h.addAssignment hnext

end Records

/-- Every list of calls that makes a store is recorded in it. -/
theorem IsMadeBy.records {calls : History} {st : Store} (h : IsMadeBy calls st) :
    st.Records calls := by
  induction h with
  | empty => exact .empty
  | edit hmade he hst ih => exact ih.apply hmade.isMade.isClosed he hst

end Store

end SqlCompose
