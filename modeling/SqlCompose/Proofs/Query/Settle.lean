import SqlCompose.Proofs.Query.Built

/-!
# What is added, after references are followed

A condition that is added to a query in a store is the last condition of the
query that the reference leads to, and an assignment that is added to an
update is its last assignment; everything else is what it was before.  This is
not plain, as other queries may refer to the query itself: but inside the
query such references are not followed, so that what has changed is met in no
other place.

## Main results

* `Store.settle_addCondition` — the settled query with one more condition.
* `Store.settleUpdate_addAssignment`, `Store.settleUpdate_startUpdate` — the
  settled update with one more assignment, or with its first one.
-/

namespace SqlCompose

variable {ρ σ : Type}

/-- A clause without a reference is followed to itself. -/
def Clause.IsPlain (c : Clause ρ) (c' : Clause σ) : Prop :=
  ∀ f : ρ → Except Error σ, c.follow f = .ok c'

theorem Clause.isPlain_compare (column : String) (op : Operator) (v : Value) (negated : Bool)
    (table : Option String) :
    (compare column op v negated table : Clause ρ).IsPlain
      (compare column op v negated table : Clause σ) :=
  fun _ => rfl

theorem Clause.isPlain_assign (column : String) (v : Value) (table : Option String) :
    (assign column v table : Clause ρ).IsPlain (assign column v table : Clause σ) :=
  fun _ => rfl

/-- An assignment holds no reference. -/
theorem Clause.exists_isPlain {c : Clause ρ} (h : c.isAssignment = true) :
    ∃ c' : Clause σ, c.IsPlain c' := by
  cases c with
  | assign column value table => exact ⟨_, isPlain_assign column value table⟩
  | assignNull column table => exact ⟨.assignNull column table, fun _ => rfl⟩
  | manual column template table => exact ⟨.manual column template table, fun _ => rfl⟩
  | _ => cases h

/-- What assignments are followed to does not depend on where references lead. -/
theorem Clause.exists_followAll {cs : List (Clause ρ)} (h : ∀ c ∈ cs, c.isAssignment = true) :
    ∃ cs' : List (Clause σ), cs'.length = cs.length ∧
      ∀ f : ρ → Except Error σ, cs.mapM (follow f) = .ok cs' := by
  induction cs with
  | nil => exact ⟨[], rfl, fun _ => rfl⟩
  | cons c rest ih =>
      obtain ⟨c', hplain⟩ := exists_isPlain (h c List.mem_cons_self)
      obtain ⟨rest', hlength, hrest⟩ := ih fun c' hc' => h c' (List.mem_cons_of_mem _ hc')
      refine ⟨c' :: rest', by rw [List.length_cons, List.length_cons, hlength], fun f => ?_⟩
      rw [List.mapM_cons, hplain f, hrest f]
      rfl

/-- A query with one more condition is followed to one with one more condition. -/
theorem Selection.follow_concat {f : ρ → Except Error σ} {q : Selection ρ} {q' : Selection σ}
    {c : Clause ρ} {c' : Clause σ} (hq : q.follow f = .ok q') (hc : c.IsPlain c') :
    ({ q with conditions := q.conditions ++ [c] } : Selection ρ).follow f =
      .ok { q' with conditions := q'.conditions ++ [c'] } := by
  obtain ⟨conditions, hconditions, hq⟩ := exists_of_bind hq
  obtain ⟨related, hrelated, hq⟩ := exists_of_bind hq
  cases hq
  simp only [follow, mapM_concat hconditions (hc f), hrelated, Bind.bind, Except.bind,
    Pure.pure, Except.pure]

namespace Store

/-! ## Stores in which one query differs -/

/-- Whether two stores have the same queries but for one, over the same table in both. -/
structure DiffersAt (r : QueryRef) (q q' : Selection QueryRef) (st st' : Store) : Prop where
  size : st'.queries.size = st.queries.size
  schema : q'.schema = q.schema
  before : ∀ r', r'.index = r.index → st.query r' = .ok q
  after : ∀ r', r'.index = r.index → st'.query r' = .ok q'
  others : ∀ r', r'.index ≠ r.index → st'.query r' = st.query r'

/--
Inside a query nothing depends on what the query says: a reference to it is
not followed there.
-/
theorem DiffersAt.settleWithin {r : QueryRef} {q q' : Selection QueryRef} {st st' : Store}
    (h : DiffersAt r q q' st st') (hr : r.isUpdate = false) {depth : Nat} {path : List QueryRef}
    (hpath : r ∈ path) (r' : QueryRef) :
    st'.settleWithin depth path r' = st.settleWithin depth path r' := by
  -- The path only grows on the way down, so that the query stays on it.
  induction depth generalizing path r' with
  | zero =>
      unfold Store.settleWithin
      by_cases hindex : r'.index = r.index
      · rw [h.before r' hindex, h.after r' hindex]
        simp only [Bind.bind, Except.bind, h.schema]
      · rw [h.others r' hindex]
  | succ depth ih =>
      unfold Store.settleWithin
      by_cases hindex : r'.index = r.index
      · rw [h.before r' hindex, h.after r' hindex]
        simp only [Bind.bind, Except.bind, h.schema]
        by_cases hupdate : r'.isUpdate = true
        · rw [if_pos hupdate, if_pos hupdate]
        · have hsame : r' = r := by
            obtain ⟨index', isUpdate'⟩ := r'
            obtain ⟨index, isUpdate⟩ := r
            rw [QueryRef.mk.injEq]
            exact ⟨hindex, (Bool.eq_false_iff.2 hupdate).trans hr.symm⟩
          subst hsame
          have hcontains : path.contains r' = true := List.contains_iff_mem.2 hpath
          rw [if_neg hupdate, if_neg hupdate, if_pos hcontains, if_pos hcontains]
      · have hsame : st'.settleWithin depth (r' :: path) = st.settleWithin depth (r' :: path) :=
          funext fun inner => ih (List.mem_cons_of_mem _ hpath) inner
        rw [h.others r' hindex, hsame]

/-- What a reference to a query is settled to: what the query says, with its references followed. -/
theorem settle_eq {st : Store} {r : QueryRef} {q : Selection QueryRef} (hq : st.query r = .ok q)
    (hr : r.isUpdate = false) :
    st.settle r = (q.follow (st.settleWithin st.queries.size [r])).map .mk := by
  rw [settle, Store.settleWithin, hq]
  simp only [Bind.bind, Except.bind, hr]
  cases q.follow (st.settleWithin st.queries.size [r]) <;> rfl

/-- A query that is put in the place of another one over the same table. -/
theorem differsAt_setIfInBounds {st : Store} {r : QueryRef} {q q' : Selection QueryRef}
    (hq : st.query r = .ok q) (hschema : q'.schema = q.schema) :
    DiffersAt r q q' st { st with queries := st.queries.setIfInBounds r.index q' } := by
  have hfound := getElem?_of_query hq
  obtain ⟨hbound, -⟩ := Array.getElem?_eq_some_iff.1 hfound
  refine ⟨Array.size_setIfInBounds, hschema, fun r' hindex => ?_, fun r' hindex => ?_,
    fun r' hindex => ?_⟩
  · rw [query, hindex, hfound]
  · simp only [query, hindex, Array.getElem?_setIfInBounds_self_of_lt hbound]
  · simp only [query, Array.getElem?_setIfInBounds_ne (Ne.symm hindex)]

/-- The settled query with one more condition. -/
theorem settle_addCondition {st : Store} {r : QueryRef} {q : Selection QueryRef}
    {selection : Selection Query} (hq : st.query r = .ok q) (hr : r.isUpdate = false)
    (hsettled : st.settle r = .ok (.mk selection)) {source : ClauseSource QueryRef}
    {c : Clause QueryRef} {c' : Clause Query} (hc : q.schema.resolveClause source = .ok c)
    (hplain : c.IsPlain c') :
    ∃ st', st.addCondition r source = .ok st' ∧
      st'.settle r = .ok (.mk { selection with conditions := selection.conditions ++ [c'] }) := by
  let q' : Selection QueryRef := { q with conditions := q.conditions ++ [c] }
  have hadd : st.addCondition r source =
      .ok { st with queries := st.queries.setIfInBounds r.index q' } := by
    simp only [addCondition, modifyQuery, setQuery, Selection.addCondition,
      Selection.withCondition, hq, hc, Bind.bind, Except.bind, Pure.pure, Except.pure, q']
  have hdiffers : DiffersAt r q q' st _ := differsAt_setIfInBounds hq rfl
  have hinside : st.settleWithin st.queries.size [r] = Store.settleWithin
      { st with queries := st.queries.setIfInBounds r.index q' } st.queries.size [r] :=
    funext fun r' => (hdiffers.settleWithin hr List.mem_cons_self r').symm
  have hfollowed : q.follow (st.settleWithin st.queries.size [r]) = .ok selection := by
    rw [settle_eq hq hr] at hsettled
    cases hfollow : q.follow (st.settleWithin st.queries.size [r]) with
    | error e => simp [hfollow, Except.map] at hsettled
    | ok followed => simpa [hfollow, Except.map] using hsettled
  refine ⟨_, hadd, ?_⟩
  rw [settle_eq (hdiffers.after r rfl) hr, hdiffers.size, ← hinside,
    Selection.follow_concat hfollowed hplain]
  rfl

/-! ## Updates -/

/-- What references to queries are settled to depends on the queries alone. -/
theorem settleWithin_of_queries {st st' : Store} (h : st'.queries = st.queries) (depth : Nat)
    (path : List QueryRef) (r : QueryRef) :
    st'.settleWithin depth path r = st.settleWithin depth path r := by
  have hquery : ∀ r', st'.query r' = st.query r' := fun r' => by rw [query, query, h]
  induction depth generalizing path r with
  | zero => rw [Store.settleWithin, Store.settleWithin, hquery]
  | succ depth ih =>
      have hsame : st'.settleWithin depth (r :: path) = st.settleWithin depth (r :: path) :=
        funext (ih (r :: path))
      rw [Store.settleWithin, Store.settleWithin, hquery, hsame]

theorem settle_of_queries {st st' : Store} (h : st'.queries = st.queries) :
    st'.settle = st.settle :=
  funext fun r => by rw [settle, settle, h, settleWithin_of_queries h]

theorem settleClause_of_queries {st st' : Store} (h : st'.queries = st.queries) :
    st'.settleClause = st.settleClause :=
  funext fun c => by rw [settleClause, settleClause, settle_of_queries h]

/-- The settled update with one more assignment. -/
theorem settleUpdate_addAssignment {st : Store} {r : UpdateRef} {draft : UpdateDraft} {u : Update}
    {s : Schema} (hdraft : st.update r = .ok draft) (hs : st.updateSchema draft = .ok s)
    (hsettled : st.settleUpdate r = .ok u) {source : AssignmentSource}
    {c : Clause QueryRef} {c' : Clause Query} (hc : source s = .ok c) (hplain : c.IsPlain c') :
    ∃ st', st.addAssignment r source = .ok st' ∧
      st'.update r = .ok { draft with assignments := draft.assignments ++ [c] } ∧
      st'.settleUpdate r = .ok { u with assignments := u.assignments ++ [c'] } := by
  have hfound : st.updates[r.index]? = some draft := by
    unfold update at hdraft
    split at hdraft
    · rename_i found hfound
      cases hdraft
      exact hfound
    · cases hdraft
  obtain ⟨hbound, -⟩ := Array.getElem?_eq_some_iff.1 hfound
  let draft' : UpdateDraft := { draft with assignments := draft.assignments ++ [c] }
  let st' : Store := { st with updates := st.updates.setIfInBounds r.index draft' }
  have hadd : st.addAssignment r source = .ok st' := by
    simp only [addAssignment, setUpdate, hdraft, hs, hc, Bind.bind, Except.bind, Pure.pure,
      Except.pure, st', draft']
  have hupdate : st'.update r = .ok draft' := by
    simp only [update, st', Array.getElem?_setIfInBounds_self_of_lt hbound]
  refine ⟨st', hadd, hupdate, ?_⟩
  obtain ⟨found, hfound', hsettled⟩ := exists_of_bind hsettled
  rw [hdraft] at hfound'
  cases hfound'
  obtain ⟨query, hquery, hsettled⟩ := exists_of_bind hsettled
  obtain ⟨assignments, hassignments, hsettled⟩ := exists_of_bind hsettled
  cases hsettled
  have hqueries : st'.queries = st.queries := rfl
  simp only [settleUpdate, hupdate, settle_of_queries hqueries, settleClause_of_queries hqueries,
    draft', hquery, mapM_concat hassignments (hplain _), Bind.bind, Except.bind, Pure.pure,
    Except.pure]

/-- The settled update with its first assignment. -/
theorem settleUpdate_startUpdate {st : Store} {r : QueryRef} {q : Selection QueryRef}
    {query : Query} (hq : st.query r = .ok q) (hsettled : st.settle r = .ok query)
    {source : AssignmentSource} {c : Clause QueryRef} {c' : Clause Query}
    (hc : source q.schema = .ok c) (hplain : c.IsPlain c') :
    ∃ st', st.startUpdate r source = .ok (⟨st.updates.size⟩, st') ∧
      st'.update ⟨st.updates.size⟩ = .ok ⟨r, [c]⟩ ∧
      st'.settleUpdate ⟨st.updates.size⟩ = .ok ⟨query.selection, [c']⟩ := by
  let st' : Store := { st with updates := st.updates.push ⟨r, [c]⟩ }
  have hstart : st.startUpdate r source = .ok (⟨st.updates.size⟩, st') := by
    simp only [startUpdate, newUpdate, hq, hc, Bind.bind, Except.bind, Pure.pure, Except.pure, st']
  have hupdate : st'.update ⟨st.updates.size⟩ = .ok ⟨r, [c]⟩ := by
    simp [update, st']
  have hqueries : st'.queries = st.queries := rfl
  refine ⟨st', hstart, hupdate, ?_⟩
  simp only [settleUpdate, hupdate, settle_of_queries hqueries, settleClause_of_queries hqueries,
    hsettled, List.mapM_cons, List.mapM_nil, settleClause, hplain _, Bind.bind, Except.bind,
    Pure.pure, Except.pure]

end Store

end SqlCompose
