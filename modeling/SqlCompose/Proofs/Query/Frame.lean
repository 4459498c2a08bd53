import SqlCompose.Proofs.Query.Edit

/-!
# What an edit leaves as it was

An edit changes at most one of the builders that are there, its target
(`Edit.agreesBut`); what it adds besides is new and nothing refers to it yet.
An edit of the order or of the window of a query leaves the filter of the
query: its table and its conditions (`Edit.sameFilter`).
-/

namespace SqlCompose

namespace Store

/-! ## One builder that differs -/

/-- Whether the builders of a store are the same in another one, but for the one that changed. -/
structure AgreesBut (changed : Option Builder) (st st' : Store) : Prop where
  queriesSize : st.queries.size ≤ st'.queries.size
  updatesSize : st.updates.size ≤ st'.updates.size
  queries : ∀ r : QueryRef, r.IsIn st → changed ≠ some (.query r) → st'.query r = st.query r
  updates : ∀ r : UpdateRef, r.IsIn st → changed ≠ some (.update r) → st'.update r = st.update r

namespace AgreesBut

variable {changed : Option Builder} {st st' st'' : Store}

theorem ofNone (h : AgreesBut none st st') (changed : Option Builder) :
    AgreesBut changed st st' where
  queriesSize := h.queriesSize
  updatesSize := h.updatesSize
  queries r hr _ := h.queries r hr (by simp)
  updates r hr _ := h.updates r hr (by simp)

theorem trans (h : AgreesBut changed st st') (h' : AgreesBut changed st' st'') :
    AgreesBut changed st st'' where
  queriesSize := Nat.le_trans h.queriesSize h'.queriesSize
  updatesSize := Nat.le_trans h.updatesSize h'.updatesSize
  queries r hr hother := (h'.queries r (hr.mono h.queriesSize) hother).trans (h.queries r hr hother)
  updates r hr hother :=
    (h'.updates r (Nat.lt_of_lt_of_le hr h.updatesSize) hother).trans (h.updates r hr hother)

theorem newQuery (st : Store) (schema : Schema) : AgreesBut none st (st.newQuery schema).2 where
  queriesSize := by simp [Store.newQuery]
  updatesSize := Nat.le_refl _
  queries r hr _ := by
    rw [query, query, Store.newQuery, Array.getElem?_push_lt hr.2, Array.getElem?_eq_getElem hr.2]
  updates r hr _ := rfl

theorem newUpdate (st : Store) (query : QueryRef) (cs : List (Clause QueryRef)) :
    AgreesBut none st (st.newUpdate query cs).2 where
  queriesSize := Nat.le_refl _
  updatesSize := by simp [Store.newUpdate]
  queries r hr _ := rfl
  updates r hr _ := by
    rw [update, update, Store.newUpdate, Array.getElem?_push_lt hr, Array.getElem?_eq_getElem hr]

/-- A query that is changed is in another place than every other query. -/
theorem modifyQuery {r : QueryRef} (hr : r.IsIn st)
    {change : Selection QueryRef → Except Error (Selection QueryRef)}
    (hst : st.modifyQuery r change = .ok st') : AgreesBut (some (.query r)) st st' := by
  obtain ⟨s, s', -, -, rfl⟩ := exists_of_modifyQuery hst
  refine ⟨by simp, Nat.le_refl _, fun r' hr' hother => ?_, fun r' hr' _ => rfl⟩
  have hindex : r.index ≠ r'.index := fun hindex =>
    hother (congrArg (some ∘ Builder.query) (hr'.eq_of_index hr hindex))
  rw [query, query, Array.getElem?_setIfInBounds_ne hindex]

theorem addRelated {r inner : QueryRef} (hr : r.IsIn st) {column innerColumn : ColumnSource}
    {negated : Bool} (hst : st.addRelated r inner column innerColumn negated = .ok st') :
    AgreesBut (some (.query r)) st st' := by
  obtain ⟨other, -, hst⟩ := exists_of_bind hst
  exact modifyQuery hr hst

theorem addAssignment {r : UpdateRef} {source : AssignmentSource}
    (hst : st.addAssignment r source = .ok st') : AgreesBut (some (.update r)) st st' := by
  obtain ⟨u, -, hst⟩ := exists_of_bind hst
  obtain ⟨s, -, hst⟩ := exists_of_bind hst
  obtain ⟨c, -, hst⟩ := exists_of_bind hst
  cases hst
  refine ⟨Nat.le_refl _, by simp, fun r' hr' _ => rfl, fun r' hr' hother => ?_⟩
  have hindex : r.index ≠ r'.index := fun hindex =>
    hother (congrArg (some ∘ Builder.update ∘ UpdateRef.mk) hindex)
  rw [update, update, updates_setUpdate, Array.getElem?_setIfInBounds_ne hindex]

end AgreesBut

/-- What keeps the filter of every query keeps it where the result is put. -/
theorem sameFilter_of_modifyQuery {st st' : Store} {r : QueryRef}
    {change : Selection QueryRef → Except Error (Selection QueryRef)}
    (hchange : ∀ s s', change s = .ok s' → s.SameFilter s')
    (hst : st.modifyQuery r change = .ok st') {r' : QueryRef} {s : Selection QueryRef}
    (hs : st.query r' = .ok s) : ∃ s', st'.query r' = .ok s' ∧ s.SameFilter s' := by
  obtain ⟨before, after, hbefore, hafter, rfl⟩ := exists_of_modifyQuery hst
  by_cases hindex : r.index = r'.index
  · have hsame : before = s := by
      rw [query, hindex] at hbefore
      exact Except.ok.inj (hbefore.symm.trans hs)
    obtain ⟨hbound, -⟩ := Array.getElem?_eq_some_iff.1 (getElem?_of_query hs)
    refine ⟨after, ?_, hsame ▸ hchange before after hafter⟩
    rw [query, hindex, Array.getElem?_setIfInBounds_self_of_lt hbound]
  · refine ⟨s, ?_, .refl s⟩
    rw [← hs, query, query, Array.getElem?_setIfInBounds_ne hindex]

end Store

namespace Edit

open Store (AgreesBut)

variable {st st' : Store} {e : Edit} {b : Builder}

/-- An edit leaves every builder but its target as it was. -/
theorem agreesBut (he : e.IsOf st) (hst : e.apply st = .ok (b, st')) :
    AgreesBut e.target st st' := by
  cases e with
  | select model =>
      obtain ⟨s, -, hst⟩ := exists_of_bind hst
      cases hst
      exact .newQuery st s
  | condition r clause =>
      obtain ⟨next, hnext, hst⟩ := exists_of_bind hst
      cases hst
      exact .modifyQuery he.1 hnext
  | related r rows column innerColumn negated =>
      cases rows with
      | query inner =>
          obtain ⟨next, hnext, hst⟩ := exists_of_bind hst
          cases hst
          exact .addRelated he.1 hnext
      | model model =>
          obtain ⟨s, -, hst⟩ := exists_of_bind hst
          obtain ⟨next, hnext, hst⟩ := exists_of_bind hst
          cases hst
          obtain ⟨-, -, hnext⟩ := exists_of_bind hnext
          have hmade := AgreesBut.newQuery st s
          exact (hmade.ofNone _).trans (.addRelated (he.1.mono hmade.queriesSize) hnext)
  | order r column direction =>
      obtain ⟨next, hnext, hst⟩ := exists_of_bind hst
      cases hst
      exact .modifyQuery he hnext
  | limit r v =>
      obtain ⟨next, hnext, hst⟩ := exists_of_bind hst
      cases hst
      exact .modifyQuery he hnext
  | offset r v =>
      obtain ⟨next, hnext, hst⟩ := exists_of_bind hst
      cases hst
      exact .modifyQuery he hnext
  | update r =>
      cases hst
      exact .newUpdate st r []
  | assign target form =>
      cases target with
      | query r =>
          obtain ⟨made, hmade, hst⟩ := exists_of_bind hst
          cases hst
          obtain ⟨s, -, hmade⟩ := exists_of_bind hmade
          obtain ⟨c, -, hmade⟩ := exists_of_bind hmade
          cases hmade
          exact .newUpdate st r [c]
      | update r =>
          obtain ⟨next, hnext, hst⟩ := exists_of_bind hst
          cases hst
          exact .addAssignment hnext

/-- An edit of the order or of the window leaves the filter of every query. -/
theorem sameFilter (hwindow : e.isWindow = true) (hst : e.apply st = .ok (b, st')) {r : QueryRef}
    {s : Selection QueryRef} (hs : st.query r = .ok s) :
    ∃ s', st'.query r = .ok s' ∧ s.SameFilter s' := by
  cases e with
  | order r' column direction =>
      obtain ⟨next, hnext, hst⟩ := exists_of_bind hst
      cases hst
      exact Store.sameFilter_of_modifyQuery (fun _ _ => .addOrder) hnext hs
  | limit r' v =>
      obtain ⟨next, hnext, hst⟩ := exists_of_bind hst
      cases hst
      exact Store.sameFilter_of_modifyQuery (fun _ _ => .setLimit) hnext hs
  | offset r' v =>
      obtain ⟨next, hnext, hst⟩ := exists_of_bind hst
      cases hst
      exact Store.sameFilter_of_modifyQuery (fun _ _ => .setOffset) hnext hs
  | _ => cases hwindow

end Edit

end SqlCompose
