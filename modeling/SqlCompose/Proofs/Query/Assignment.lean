import SqlCompose.Proofs.Query.Operation
import SqlCompose.Proofs.Query.Traversal

/-!
# Lists of assignments

An update takes a clause into its list only if it assigns something: each of
the ways in which one is given makes assignments or fails
(`AssignmentSource.IsSound`).  So every list in a store that was built step by
step has assignments only (`Store.AssignsOnly`), and what such a list is
settled to has them only (`Store.AssignsOnly.settleUpdate`).
-/

namespace SqlCompose

/-! ## What makes assignments -/

namespace Handle

variable {ρ : Type} {h : Handle} {c : Clause ρ}

theorem isAssignment_assign {v : Value} (hc : h.assign v = .ok c) : c.isAssignment = true := by
  unfold assign at hc
  split at hc
  · cases hc
  · obtain ⟨checked, -, hmade⟩ := exists_of_bind hc
    cases hmade
    rfl

theorem isAssignment_assignNull (hc : h.assignNull = .ok c) : c.isAssignment = true := by
  unfold assignNull at hc
  split at hc
  · cases hc
    rfl
  · cases hc

end Handle

/-- Whether a way of giving assignments gives nothing else. -/
def Store.AssignmentSource.IsSound (source : Store.AssignmentSource) : Prop :=
  ∀ s c, source s = .ok c → c.isAssignment = true

namespace Schema

open Store (AssignmentSource)

theorem isSound_assignment (column : ColumnSource) (v : Value) :
    AssignmentSource.IsSound fun s => s.assignment column v := by
  intro s c h
  obtain ⟨handle, -, hassign⟩ := exists_of_bind h
  exact Handle.isAssignment_assign hassign

theorem isSound_nullAssignment (column : ColumnSource) :
    AssignmentSource.IsSound fun s => s.nullAssignment column := by
  intro s c h
  obtain ⟨handle, -, hassign⟩ := exists_of_bind h
  exact Handle.isAssignment_assignNull hassign

/-- A clause that the caller gives is an assignment, or is refused. -/
theorem isSound_assignmentOf (source : ClauseSource QueryRef) :
    AssignmentSource.IsSound fun s => s.assignmentOf source := by
  intro s c h
  obtain ⟨given, -, h⟩ := exists_of_bind h
  have hchecked : ∀ made : Clause QueryRef, (do
      if !made.isAssignment then throw (.compilation (.notAssignment made.kindName))
      s.checkNullable made
      return made : Except Error (Clause QueryRef)) = .ok c → c.isAssignment = true := by
    intro made hmade
    by_cases hassign : made.isAssignment = true
    · rw [hassign] at hmade
      obtain ⟨-, -, hmade⟩ := exists_of_bind hmade
      cases hmade
      exact hassign
    · rw [Bool.not_eq_true] at hassign
      rw [hassign] at hmade
      cases hmade
  split at h
  · obtain ⟨made, -, hmade⟩ := exists_of_bind h
    exact hchecked made hmade
  · obtain ⟨made, -, hmade⟩ := exists_of_bind h
    exact hchecked made hmade

end Schema

/-! ## Stores -/

/-- Following the reference in a clause leaves its kind as it is. -/
theorem Clause.isAssignment_follow {ρ σ : Type} {f : ρ → Except Error σ} {c : Clause ρ}
    {c' : Clause σ} (h : c.follow f = .ok c') : c'.isAssignment = c.isAssignment := by
  cases c with
  | related column inner innerColumn negated =>
      obtain ⟨q, -, hmade⟩ := exists_of_bind h
      cases hmade
      rfl
  | among query column =>
      obtain ⟨q, -, hmade⟩ := exists_of_bind h
      cases hmade
      rfl
  | _ =>
      cases h
      rfl

namespace Store

/-- Whether all that is in the lists of the updates are assignments. -/
def AssignsOnly (st : Store) : Prop :=
  ∀ u ∈ st.updates, ∀ c ∈ u.assignments, c.isAssignment = true

theorem assignsOnly_empty : AssignsOnly {} := by
  simp [AssignsOnly]

theorem mem_of_update {st : Store} {r : UpdateRef} {u : UpdateDraft} (h : st.update r = .ok u) :
    u ∈ st.updates := by
  unfold update at h
  split at h
  · rename_i found hfound
    cases h
    exact Array.mem_of_getElem? hfound
  · cases h

namespace AssignsOnly

variable {st st' : Store}

/-- Nothing that is done to a query changes an update. -/
theorem modifyQuery (h : st.AssignsOnly) {r : QueryRef}
    {change : Selection QueryRef → Except Error (Selection QueryRef)}
    (hst : st.modifyQuery r change = .ok st') : st'.AssignsOnly := by
  obtain ⟨s, -, hst⟩ := exists_of_bind hst
  obtain ⟨s', -, hst⟩ := exists_of_bind hst
  cases hst
  exact h

theorem newUpdate (h : st.AssignsOnly) (query : QueryRef) {cs : List (Clause QueryRef)}
    (hcs : ∀ c ∈ cs, c.isAssignment = true) : (st.newUpdate query cs).2.AssignsOnly := by
  intro u hu
  rcases Array.mem_push.1 hu with hu | rfl
  · exact h u hu
  · exact hcs

theorem startUpdate (h : st.AssignsOnly) {query : QueryRef} {source : AssignmentSource}
    (hsource : source.IsSound) {r : UpdateRef} (hst : st.startUpdate query source = .ok (r, st')) :
    st'.AssignsOnly := by
  obtain ⟨s, -, hst⟩ := exists_of_bind hst
  obtain ⟨c, hmade, hst⟩ := exists_of_bind hst
  have hc := hsource _ _ hmade
  have hst' : st' = (st.newUpdate query [c]).2 := by
    cases hst
    rfl
  rw [hst']
  exact h.newUpdate query (List.forall_mem_singleton.2 hc)

theorem addAssignment (h : st.AssignsOnly) {r : UpdateRef} {source : AssignmentSource}
    (hsource : source.IsSound) (hst : st.addAssignment r source = .ok st') : st'.AssignsOnly := by
  obtain ⟨u, hupdate, hst⟩ := exists_of_bind hst
  obtain ⟨s, -, hst⟩ := exists_of_bind hst
  obtain ⟨c, hmade, hst⟩ := exists_of_bind hst
  cases hst
  intro u' hu'
  rcases Array.mem_or_eq_of_mem_setIfInBounds hu' with hu' | rfl
  · exact h u' hu'
  · intro c' hc'
    rcases List.mem_append.1 hc' with hc' | hc'
    · exact h u (mem_of_update hupdate) c' hc'
    · rw [List.mem_singleton.1 hc']
      exact hsource _ _ hmade

/-- The assignments of an update with all references followed are assignments. -/
theorem settleUpdate (h : st.AssignsOnly) {r : UpdateRef} {u : Update}
    (hu : st.settleUpdate r = .ok u) : ∀ a ∈ u.assignments, a.isAssignment = true := by
  obtain ⟨draft, hdraft, hu⟩ := exists_of_bind hu
  obtain ⟨query, -, hu⟩ := exists_of_bind hu
  obtain ⟨settled, hsettled, hu⟩ := exists_of_bind hu
  cases hu
  intro a ha
  obtain ⟨c, hc, hfollowed⟩ := exists_of_mem_mapM hsettled a ha
  rw [Clause.isAssignment_follow hfollowed]
  exact h draft (mem_of_update hdraft) c hc

end AssignsOnly

end Store

end SqlCompose
