import SqlCompose.Proofs.Query.Reach

/-!
# Queries that never lead back to themselves

Where no query that is reached refers back to itself, following references
never meets a query that it is inside of: the queries above the one at hand
all lead to it.  Where also no condition asks for a row to be among those of a
query (`Store.IsSimple`), there is nothing in the settled tree for which a
dialect could refuse it.

## Main results

* `Store.IsSimple.exists_settle` — such a query is settled to a tree without a
  fault in any dialect, over the same table and with the same window.
-/

namespace SqlCompose

/-! ## Trees without a fault -/

theorem Clause.faultsAll_eq_nil {d : Dialect} {cs : List (Clause Query)}
    (h : ∀ c ∈ cs, c.faults d = []) : faultsAll d cs = [] := by
  induction cs with
  | nil => rfl
  | cons c rest ih =>
      have hrest := ih fun c' hc' => h c' (List.mem_cons_of_mem _ hc')
      exact List.append_eq_nil_iff.2 ⟨h c List.mem_cons_self, hrest⟩

theorem Query.faults_mk_eq_nil {d : Dialect} {s : Selection Query}
    (h : ∀ c ∈ s.clauses, c.faults d = []) : (mk s).faults d = [] := by
  have hconditions := Clause.faultsAll_eq_nil fun c hc => h c (List.mem_append_left _ hc)
  have hrelated := Clause.faultsAll_eq_nil fun c hc => h c (List.mem_append_right _ hc)
  exact (gather_mk _ _ s).trans (List.append_eq_nil_iff.2 ⟨hconditions, hrelated⟩)

namespace Selection

variable {ρ σ : Type} {f : ρ → Except Error σ} {s : Selection ρ}

/-- A query whose clauses are followed is followed. -/
theorem exists_follow {P : Clause σ → Prop}
    (h : ∀ c ∈ s.clauses, ∃ c', c.follow f = .ok c' ∧ P c') :
    ∃ s', s.follow f = .ok s' ∧ ∀ c ∈ s'.clauses, P c := by
  obtain ⟨conditions, hconditions, hP⟩ :=
    exists_mapM fun c hc => h c (List.mem_append_left _ hc)
  obtain ⟨related, hrelated, hP'⟩ := exists_mapM fun c hc => h c (List.mem_append_right _ hc)
  refine ⟨⟨s.schema, conditions, related, s.order, s.limit, s.offset⟩, ?_, fun c hc => ?_⟩
  · rw [follow, hconditions, hrelated]
    rfl
  · exact (List.mem_append.1 hc).elim (hP c) (hP' c)

/-- Following references leaves the table and the window as they are. -/
theorem schema_of_follow {s' : Selection σ} (h : s.follow f = .ok s') :
    s'.schema = s.schema ∧ s'.isPaged = s.isPaged := by
  obtain ⟨conditions, -, h⟩ := exists_of_bind h
  obtain ⟨related, -, h⟩ := exists_of_bind h
  cases h
  exact ⟨rfl, rfl⟩

end Selection

/-! ## Settling -/

namespace Store

/--
Whether nothing that a builder reaches refers back to itself, or asks for a
row to be among those of a query.
-/
structure IsSimple (st : Store) (x : Builder) : Prop where
  acyclic : ∀ a link b, st.Reaches x a → st.Refers link a b → ¬ st.Reaches b a
  unlisted : ∀ a b, st.Reaches x a → ¬ st.Refers .listed a b

namespace IsSimple

variable {st : Store} {x : Builder}

/-- Builders are simple that refer to builders of lower rank only, and not for a list of rows. -/
theorem of_rank (rank : Builder → Nat)
    (hrank : ∀ link a b, st.Refers link a b → rank b < rank a ∧ link ≠ .listed) :
    st.IsSimple x := by
  have hreaches : ∀ a b, st.Reaches a b → rank b ≤ rank a := fun a b h => by
    induction h with
    | refl => exact Nat.le_refl _
    | tail _ hstep ih =>
        obtain ⟨link, hlink⟩ := hstep
        exact Nat.le_trans (Nat.le_of_lt (hrank _ _ _ hlink).1) ih
  refine ⟨fun a link b _ hlink hback => ?_, fun a b _ hlink => (hrank _ _ _ hlink).2 rfl⟩
  exact Nat.lt_irrefl _ (Nat.lt_of_lt_of_le (hrank _ _ _ hlink).1 (hreaches _ _ hback))

/-- A clause of a query that is reached is followed without a fault if what it relates to is. -/
theorem exists_follow (h : st.IsSimple x) {r : QueryRef} (hr : st.Reaches x (.query r))
    {s : Selection QueryRef} (hs : st.query r = .ok s) {f : QueryRef → Except Error Query}
    (hf : ∀ inner, st.Refers .inner (.query r) (.query inner) →
      ∃ t, f inner = .ok (.mk t) ∧ ∀ d, (Query.mk t).faults d = [])
    {c : Clause QueryRef} (hc : c ∈ s.clauses) :
    ∃ c', c.follow f = .ok c' ∧ ∀ d, c'.faults d = [] := by
  cases c with
  | related column inner innerColumn negated =>
      obtain ⟨t, ht, hfaults⟩ := hf inner (.inner hs hc)
      refine ⟨.related column (.mk t) innerColumn negated, ?_, hfaults⟩
      rw [Clause.follow, ht]
      rfl
  | among query column => exact absurd (.listed hs hc) (h.unlisted _ (.query query) hr)
  | _ => exact ⟨_, rfl, fun _ => rfl⟩

/--
A query that is reached is settled without a fault, where the queries that it
is inside of all lead to it.
-/
theorem exists_settleWithin (h : st.IsSimple x) (hclosed : st.IsClosed) (depth : Nat)
    (path : List QueryRef) {r : QueryRef} (hr : st.Reaches x (.query r)) (hin : r.IsIn st)
    (hpath : path.Nodup) (hpathIn : ∀ p ∈ path, p.IsIn st)
    (habove : ∀ p ∈ path, ∃ link b, st.Refers link (.query p) b ∧ st.Reaches b (.query r))
    (hdepth : st.queries.size < depth + path.length) :
    ∃ s, st.settleWithin depth path r = .ok (.mk s) ∧ ∀ d, (Query.mk s).faults d = [] := by
  induction depth generalizing path r with
  | zero => exact absurd (length_path_le hpath hpathIn) (by omega)
  | succ depth ih =>
      obtain ⟨s, hs, hmem⟩ := hin.exists_query
      have hfresh : r ∉ path := fun hmet => by
        obtain ⟨link, b, hlink, hback⟩ := habove r hmet
        exact h.acyclic _ _ _ hr hlink hback
      have hclauses : ∀ c ∈ s.clauses, ∃ c', c.follow (st.settleWithin depth (r :: path)) = .ok c' ∧
          ∀ d, c'.faults d = [] := by
        refine fun c hc => h.exists_follow hr hs (fun inner hlink => ?_) hc
        refine ih _ (hr.tail hlink) (hclosed.isIn_of_refers hlink) (List.nodup_cons.2 ⟨hfresh, hpath⟩)
          (List.forall_mem_cons.2 ⟨hin, hpathIn⟩) (List.forall_mem_cons.2 ⟨?_, fun p hp => ?_⟩)
          (by rw [List.length_cons]; omega)
        · exact ⟨_, _, hlink, .refl _⟩
        · obtain ⟨link, b, hfirst, hrest⟩ := habove p hp
          exact ⟨link, b, hfirst, hrest.tail hlink⟩
      obtain ⟨s', hs', hfaults⟩ := Selection.exists_follow hclauses
      refine ⟨s', ?_, fun d => Query.faults_mk_eq_nil fun c hc => hfaults c hc d⟩
      rw [settleWithin, hs]
      simp only [Bind.bind, Except.bind, hin.1, Bool.false_eq_true, if_false,
        List.contains_iff_mem, hfresh, hs']
      rfl

/-- A query is settled to a tree without a fault, over its table and with its window. -/
theorem exists_settle {r : QueryRef} (h : st.IsSimple (.query r)) (hclosed : st.IsClosed)
    (hin : r.IsIn st) {s : Selection QueryRef} (hs : st.query r = .ok s) :
    ∃ t : Selection Query, st.settle r = .ok (.mk t) ∧ t.schema = s.schema ∧
      t.isPaged = s.isPaged ∧ ∀ d, (Query.mk t).faults d = [] := by
  obtain ⟨t, ht, hfaults⟩ := h.exists_settleWithin hclosed (st.queries.size + 1) []
    (.refl _) hin List.nodup_nil (by simp) (by simp) (by simp)
  have hfollow := (settle_eq hs hin.1).symm.trans ht
  cases hfollowed : s.follow (st.settleWithin st.queries.size [r]) with
  | error e =>
      rw [hfollowed] at hfollow
      cases hfollow
  | ok followed =>
      rw [hfollowed] at hfollow
      cases hfollow
      obtain ⟨hschema, hpaged⟩ := Selection.schema_of_follow hfollowed
      exact ⟨t, ht, hschema, hpaged, hfaults⟩

end IsSimple

end Store

end SqlCompose
