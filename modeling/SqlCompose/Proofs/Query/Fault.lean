import SqlCompose.Proofs.Query.Acyclic

/-!
# What is wrong first

A query that cannot be written is refused for what is met first
(`Query.faults`), and this may be that references lead deeper than they are
followed.  Then it is open what is behind; where they are followed deeper the
query may turn out to be refused for something else, or not at all
(`Query.Extends`).  In all other cases following them deeper changes nothing.

## Main results

* `Selection.extends_follow` — a query is extended where everything that its
  clauses refer to is.
* `Query.mem_faults_mk`, `Clause.exists_of_mem_faults` — what is wrong with a
  query is wrong with one of its clauses, and there with a list of rows or with
  what the clause refers to.
-/

namespace SqlCompose

/-! ## Lists of faults -/

/-- Whether what is wrong first is that references lead deeper than they are followed. -/
def IsOpen (faults : List Error) : Prop := faults.head? = some .endlessNesting

/-- Whether the same is wrong first, and `p` is so where nothing is wrong. -/
structure FaultsAgree (faults faults' : List Error) (p : Prop) : Prop where
  head : faults'.head? = faults.head?
  valid : faults = [] → p

/-- Whether faults agree with those that they extend, unless these are open. -/
def FaultsExtend (faults faults' : List Error) (p : Prop) : Prop :=
  ¬ IsOpen faults → FaultsAgree faults faults' p

section Faults

variable {faults faults' faults'' rest rest' : List Error} {p q : Prop}

/-- What is wrong first is wrong before, or is wrong first after it. -/
theorem mem_or_head?_of_append {e : Error} (h : (faults ++ rest).head? = some e) :
    e ∈ faults ∨ rest.head? = some e := by
  cases faults with
  | nil => exact .inr h
  | cons first others =>
      cases h
      exact .inl List.mem_cons_self

namespace FaultsAgree

theorem refl (faults : List Error) (hp : faults = [] → p) : FaultsAgree faults faults p :=
  ⟨rfl, hp⟩

theorem imp (h : FaultsAgree faults faults' p) (hpq : p → q) : FaultsAgree faults faults' q :=
  ⟨h.head, fun hnone => hpq (h.valid hnone)⟩

theorem not_isOpen (h : FaultsAgree faults faults' p) (hopen : ¬ IsOpen faults) :
    ¬ IsOpen faults' := by
  rw [IsOpen, h.head]
  exact hopen

theorem eq_nil (h : FaultsAgree faults faults' p) (hnone : faults = []) : faults' = [] := by
  rw [← List.head?_eq_none_iff, h.head, hnone]
  rfl

theorem eq_nil_of_eq_nil (h : FaultsAgree faults faults' p) (hnone : faults' = []) :
    faults = [] := by
  rw [← List.head?_eq_none_iff, ← h.head, hnone]
  rfl

/-- What is wrong before is wrong in both cases. -/
theorem prepend (h : FaultsAgree faults faults' p) (before : List Error) :
    FaultsAgree (before ++ faults) (before ++ faults') p := by
  by_cases hnone : before = []
  · rw [hnone]
    exact h
  · refine ⟨?_, fun hempty => absurd (List.append_eq_nil_iff.1 hempty).1 hnone⟩
    rw [List.head?_append_of_ne_nil _ hnone, List.head?_append_of_ne_nil _ hnone]

end FaultsAgree

namespace FaultsExtend

theorem refl (faults : List Error) (hp : p) : FaultsExtend faults faults p :=
  fun _ => .refl faults fun _ => hp

/-- What is open is extended by anything. -/
theorem of_isOpen (h : IsOpen faults) : FaultsExtend faults faults' p :=
  fun hopen => absurd h hopen

theorem imp (h : FaultsExtend faults faults' p) (hpq : p → q) : FaultsExtend faults faults' q :=
  fun hopen => (h hopen).imp hpq

theorem trans (h : FaultsExtend faults faults' p) (h' : FaultsExtend faults' faults'' q) :
    FaultsExtend faults faults'' (p ∧ q) := by
  intro hopen
  have hfirst := h hopen
  have hsecond := h' (hfirst.not_isOpen hopen)
  refine ⟨hsecond.head.trans hfirst.head, fun hnone => ⟨hfirst.valid hnone, ?_⟩⟩
  exact hsecond.valid (hfirst.eq_nil hnone)

/-- What comes after faults counts only where there are none. -/
theorem append (h : FaultsExtend faults faults' p) (hrest : FaultsExtend rest rest' q) :
    FaultsExtend (faults ++ rest) (faults' ++ rest') (p ∧ q) := by
  intro hopen
  by_cases hnone : faults = []
  · subst hnone
    have hfirst := h nofun
    obtain rfl : faults' = [] := hfirst.eq_nil rfl
    have hsecond := hrest hopen
    exact ⟨hsecond.head, fun hempty => ⟨hfirst.valid rfl, hsecond.valid hempty⟩⟩
  · have hhead : (faults ++ rest).head? = faults.head? := List.head?_append_of_ne_nil _ hnone
    rw [IsOpen, hhead] at hopen
    have hfirst := h hopen
    have hnone' : faults' ≠ [] := fun hempty => hnone (hfirst.eq_nil_of_eq_nil hempty)
    refine ⟨?_, fun hempty => absurd (List.append_eq_nil_iff.1 hempty).1 hnone⟩
    rw [hhead, List.head?_append_of_ne_nil _ hnone', hfirst.head]

/-- Faults that extend each other agree. -/
theorem antisymm (h : FaultsExtend faults faults' p) (h' : FaultsExtend faults' faults q) :
    FaultsAgree faults faults' p := by
  by_cases hopen : IsOpen faults
  · have hopen' : IsOpen faults' := by
      by_contra hclosed
      exact (h' hclosed).not_isOpen hclosed hopen
    refine ⟨Eq.trans hopen' (Eq.symm hopen), fun hnone => ?_⟩
    rw [hnone] at hopen
    cases hopen
  · exact h hopen

end FaultsExtend

end Faults

/-! ## Trees in which references are followed deeper -/

/-- Whether a query is refused for what the other one is, or is the same, unless that is open. -/
structure Query.Extends (d : Dialect) (q q' : Query) : Prop where
  schema : q'.selection.schema = q.selection.schema
  faults : FaultsExtend (q.faults d) (q'.faults d) (q' = q)

namespace Query.Extends

variable {d : Dialect} {q q' q'' : Query}

theorem trans (h : q.Extends d q') (h' : q'.Extends d q'') : q.Extends d q'' where
  schema := h'.schema.trans h.schema
  faults := (h.faults.trans h'.faults).imp fun hsame => hsame.2.trans hsame.1

/-- Where references are not followed any further, everything over the table extends it. -/
theorem of_stop {s : Schema} (h : q.selection.schema = s) :
    (unwritable s .endlessNesting).Extends d q where
  schema := h
  faults := .of_isOpen rfl

/-- What is not open has nothing left to be extended by. -/
theorem symm (h : q.Extends d q') (hopen : ¬ IsOpen (q.faults d)) : q'.Extends d q where
  schema := h.schema.symm
  faults := fun _ => by
    have hsame := h.faults hopen
    exact ⟨hsame.head.symm, fun hnone => (hsame.valid (hsame.eq_nil_of_eq_nil hnone)).symm⟩

end Query.Extends

section Follow

variable {ρ : Type} {f g : ρ → Except Error Query} {d : Dialect}

/-- Whether two ways to follow a reference succeed, the second one with what extends the first. -/
def FollowsOn (d : Dialect) (f g : ρ → Except Error Query) (r : ρ) : Prop :=
  ∃ q q', f r = .ok q ∧ g r = .ok q' ∧ q.Extends d q'

theorem FollowsOn.trans {e : ρ → Except Error Query} {r : ρ} (h : FollowsOn d e f r)
    (h' : FollowsOn d f g r) : FollowsOn d e g r := by
  obtain ⟨q, q', hq, hq', hextends⟩ := h
  obtain ⟨found, q'', hfound, hq'', hextends'⟩ := h'
  obtain rfl : q' = found := Except.ok.inj (hq'.symm.trans hfound)
  exact ⟨q, q'', hq, hq'', hextends.trans hextends'⟩

/-- A clause is followed to one that extends it if what it refers to is. -/
theorem Clause.extends_follow {c : Clause ρ} (h : ∀ r ∈ c.references, FollowsOn d f g r) :
    ∃ c₁ c₂, c.follow f = .ok c₁ ∧ c.follow g = .ok c₂ ∧
      FaultsExtend (c₁.faults d) (c₂.faults d) (c₂ = c₁) := by
  cases c with
  | related column inner innerColumn negated =>
      obtain ⟨q, q', hq, hq', hextends⟩ := h inner List.mem_cons_self
      refine ⟨.related column q innerColumn negated, .related column q' innerColumn negated,
        ?_, ?_, hextends.faults.imp fun hsame => by rw [hsame]⟩
      · rw [follow, hq]
        rfl
      · rw [follow, hq']
        rfl
  | among query column =>
      obtain ⟨q, q', hq, hq', hextends⟩ := h query List.mem_cons_self
      -- Whether rows can be told apart is a matter of the table alone.
      have hown : ownFaults d (.among q' column) = ownFaults d (.among q column) := by
        simp only [ownFaults, hextends.schema]
      have hfaults := (FaultsExtend.refl (ownFaults d (.among q column)) trivial).append
        hextends.faults
      refine ⟨.among q column, .among q' column, ?_, ?_, ?_⟩
      · rw [follow, hq]
        rfl
      · rw [follow, hq']
        rfl
      · show FaultsExtend _ (ownFaults d (.among q' column) ++ q'.faults d) _
        rw [hown]
        exact hfaults.imp fun hsame => by rw [hsame.2]
  | _ => exact ⟨_, _, rfl, rfl, .refl _ rfl⟩

/-- Clauses of which each is extended are extended. -/
theorem Clause.extends_faultsAll {cs cs' : List (Clause Query)}
    (h : List.Forall₂ (fun c c' => FaultsExtend (c.faults d) (c'.faults d) (c' = c)) cs cs') :
    FaultsExtend (faultsAll d cs) (faultsAll d cs') (cs' = cs) := by
  induction h with
  | nil => exact .refl _ rfl
  | cons hhead _ ih =>
      exact (hhead.append ih).imp fun hsame => List.cons_eq_cons.2 hsame

/-- A query is followed to one that extends it if what its clauses refer to is. -/
theorem Selection.extends_follow {s : Selection ρ}
    (h : ∀ c ∈ s.clauses, ∀ r ∈ c.references, FollowsOn d f g r) :
    ∃ t t', s.follow f = .ok t ∧ s.follow g = .ok t' ∧ (Query.mk t).Extends d (.mk t') := by
  have hclause : ∀ c ∈ s.clauses, _ := fun c hc => Clause.extends_follow (h c hc)
  obtain ⟨conditions, conditions', hfollow, hfollow', hconditions⟩ :=
    forall₂_of_mapM fun c hc => hclause c (List.mem_append_left _ hc)
  obtain ⟨related, related', hrelate, hrelate', hrelated⟩ :=
    forall₂_of_mapM fun c hc => hclause c (List.mem_append_right _ hc)
  refine ⟨⟨s.schema, conditions, related, s.order, s.limit, s.offset⟩,
    ⟨s.schema, conditions', related', s.order, s.limit, s.offset⟩, ?_, ?_, rfl, ?_⟩
  · rw [follow, hfollow, hrelate]
    rfl
  · rw [follow, hfollow', hrelate']
    rfl
  · have hfaults := (Clause.extends_faultsAll hconditions).append
      (Clause.extends_faultsAll hrelated)
    rw [Query.faults, Query.gather_mk, Query.gather_mk]
    exact hfaults.imp fun hsame => by rw [hsame.1, hsame.2]

end Follow

/-! ## Where faults come from -/

/-- What can be wrong with a list of rows: they have no key, or lists have no windows. -/
inductive Error.IsOfList : Error → Prop
  | keyless {table} : IsOfList (.noPrimaryKey table none)
  | windowless {dialect} : IsOfList (.unsupported dialect .limitInSubquery)

theorem Clause.isOfList_of_mem_ownFaults {d : Dialect} {c : Clause Query} {e : Error}
    (he : e ∈ c.ownFaults d) : e.IsOfList := by
  cases c with
  | among query column =>
      simp only [ownFaults, Schema.uniqueColumn] at he
      split at he
      · rename_i hcolumn
        split at hcolumn
        · cases hcolumn
        · cases hcolumn
          cases List.mem_singleton.1 he
          exact .keyless
      · split at he
        · cases he
        · cases List.mem_singleton.1 he
          exact .windowless
  | _ => cases he

theorem Clause.mem_faultsAll {d : Dialect} {cs : List (Clause Query)} {e : Error} :
    e ∈ faultsAll d cs ↔ ∃ c ∈ cs, e ∈ c.faults d := by
  induction cs with
  | nil => simp [faultsAll]
  | cons c rest ih =>
      show e ∈ c.faults d ++ faultsAll d rest ↔ _
      rw [List.mem_append, ih]
      simp only [List.mem_cons, exists_eq_or_imp]

theorem Query.mem_faults_mk {d : Dialect} {s : Selection Query} {e : Error} :
    e ∈ (mk s).faults d ↔ ∃ c ∈ s.clauses, e ∈ c.faults d := by
  rw [faults, gather_mk, ← Clause.gatherAll_append]
  exact Clause.mem_faultsAll

section Follow

variable {ρ : Type} {f : ρ → Except Error Query} {d : Dialect} {e : Error}

/-- The clauses of a query are followed one by one. -/
theorem Selection.clauses_of_follow {s : Selection ρ} {t : Selection Query}
    (h : s.follow f = .ok t) : s.clauses.mapM (Clause.follow f) = .ok t.clauses := by
  obtain ⟨conditions, hconditions, h⟩ := exists_of_bind h
  obtain ⟨related, hrelated, h⟩ := exists_of_bind h
  cases h
  rw [clauses, List.mapM_append, hconditions, hrelated]
  rfl

/-- What is wrong with a query is wrong with the clause that refers to it. -/
theorem Clause.mem_faults_of_reference {c : Clause ρ} {c' : Clause Query}
    (h : c.follow f = .ok c') {r : ρ} (hr : r ∈ c.references) {q : Query} (hq : f r = .ok q)
    (he : e ∈ q.faults d) : e ∈ c'.faults d := by
  cases c with
  | related column inner innerColumn negated =>
      cases List.mem_singleton.1 hr
      rw [follow, hq] at h
      cases h
      exact he
  | among query column =>
      cases List.mem_singleton.1 hr
      rw [follow, hq] at h
      cases h
      exact List.mem_append_right _ he
  | _ => cases hr

/-- What is wrong with a clause is wrong with a list of rows or with what it refers to. -/
theorem Clause.exists_of_mem_faults {c : Clause ρ} {c' : Clause Query}
    (h : c.follow f = .ok c') (he : e ∈ c'.faults d) :
    (∃ query column, c = .among query column ∧ e.IsOfList) ∨
      ∃ r ∈ c.references, ∃ q, f r = .ok q ∧ e ∈ q.faults d := by
  cases c with
  | related column inner innerColumn negated =>
      obtain ⟨q, hq, h⟩ := exists_of_bind h
      cases h
      exact .inr ⟨inner, List.mem_cons_self, q, hq, he⟩
  | among query column =>
      obtain ⟨q, hq, h⟩ := exists_of_bind h
      cases h
      rcases List.mem_append.1 he with hown | hinside
      · exact .inl ⟨query, column, rfl, isOfList_of_mem_ownFaults hown⟩
      · exact .inr ⟨query, List.mem_cons_self, q, hq, hinside⟩
  | _ =>
      cases h
      cases he

end Follow

end SqlCompose
