import SqlCompose.Proofs.Statement.Clear
import SqlCompose.Proofs.Statement.Placeholder

/-!
# Where conditions are written

Every clause of a tree, however deep it is, is written in one piece
(`Query.exists_infix_of_mem`), behind a qualifier that the library chose
itself.  The conditions of a query stand together behind one `WHERE`, in every
statement that the query is used for (`Request.exists_infix_of_layout`).  What
is gathered from a tree has what is gathered from each clause in it
(`Query.gather_subset`), so a query that is compiled has no faults in any of
them (`Request.faults_of_compile`).
-/

namespace SqlCompose

open Fragment

/-! ## Parts of what is written -/

theorem Fragment.infix_joinWith {f : Fragment} {fs : List Fragment} (h : f ∈ fs)
    (separator : String) : f <:+: joinWith separator fs := by
  induction fs with
  | nil => cases h
  | cons g rest ih =>
      cases rest with
      | nil =>
          rw [List.mem_singleton.1 h]
          simp [joinWith]
      | cons g' rest =>
          rw [joinWith_cons_cons]
          rcases List.mem_cons.1 h with rfl | h
          · exact (List.prefix_append _ _).isInfix
          · exact (ih h).trans ((List.suffix_cons _ _).trans (List.suffix_append _ _)).isInfix

/-- What is a part of a fragment is a part of its text. -/
theorem Fragment.exists_text_of_infix {f g : Fragment} (h : f <:+: g) (d : Dialect) :
    ∃ before after, g.text d = before ++ f.text d ++ after := by
  obtain ⟨before, after, rfl⟩ := h
  exact ⟨text d before, text d after, by rw [text_append, text_append]⟩

theorem infix_existence {f : Fragment} {parts : List Fragment} (h : f ∈ parts) (keyword : String)
    (identifier : List String) (number : Nat) (innerColumn : String) (outer : Fragment) :
    f <:+: existence keyword identifier number innerColumn outer parts := by
  have hjoin := infix_joinWith (List.mem_cons_of_mem
    ((Qualifier.tableAlias number).column innerColumn ++ .word " = " :: outer) h) " AND "
  refine hjoin.trans ⟨.word keyword :: .word " ( SELECT " ::
    (Qualifier.tableAlias number).column innerColumn ++ .word " FROM " :: table identifier ++
      [.word " ", .tableAlias number, .word " WHERE "], [.word " )"], ?_⟩
  simp [existence]

theorem infix_conjunction {f : Fragment} {parts : List Fragment} (h : f ∈ parts) :
    f <:+: behindSpace (conjunction parts) := by
  cases parts with
  | nil => cases h
  | cons g rest =>
      refine (infix_joinWith h " AND ").trans ⟨[.word " ", .word "WHERE ( "], [.word " )"], ?_⟩
      simp [conjunction, behindSpace]

theorem infix_rowsFrom (columns : Fragment) (identifier : List String) (number : Nat)
    (condition ending : Option Fragment) :
    behindSpace condition <:+: rowsFrom columns identifier number condition ending := by
  refine ⟨.word "SELECT " :: columns ++ .word " FROM " :: table identifier ++
    [.word " ", .tableAlias number], behindSpace ending, ?_⟩
  rw [rowsFrom, spaced_some_cons]
  simp

theorem infix_membership (column rows : Fragment) : rows <:+: membership column rows :=
  ⟨column ++ [.word " IN ( "], [.word " )"], by simp [membership]⟩

/-! ## Clauses of a tree -/

/-- A clause and the clauses inside it. -/
def Clause.clauses : Clause Query → List (Clause Query) := gather (fun c => [c]) fun _ => []

/-- Clauses and the clauses inside them. -/
def Clause.clausesAll : List (Clause Query) → List (Clause Query) :=
  gatherAll (fun c => [c]) fun _ => []

/-- The clauses in a query, each before those inside it. -/
def Query.clauses : Query → List (Clause Query) := gather (fun c => [c]) fun _ => []

theorem Clause.clausesAll_cons (c : Clause Query) (rest : List (Clause Query)) :
    clausesAll (c :: rest) = c.clauses ++ clausesAll rest := rfl

theorem Query.clauses_mk (s : Selection Query) :
    (mk s).clauses = Clause.clausesAll s.conditions ++ Clause.clausesAll s.related :=
  gather_mk _ _ s

section Gather

variable {α : Type} (own : Clause Query → List α) (halt : Error → List α)

private def Clause.IsGathering (c : Clause Query) : Prop :=
  ∀ c' ∈ c.clauses, c'.gather own halt ⊆ c.gather own halt

private def Query.IsGathering (query : Query) : Prop :=
  ∀ c' ∈ query.clauses, c'.gather own halt ⊆ query.gather own halt

private theorem gather_subset_of_forall {cs : List (Clause Query)}
    (h : ∀ c ∈ cs, c.IsGathering own halt) :
    ∀ c' ∈ Clause.clausesAll cs, c'.gather own halt ⊆ Clause.gatherAll own halt cs := by
  induction cs with
  | nil => exact fun c' hc' => absurd hc' List.not_mem_nil
  | cons c rest ih =>
      intro c' hc'
      rw [Clause.clausesAll_cons, List.mem_append] at hc'
      rw [Clause.gatherAll]
      rcases hc' with hc' | hc'
      · exact List.subset_append_of_subset_left _ (h c List.mem_cons_self c' hc')
      · exact List.subset_append_of_subset_right _
          (ih (fun c'' h' => h c'' (List.mem_cons_of_mem _ h')) c' hc')

private theorem isGathering_of_leaf {c : Clause Query} (h : c.clauses = [c]) :
    c.IsGathering own halt := by
  intro c' hc'
  rw [h, List.mem_singleton] at hc'
  rw [hc']
  exact List.Subset.refl _

private theorem isGathering_hereditary :
    Hereditary (Clause.IsGathering own halt) (Query.IsGathering own halt) where
  compare column op value negated table := isGathering_of_leaf own halt rfl
  assign column value table := isGathering_of_leaf own halt rfl
  assignNull column table := isGathering_of_leaf own halt rfl
  manual column template table := isGathering_of_leaf own halt rfl
  related column inner innerColumn negated ih c' hc' := by
    rcases List.mem_cons.1 hc' with rfl | hc'
    · exact List.Subset.refl _
    · exact List.subset_append_of_subset_right _ (ih c' hc')
  among query column ih c' hc' := by
    rcases List.mem_cons.1 hc' with rfl | hc'
    · exact List.Subset.refl _
    · exact List.subset_append_of_subset_right _ (ih c' hc')
  selection s hconditions hrelated c' hc' := by
    rw [Query.clauses_mk, List.mem_append] at hc'
    rw [Query.gather_mk]
    rcases hc' with hc' | hc'
    · exact List.subset_append_of_subset_left _
        (gather_subset_of_forall own halt hconditions c' hc')
    · exact List.subset_append_of_subset_right _
        (gather_subset_of_forall own halt hrelated c' hc')
  unwritable schema reason c' hc' := by
    rw [Query.clauses, Query.gather] at hc'
    cases hc'

/-- What is found in a clause of a query is found in the query. -/
theorem Query.gather_subset {query : Query} {c : Clause Query} (h : c ∈ query.clauses) :
    c.gather own halt ⊆ query.gather own halt :=
  (isGathering_hereditary own halt).query query c h

end Gather

/-- A query without a fault has none in its sub-queries. -/
theorem Query.faults_of_mem {query inner : Query} {d : Dialect} (h : query.faults d = [])
    {column innerColumn : String} {negated : Bool}
    (hmem : .related column inner innerColumn negated ∈ query.clauses) : inner.faults d = [] := by
  have hsubset := query.gather_subset (Clause.ownFaults d) (fun e => [e]) hmem
  have hnil : query.gather (Clause.ownFaults d) (fun e => [e]) = [] := h
  rw [hnil] at hsubset
  exact List.subset_nil.1 hsubset

variable {b : BuiltIn}

/-- Whether a clause is written somewhere in a fragment. -/
def Clause.IsWrittenIn (b : BuiltIn) (c : Clause Query) (f : Fragment) : Prop :=
  ∃ q issued aliases, q.isOwn = true ∧ c.layout (.ofBuiltIn b) q issued aliases <:+: f

theorem Clause.IsWrittenIn.of_infix {c : Clause Query} {f g : Fragment}
    (h : c.IsWrittenIn b f) (hfg : f <:+: g) : c.IsWrittenIn b g := by
  obtain ⟨q, issued, aliases, hq, hf⟩ := h
  exact ⟨q, issued, aliases, hq, hf.trans hfg⟩

private def Clause.IsCovering (b : BuiltIn) (c : Clause Query) : Prop :=
  ∀ q : Qualifier, q.isOwn = true → ∀ issued aliases, ∀ c' ∈ c.clauses,
    c'.IsWrittenIn b (c.layout (.ofBuiltIn b) q issued aliases)

private def Query.IsCovering (b : BuiltIn) (query : Query) : Prop :=
  ∀ q : Qualifier, q.isOwn = true → ∀ issued aliases, ∀ c' ∈ query.clauses,
    ∃ f ∈ query.layoutParts (.ofBuiltIn b) q issued aliases, c'.IsWrittenIn b f

private theorem isCovering_of_leaf {c : Clause Query} (h : c.clauses = [c]) : c.IsCovering b := by
  intro q hq issued aliases c' hc'
  rw [h, List.mem_singleton] at hc'
  subst hc'
  exact ⟨q, issued, aliases, hq, List.infix_refl _⟩

private theorem exists_written_of_forall {cs : List (Clause Query)}
    (hcs : ∀ c ∈ cs, c.IsCovering b) {q : Qualifier} (hq : q.isOwn = true) (issued aliases : Nat) :
    ∀ c' ∈ Clause.clausesAll cs,
      ∃ f ∈ Clause.layoutAll (.ofBuiltIn b) q issued aliases cs, c'.IsWrittenIn b f := by
  induction cs generalizing issued aliases with
  | nil => exact fun c' hc' => absurd hc' List.not_mem_nil
  | cons c rest ih =>
      intro c' hc'
      rw [Clause.clausesAll_cons, List.mem_append] at hc'
      rw [Clause.layoutAll_cons]
      rcases hc' with hc' | hc'
      · exact ⟨_, List.mem_cons_self, hcs c List.mem_cons_self q hq issued aliases c' hc'⟩
      · obtain ⟨f, hf, hwritten⟩ := ih (fun c'' h => hcs c'' (List.mem_cons_of_mem _ h))
          (issued + c.values.length) (aliases + c.subqueries.length) c' hc'
        exact ⟨f, List.mem_cons_of_mem _ hf, hwritten⟩

private theorem isCovering_hereditary (b : BuiltIn) :
    Hereditary (Clause.IsCovering b) (Query.IsCovering b) where
  compare column op value negated table := isCovering_of_leaf rfl
  assign column value table := isCovering_of_leaf rfl
  assignNull column table := isCovering_of_leaf rfl
  manual column template table := isCovering_of_leaf rfl
  related column inner innerColumn negated ih q hq issued aliases c' hc' := by
    rcases List.mem_cons.1 hc' with rfl | hc'
    · exact ⟨q, issued, aliases, hq, List.infix_refl _⟩
    · obtain ⟨f, hf, hwritten⟩ := ih (.tableAlias (aliases + 1)) rfl issued (aliases + 1) c' hc'
      exact hwritten.of_infix (infix_existence hf _ _ _ _ _)
  among query column ih q hq issued aliases c' hc' := by
    rcases List.mem_cons.1 hc' with rfl | hc'
    · exact ⟨q, issued, aliases, hq, List.infix_refl _⟩
    · obtain ⟨f, hf, hwritten⟩ := ih (.tableAlias (aliases + 1)) rfl issued (aliases + 1) c' hc'
      exact hwritten.of_infix ((infix_conjunction hf).trans
        ((infix_rowsFrom _ _ _ _ _).trans (infix_membership _ _)))
  selection s hconditions hrelated q hq issued aliases c' hc' := by
    rw [Query.clauses_mk, List.mem_append] at hc'
    rw [Query.layoutParts_mk]
    rcases hc' with hc' | hc'
    · obtain ⟨f, hf, hwritten⟩ := exists_written_of_forall hconditions hq issued aliases c' hc'
      exact ⟨f, List.mem_append_left _ hf, hwritten⟩
    · obtain ⟨f, hf, hwritten⟩ := exists_written_of_forall hrelated hq _ _ c' hc'
      exact ⟨f, List.mem_append_right _ hf, hwritten⟩
  unwritable schema reason q hq issued aliases c' hc' := by
    rw [Query.clauses, Query.gather] at hc'
    cases hc'

/-- Every clause in a query is written in one of its conditions. -/
theorem Query.exists_infix_of_mem {query : Query} {c : Clause Query} (h : c ∈ query.clauses)
    {q : Qualifier} (hq : q.isOwn = true) (issued aliases : Nat) :
    ∃ f ∈ query.layoutParts (.ofBuiltIn b) q issued aliases, c.IsWrittenIn b f :=
  (isCovering_hereditary b).query query q hq issued aliases c h

/-- There is a condition for every clause of a query. -/
theorem Query.length_layoutParts (query : Query) (q : Qualifier) (issued aliases : Nat) :
    (query.layoutParts (.ofBuiltIn b) q issued aliases).length =
      query.selection.conditions.length + query.selection.related.length := by
  have hall : ∀ (cs : List (Clause Query)) (issued aliases : Nat),
      (Clause.layoutAll (.ofBuiltIn b) q issued aliases cs).length = cs.length := by
    intro cs
    induction cs with
    | nil => intro issued aliases; simp [Clause.layoutAll]
    | cons c rest ih => intro issued aliases; rw [Clause.layoutAll_cons, List.length_cons, ih]; rfl
  cases query with
  | mk s => rw [Query.layoutParts_mk, List.length_append, hall, hall, Query.selection]
  | unwritable schema reason => simp [Query.layoutParts, Query.selection]

/-! ## Statements on queries -/

theorem Selection.infix_rowsLayout (d : Dialect) (s : Selection Query) (columns : Fragment)
    (order : List OrderItem) (issued aliases : Nat) :
    behindSpace (conjunction
      (Query.layoutParts d (.tableAlias (aliases + 1)) issued (aliases + 1) (.mk s))) <:+:
        s.rowsLayout d columns order issued aliases :=
  infix_rowsFrom _ _ _ _ _

/-- A query that a statement was compiled on has no fault. -/
theorem Request.faults_of_compile {request : Request} {s : Selection Query}
    (hs : request.query? = some s) {settings : Except Error Settings} {d : Dialect}
    {statement : Statement} {events : List Event}
    (h : request.compile settings d = .ok (some (statement, events))) :
    (Query.mk s).faults d = [] := by
  obtain ⟨w, hw, hcompile⟩ := exists_blueprint_of_compile h
  cases request with
  | fetch s' =>
      cases hs
      cases hw
      exact (Blueprint.eq_of_compile_spec hcompile (s.spec_fetch d)).1
  | count s' =>
      cases hs
      cases hw
      exact (List.append_eq_nil_iff.1 (Blueprint.eq_of_compile_spec hcompile (s.spec_count d)).1).2
  | update u =>
      cases hs
      obtain rfl := eq_write_of_blueprint hw
      have hfaults := (Blueprint.eq_of_compile_spec hcompile (u.spec_write d)).1
      have hcondition := (List.append_eq_nil_iff.1 hfaults).2
      split at hcondition
      · exact (List.append_eq_nil_iff.1 hcondition).2
      · exact hcondition
  | updateRow r s' => cases hs
  | deleteRow r s' => cases hs
  | insertRow r s' => cases hs

/-- The conditions of a query stand together in each statement on it. -/
theorem Request.exists_infix_of_layout {request : Request} {s : Selection Query}
    (hs : request.query? = some s) {d : Dialect} {f : Fragment} (hf : request.layout d = .ok f) :
    ∃ q issued aliases, q.isOwn = true ∧
      behindSpace (conjunction (Query.layoutParts d q issued aliases (.mk s))) <:+: f := by
  cases request with
  | fetch s' =>
      cases hs
      cases hf
      exact ⟨.tableAlias 1, 0, 1, rfl, s.infix_rowsLayout d _ _ 0 0⟩
  | count s' =>
      cases hs
      cases hf
      refine ⟨.tableAlias 1, 0, 1, rfl, ?_⟩
      rw [Selection.countLayout]
      split
      · have hlist : s.listLayout d 0 0 <:+: .word "SELECT " :: .word Selection.countWords ::
            .word " FROM ( " :: s.listLayout d 0 0 ++
              [.word " ) ", .tableAlias (0 + (Query.mk s).subqueries.length + 2)] :=
          ⟨[.word "SELECT ", .word Selection.countWords, .word " FROM ( "],
            [.word " ) ", .tableAlias (0 + (Query.mk s).subqueries.length + 2)], by simp⟩
        exact (s.infix_rowsLayout d _ s.order 0 0).trans hlist
      · exact s.infix_rowsLayout d _ _ 0 0
  | update u =>
      cases hs
      cases hf
      rw [Update.layout, spaced_some_cons, List.flatMap_cons, List.flatMap_nil, List.append_nil,
        Update.conditionLayout]
      split
      · have hmember := infix_conjunction (List.mem_singleton.2 rfl : u.member.layout d
          (.table u.query.schema.identifier) (0 + (Clause.valuesAll u.assignments).length)
          (0 + (Clause.subqueriesAll u.assignments).length) ∈ [_])
        rw [Update.member, Clause.layout] at hmember
        exact ⟨_, _, _, rfl, (infix_rowsFrom _ _ _ _ _).trans ((infix_membership _ _).trans
          (hmember.trans (List.suffix_append _ _).isInfix))⟩
      · exact ⟨_, _, _, rfl, (List.suffix_append _ _).isInfix⟩
  | updateRow r s' => cases hs
  | deleteRow r s' => cases hs
  | insertRow r s' => cases hs

end SqlCompose
