import SqlCompose.Proofs.Query.Tree
import SqlCompose.Proofs.Statement.Writing
import SqlCompose.Statement.Condition

/-!
# Layouts of conditions

The answer of writing a clause is its layout (`Clause.layout`): a plain
recursion over the tree in which the numbers for each part are counted from
the parts before it, so that no draft has to be followed.  Everything that is
proved about the text of conditions is proved about layouts.

## Main results

* `Clause.spec_write`, `Clause.spec_writeAll`, `Query.spec_writeParts` — the
  monadic writer of a tree answers with the layout of the tree, binds the
  values of the tree in its order, takes one alias for each sub-query, and
  fails exactly where the tree has a fault, with the first one.
-/

namespace SqlCompose

/-- The name of the first column of the key; there is none without a key. -/
def Schema.firstKey (s : Schema) : String := (s.keyColumns.head?.map Column.name).getD ""

theorem Schema.firstKey_of_uniqueColumn {s : Schema} {c : Column}
    (h : s.uniqueColumn = .ok c) : s.firstKey = c.name := by
  unfold uniqueColumn at h
  unfold firstKey
  split at h
  · rename_i hk
    cases h
    simp [hk]
  · cases h

mutual
/--
What a clause is written as where the given numbers of placeholders and of
aliases were given out before it.
-/
def Clause.layout (d : Dialect) (q : Qualifier) (issued aliases : Nat) :
    Clause Query → Fragment
  | .compare column op value negated _ =>
    if value.isNull then
      q.column column ++ [.word (if negated then " IS NOT NULL" else " IS NULL")]
    else
      q.column column ++
        [.word " ", .word (d.operator op.symbol), .word " ", .mark (issued + 1)]
  | .assign column _ _ => q.column column ++ [.word "=", .mark (issued + 1)]
  | .assignNull column _ => q.column column ++ [.word "=NULL"]
  | .manual column template _ =>
    q.column column ++ Template.weave template.literals
      ((List.range' (issued + 1) template.values.length).map .mark)
  | .related column inner innerColumn negated =>
    existence (if negated then "NOT EXISTS" else "EXISTS") inner.selection.schema.identifier
      (aliases + 1) innerColumn (q.column column)
      (Query.layoutParts d (.tableAlias (aliases + 1)) issued (aliases + 1) inner)
  | .among query _ =>
    let inner := Qualifier.tableAlias (aliases + 1)
    let key := query.selection.schema.firstKey
    membership (q.column key)
      (rowsFrom (inner.column key) query.selection.schema.identifier (aliases + 1)
        (conjunction (Query.layoutParts d inner issued (aliases + 1) query))
        (query.selection.tail d inner))

/-- What clauses are written as, one after the other, without those that come out empty. -/
def Clause.layoutAll (d : Dialect) (q : Qualifier) (issued aliases : Nat) :
    List (Clause Query) → List Fragment
  | [] => []
  | c :: rest =>
    let f := Clause.layout d q issued aliases c
    let fs := Clause.layoutAll d q (issued + c.values.length) (aliases + c.subqueries.length) rest
    if f.isBlank d then fs else f :: fs

/-- What the conditions of a query are written as. -/
def Query.layoutParts (d : Dialect) (q : Qualifier) (issued aliases : Nat) :
    Query → List Fragment
  | .unwritable .. => []
  | .mk ⟨_, conditions, related, _, _, _⟩ =>
    Clause.layoutAll d q issued aliases conditions ++
      Clause.layoutAll d q (issued + (Clause.valuesAll conditions).length)
        (aliases + (Clause.subqueriesAll conditions).length) related
end

/-- The conditions of a query are laid out in order, those on other tables last. -/
theorem Query.layoutParts_mk (d : Dialect) (q : Qualifier) (issued aliases : Nat)
    (s : Selection Query) :
    Query.layoutParts d q issued aliases (.mk s) =
      Clause.layoutAll d q issued aliases s.conditions ++
        Clause.layoutAll d q (issued + (Clause.valuesAll s.conditions).length)
          (aliases + (Clause.subqueriesAll s.conditions).length) s.related := by
  rw [Query.layoutParts.eq_def]

/-! ## The writer of a tree -/

/-- That a clause is written as its layout. -/
private def Clause.IsWritten (d : Dialect) (c : Clause Query) : Prop :=
  ∀ q, Writing.Spec (Clause.write d q c) (c.faults d) c.values c.subqueries.length
    fun issued aliases => c.layout d q issued aliases

/-- That the conditions of a query are written as its layout. -/
private def Query.IsWritten (d : Dialect) (query : Query) : Prop :=
  ∀ q, Writing.Spec (Query.writeParts d q query) (query.faults d) query.values
    query.subqueries.length fun issued aliases => query.layoutParts d q issued aliases

private theorem spec_writeAll_of_forall {d : Dialect} {cs : List (Clause Query)}
    (h : ∀ c ∈ cs, c.IsWritten d) (q : Qualifier) :
    Writing.Spec (Clause.writeAll d q cs) (Clause.faultsAll d cs) (Clause.valuesAll cs)
      (Clause.subqueriesAll cs).length
      fun issued aliases => Clause.layoutAll d q issued aliases cs := by
  induction cs with
  | nil =>
      rw [Clause.writeAll]
      exact Writing.spec_pure _
  | cons c rest ih =>
      have hrest := ih fun c' hc' => h c' (List.mem_cons_of_mem _ hc')
      have hboth := (h c List.mem_cons_self q).andThen fun f =>
        hrest.andThen fun fs => Writing.spec_pure (if f.isBlank d then fs else f :: fs)
      rw [Clause.writeAll]
      simpa [Clause.faultsAll, Clause.valuesAll, Clause.subqueriesAll, Clause.gatherAll,
        Clause.layoutAll, Clause.faults, Clause.values, Clause.subqueries] using hboth

private theorem isWritten_hereditary (d : Dialect) :
    Hereditary (Clause.IsWritten d) (Query.IsWritten d) where
  compare column op value negated table q := by
    rw [Clause.write]
    by_cases hnull : value.isNull
    · have h := Writing.spec_pure
        (q.column column ++ [.word (if negated then " IS NOT NULL" else " IS NULL")])
      simpa [Clause.faults, Clause.values, Clause.subqueries, Clause.layout, hnull] using h
    · have h := (Writing.spec_bind value).andThen fun mark => Writing.spec_pure
        (q.column column ++ [.word " ", .word (d.operator op.symbol), .word " ", mark])
      simpa [Clause.faults, Clause.values, Clause.subqueries, Clause.layout, hnull] using h
  assign column value table q := by
    have h := (Writing.spec_bind value).andThen fun mark => Writing.spec_pure
      (q.column column ++ [.word "=", mark])
    rw [Clause.write]
    simpa [Clause.faults, Clause.values, Clause.subqueries, Clause.layout] using h
  assignNull column table q := by
    rw [Clause.write]
    simpa [Clause.faults, Clause.values, Clause.subqueries, Clause.layout] using
      Writing.spec_pure (q.column column ++ [.word "=NULL"])
  manual column template table q := by
    have h := (Writing.spec_bindAll template.values).andThen fun marks => Writing.spec_pure
      (q.column column ++ Template.weave template.literals marks)
    rw [Clause.write]
    simpa [Clause.faults, Clause.values, Clause.subqueries, Clause.layout] using h
  related column inner innerColumn negated ih q := by
    have h := Writing.spec_nextAlias.andThen fun number =>
      (ih (.tableAlias number)).andThen fun parts => Writing.spec_pure
        (existence (if negated then "NOT EXISTS" else "EXISTS") inner.selection.schema.identifier
          number innerColumn (q.column column) parts)
    rw [Clause.write]
    simpa [Clause.faults, Clause.values, Clause.subqueries, Clause.layout, Query.faults,
      Query.values, Query.subqueries, Nat.add_comm] using h
  among query column ih q := by
    rw [Clause.write]
    cases hkey : query.selection.schema.uniqueColumn with
    -- The key is looked up first: without one, no fault in the conditions is met.
    | error e =>
        simpa [Clause.faults, Query.faults, hkey] using
          (Writing.spec_throw e fun _ _ => ([] : Fragment)).of_fault (query.faults d) _ _ _
    | ok key =>
        by_cases hlimit : d.limitInSubquery
        · have h := Writing.spec_nextAlias.andThen fun number =>
            (ih (.tableAlias number)).andThen fun parts => Writing.spec_pure
              (membership (q.column key.name)
                (rowsFrom ((Qualifier.tableAlias number).column key.name)
                  query.selection.schema.identifier number (conjunction parts)
                  (query.selection.tail d (.tableAlias number))))
          simpa [Clause.faults, Clause.values, Clause.subqueries, Clause.layout, Query.faults,
            Query.values, Query.subqueries, Nat.add_comm, hkey, hlimit,
            Schema.firstKey_of_uniqueColumn hkey] using h
        · have h := Writing.spec_throw (.unsupported d.name .limitInSubquery)
            fun _ _ => ([] : Fragment)
          simpa [Clause.faults, Query.faults, hkey, hlimit] using
            h.of_fault (query.faults d) _ _ _
  selection s conditions related q := by
    have h := (spec_writeAll_of_forall conditions q).andThen fun own =>
      (spec_writeAll_of_forall related q).andThen fun others =>
        Writing.spec_pure (own ++ others)
    rw [Query.writeParts.eq_def]
    simpa [Query.faults, Query.values, Query.subqueries, Query.gather_mk,
      Query.layoutParts_mk, Clause.faultsAll, Clause.valuesAll, Clause.subqueriesAll] using h
  unwritable schema reason q := by
    rw [Query.writeParts]
    exact Writing.spec_throw reason _

/-- A clause is written as its layout, with the values and the faults of its tree. -/
theorem Clause.spec_write (d : Dialect) (q : Qualifier) (c : Clause Query) :
    Writing.Spec (Clause.write d q c) (c.faults d) c.values c.subqueries.length
      fun issued aliases => c.layout d q issued aliases :=
  (isWritten_hereditary d).clause c q

/-- Clauses are written as their layouts, one after the other. -/
theorem Clause.spec_writeAll (d : Dialect) (q : Qualifier) (cs : List (Clause Query)) :
    Writing.Spec (Clause.writeAll d q cs) (Clause.faultsAll d cs) (Clause.valuesAll cs)
      (Clause.subqueriesAll cs).length
      fun issued aliases => Clause.layoutAll d q issued aliases cs :=
  spec_writeAll_of_forall (fun c _ => (isWritten_hereditary d).clause c) q

/-- The conditions of a query are written as their layouts. -/
theorem Query.spec_writeParts (d : Dialect) (q : Qualifier) (query : Query) :
    Writing.Spec (Query.writeParts d q query) (query.faults d) query.values
      query.subqueries.length fun issued aliases => query.layoutParts d q issued aliases :=
  (isWritten_hereditary d).query query q

end SqlCompose
