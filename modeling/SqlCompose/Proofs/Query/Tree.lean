import SqlCompose.Dialect
import SqlCompose.Query

/-!
# Queries as trees

A clause with a sub-query holds a query, and a query holds clauses, so the
two types are one tree.  This module supplies the two things that every
fact about whole trees is built from:

* an induction: `Hereditary P R` says what has to be shown of each kind of
  clause and of query, and `Hereditary.clause`, `Hereditary.query` give the
  property for the whole tree;
* a walk: `Query.gather` collects what is found at the clauses of a tree,
  each before what is inside it and the conditions of a query before those
  on other tables.

What a tree binds (`Query.values`), the sub-queries in it
(`Query.subqueries`), its manual fragments (`Query.templates`) and the
reasons for which a dialect cannot write it (`Query.faults`) are all walks
of this kind; they differ in what is taken at one clause.
-/

namespace SqlCompose

/-! ## Induction on trees -/

/--
What has to be shown for `P` to hold of every clause and `R` of every query:
that they hold of a whole where they hold of its parts.
-/
structure Hereditary (P : Clause Query → Prop) (R : Query → Prop) : Prop where
  compare : ∀ column op value negated table, P (.compare column op value negated table)
  assign : ∀ column value table, P (.assign column value table)
  assignNull : ∀ column table, P (.assignNull column table)
  manual : ∀ column template table, P (.manual column template table)
  related : ∀ column inner innerColumn negated, R inner →
    P (.related column inner innerColumn negated)
  among : ∀ query column, R query → P (.among query column)
  selection : ∀ s : Selection Query, (∀ c ∈ s.conditions, P c) → (∀ c ∈ s.related, P c) →
    R (.mk s)
  unwritable : ∀ schema reason, R (.unwritable schema reason)

namespace Hereditary

variable {P : Clause Query → Prop} {R : Query → Prop}

mutual
/-- A hereditary property holds of every clause. -/
theorem clause (h : Hereditary P R) : (c : Clause Query) → P c
  | .compare .. => h.compare ..
  | .assign .. => h.assign ..
  | .assignNull .. => h.assignNull ..
  | .manual .. => h.manual ..
  | .related _ inner _ _ => h.related _ _ _ _ (h.query inner)
  | .among query _ => h.among _ _ (h.query query)

/-- A hereditary property holds of every clause of a list. -/
theorem clauses (h : Hereditary P R) : (cs : List (Clause Query)) → ∀ c ∈ cs, P c
  | [] => fun _ hc => absurd hc List.not_mem_nil
  | c :: rest => List.forall_mem_cons.2 ⟨h.clause c, h.clauses rest⟩

/-- A hereditary property holds of every query. -/
theorem query (h : Hereditary P R) : (q : Query) → R q
  | .unwritable .. => h.unwritable ..
  | .mk ⟨_, conditions, related, _, _, _⟩ =>
    h.selection _ (h.clauses conditions) (h.clauses related)
end

end Hereditary

/-! ## Walks -/

section Gather

variable {α : Type} (own : Clause Query → List α) (halt : Error → List α)

mutual
/-- What is found at a clause and then inside it. -/
@[simp] def Clause.gather : Clause Query → List α
  | .compare column op value negated table => own (.compare column op value negated table)
  | .assign column value table => own (.assign column value table)
  | .assignNull column table => own (.assignNull column table)
  | .manual column template table => own (.manual column template table)
  | .related column inner innerColumn negated =>
    own (.related column inner innerColumn negated) ++ Query.gather inner
  | .among query column => own (.among query column) ++ Query.gather query

/-- What is found at clauses in their order. -/
@[simp] def Clause.gatherAll : List (Clause Query) → List α
  | [] => []
  | c :: rest => Clause.gather c ++ Clause.gatherAll rest

/-- What is found in a query: in its conditions, then in those on other tables. -/
def Query.gather : Query → List α
  | .unwritable _ reason => halt reason
  | .mk ⟨_, conditions, related, _, _, _⟩ =>
    Clause.gatherAll conditions ++ Clause.gatherAll related
end

/-- The walk over a query goes through its conditions and then through those on other tables. -/
theorem Query.gather_mk (s : Selection Query) :
    Query.gather own halt (.mk s) =
      Clause.gatherAll own halt s.conditions ++ Clause.gatherAll own halt s.related := by
  rw [Query.gather.eq_def]

/-- The walk over clauses goes through the ones before and then through the others. -/
theorem Clause.gatherAll_append (cs cs' : List (Clause Query)) :
    Clause.gatherAll own halt (cs ++ cs') =
      Clause.gatherAll own halt cs ++ Clause.gatherAll own halt cs' := by
  induction cs with
  | nil => rfl
  | cons c rest ih => rw [List.cons_append, gatherAll, gatherAll, ih, List.append_assoc]

end Gather

/-! ## What trees are asked for -/

namespace Clause

/-- The values that a clause binds itself: none where it compares with NULL. -/
@[simp] def ownValues : Clause Query → List Value
  | compare _ _ value _ _ => if value.isNull then [] else [value]
  | assign _ value _ => [value]
  | manual _ template _ => template.values
  | _ => []

/-- The query that a clause holds. -/
@[simp] def ownQueries : Clause Query → List Query
  | related _ inner _ _ => [inner]
  | among query _ => [query]
  | _ => []

/-- The manual fragment that a clause is. -/
@[simp] def ownTemplates : Clause Query → List Template
  | manual _ template _ => [template]
  | _ => []

/--
Why a dialect cannot write a clause, whatever is inside it: rows are found
again by the first column of a key, which has to be there, in a list that
may have a limit.
-/
@[simp] def ownFaults (d : Dialect) : Clause Query → List Error
  | among query _ =>
    match query.selection.schema.uniqueColumn with
    | .error e => [e]
    | .ok _ => if d.limitInSubquery then [] else [.unsupported d.name .limitInSubquery]
  | _ => []

/-- The values that a clause binds, in their order. -/
def values : Clause Query → List Value := gather ownValues fun _ => []

/-- The queries inside a clause, each before those inside it. -/
def subqueries : Clause Query → List Query := gather ownQueries fun _ => []

/-- The manual fragments in a clause. -/
def templates : Clause Query → List Template := gather ownTemplates fun _ => []

/-- Why a dialect cannot write a clause, the reason that is met first at the head. -/
def faults (d : Dialect) : Clause Query → List Error := gather (ownFaults d) fun e => [e]

/-- The values that clauses bind, in their order. -/
def valuesAll : List (Clause Query) → List Value := gatherAll ownValues fun _ => []

/-- The queries inside clauses. -/
def subqueriesAll : List (Clause Query) → List Query := gatherAll ownQueries fun _ => []

/-- The manual fragments in clauses. -/
def templatesAll : List (Clause Query) → List Template := gatherAll ownTemplates fun _ => []

/-- Why a dialect cannot write clauses. -/
def faultsAll (d : Dialect) : List (Clause Query) → List Error :=
  gatherAll (ownFaults d) fun e => [e]

theorem valuesAll_cons (c : Clause Query) (rest : List (Clause Query)) :
    valuesAll (c :: rest) = c.values ++ valuesAll rest := rfl

theorem subqueriesAll_cons (c : Clause Query) (rest : List (Clause Query)) :
    subqueriesAll (c :: rest) = c.subqueries ++ subqueriesAll rest := rfl

theorem templatesAll_cons (c : Clause Query) (rest : List (Clause Query)) :
    templatesAll (c :: rest) = c.templates ++ templatesAll rest := rfl

end Clause

namespace Query

/-- The values that a query binds, in the order in which they are written. -/
def values : Query → List Value := gather Clause.ownValues fun _ => []

/-- The queries inside a query. -/
def subqueries : Query → List Query := gather Clause.ownQueries fun _ => []

/-- The manual fragments in a query. -/
def templates : Query → List Template := gather Clause.ownTemplates fun _ => []

/-- Why a dialect cannot write a query, the reason that is met first at the head. -/
def faults (d : Dialect) : Query → List Error := gather (Clause.ownFaults d) fun e => [e]

theorem values_mk (s : Selection Query) :
    (mk s).values = Clause.valuesAll s.conditions ++ Clause.valuesAll s.related :=
  gather_mk _ _ s

theorem subqueries_mk (s : Selection Query) :
    (mk s).subqueries = Clause.subqueriesAll s.conditions ++ Clause.subqueriesAll s.related :=
  gather_mk _ _ s

theorem templates_mk (s : Selection Query) :
    (mk s).templates = Clause.templatesAll s.conditions ++ Clause.templatesAll s.related :=
  gather_mk _ _ s

end Query

end SqlCompose
