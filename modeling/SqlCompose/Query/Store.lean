import SqlCompose.Query.Builder

/-!
# Stores of builders

Queries and updates that are still being built are kept in a store and referred to by number. A
condition on another query, and an update, hold such a reference, so that what is added to a query
later counts wherever it is referred to.

When a statement is compiled the references are followed (`Store.settle`). A reference to a query
that is being settled already is not followed once more, so that no more references than there are
queries are followed one inside another. An update in the place of a query is known by its table and
cannot be written there.
-/

namespace SqlCompose

/-- A reference to a query in a store, or to an update of its rows in the place of a query. -/
structure QueryRef where
  index : Nat
  isUpdate : Bool := false
  deriving DecidableEq, Repr

/-- A reference to an update in a store. -/
structure UpdateRef where
  index : Nat
  deriving DecidableEq, Repr

/-- An update that is being built: whose rows it changes, and how. -/
structure UpdateDraft where
  query : QueryRef
  assignments : List (Clause QueryRef) := []

/-- What messages call an update that is being built. -/
def UpdateDraft.typeName : String := "UpdateBuilder"

/-- The error of an update that is asked for a part that only queries have. -/
def UpdateDraft.lacks (part : String) : Error := .missingAttribute (.object typeName) part

/-- The queries and the updates that are being built. -/
structure Store where
  queries : Array (Selection QueryRef) := #[]
  updates : Array UpdateDraft := #[]

namespace Clause

/-- The clause with its reference followed. -/
def follow {ρ σ : Type} (f : ρ → Except Error σ) : Clause ρ → Except Error (Clause σ)
  | compare column op value negated table => .ok (.compare column op value negated table)
  | assign column value table => .ok (.assign column value table)
  | assignNull column table => .ok (.assignNull column table)
  | manual column template table => .ok (.manual column template table)
  | related column inner innerColumn negated => do
    return .related column (← f inner) innerColumn negated
  | among query column => do return .among (← f query) column

end Clause

namespace Selection

/-- The query with its references followed. -/
def follow {ρ σ : Type} (f : ρ → Except Error σ) (s : Selection ρ) :
    Except Error (Selection σ) := do
  let conditions ← s.conditions.mapM (Clause.follow f)
  let related ← s.related.mapM (Clause.follow f)
  return ⟨s.schema, conditions, related, s.order, s.limit, s.offset⟩

end Selection

namespace Store

/-- The query that a reference leads to. -/
def query (st : Store) (r : QueryRef) : Except Error (Selection QueryRef) :=
  match st.queries[r.index]? with
  | some s => .ok s
  | none => .error .unknownBuilder

/-- The update that a reference leads to. -/
def update (st : Store) (r : UpdateRef) : Except Error UpdateDraft :=
  match st.updates[r.index]? with
  | some u => .ok u
  | none => .error .unknownBuilder

/-- The reference to an update in the place of a query. -/
def queryOfUpdate (st : Store) (r : UpdateRef) : Except Error QueryRef := do
  return { (← st.update r).query with isUpdate := true }

/-- The schema of the table that an update is for. -/
def updateSchema (st : Store) (u : UpdateDraft) : Except Error Schema := do
  return (← st.query u.query).schema

/-! ## Building -/

/-- A new query over all rows of a table. -/
def newQuery (st : Store) (s : Schema) : QueryRef × Store :=
  ({ index := st.queries.size }, { st with queries := st.queries.push (.ofSchema s) })

/-- The store with a query in the place of the one that a reference leads to. -/
def setQuery (st : Store) (r : QueryRef) (s : Selection QueryRef) : Store :=
  { st with queries := st.queries.setIfInBounds r.index s }

@[simp] theorem queries_setQuery (st : Store) (r : QueryRef) (s : Selection QueryRef) :
    (st.setQuery r s).queries = st.queries.setIfInBounds r.index s := rfl

@[simp] theorem updates_setQuery (st : Store) (r : QueryRef) (s : Selection QueryRef) :
    (st.setQuery r s).updates = st.updates := rfl

/-- A new update of the rows of a query, with the given assignments. -/
def newUpdate (st : Store) (query : QueryRef) (assignments : List (Clause QueryRef)) :
    UpdateRef × Store :=
  (⟨st.updates.size⟩, { st with updates := st.updates.push ⟨query, assignments⟩ })

/-- The store with an update in the place of the one that a reference leads to. -/
def setUpdate (st : Store) (r : UpdateRef) (u : UpdateDraft) : Store :=
  { st with updates := st.updates.setIfInBounds r.index u }

@[simp] theorem queries_setUpdate (st : Store) (r : UpdateRef) (u : UpdateDraft) :
    (st.setUpdate r u).queries = st.queries := rfl

@[simp] theorem updates_setUpdate (st : Store) (r : UpdateRef) (u : UpdateDraft) :
    (st.setUpdate r u).updates = st.updates.setIfInBounds r.index u := rfl

/-! ## Settling -/

/--
The query that a reference leads to, inside the queries of `path`, with references followed at most
`depth` deep.
-/
def settleWithin (st : Store) :
    (depth : Nat) → (path : List QueryRef) → QueryRef → Except Error Query
  | 0, _, r => do return .unwritable (← st.query r).schema .endlessNesting
  | depth + 1, path, r => do
    let s ← st.query r
    if r.isUpdate then return .unwritable s.schema (UpdateDraft.lacks "wheres")
    if path.contains r then return .unwritable s.schema .endlessNesting
    return .mk (← s.follow (st.settleWithin depth (r :: path)))

/-- The query that a reference leads to, with all references followed. -/
def settle (st : Store) (r : QueryRef) : Except Error Query :=
  st.settleWithin (st.queries.size + 1) [] r

/-- A clause with all references followed. -/
def settleClause (st : Store) (c : Clause QueryRef) : Except Error (Clause Query) :=
  c.follow st.settle

/-- An update with all references followed. -/
def settleUpdate (st : Store) (r : UpdateRef) : Except Error Update := do
  let u ← st.update r
  let query ← st.settle u.query
  let assignments ← u.assignments.mapM st.settleClause
  return ⟨query.selection, assignments⟩

end Store

end SqlCompose
