import SqlCompose.Query.Edit
import SqlCompose.Session

/-!
# Calls on builders in a session

What a call on builders does, one step after another: it looks up the builders that it is about,
finds what it is to add, and puts it there. A builder is made or changed by one of the last steps
of a call, none of which can fail.
-/

namespace SqlCompose

namespace Action

/-- Looks up a query. -/
def queryAt (r : QueryRef) : Action (Selection QueryRef) := do
  ofExcept ((← get).store.query r)

/-- Looks up an update. -/
def updateAt (r : UpdateRef) : Action UpdateDraft := do
  ofExcept ((← get).store.update r)

/-- Makes a query over all rows of a table. -/
def makeQuery (s : Schema) : Action QueryRef := do
  let session ← get
  let (r, store) := session.store.newQuery s
  set { session with store }
  return r

/-- Puts a query in the place of the one that a reference leads to. -/
def putQuery (r : QueryRef) (s : Selection QueryRef) : Action Unit :=
  modify fun session => { session with store := session.store.setQuery r s }

/-- Makes an update of the rows of a query. -/
def makeUpdate (query : QueryRef) (assignments : List (Clause QueryRef)) : Action UpdateRef := do
  let session ← get
  let (r, store) := session.store.newUpdate query assignments
  set { session with store }
  return r

/-- Puts an update in the place of the one that a reference leads to. -/
def putUpdate (r : UpdateRef) (u : UpdateDraft) : Action Unit :=
  modify fun session => { session with store := session.store.setUpdate r u }

end Action

open SqlCompose.Action

/-- Serves a call on builders, and answers with the builder to go on with. -/
def Edit.perform : Edit → Action Builder
  | select model => do
    let s ← Action.ofExcept model.schema
    return .query (← makeQuery s)
  | condition r clause => do
    let s ← queryAt r
    let c ← Action.ofExcept (s.schema.resolveClause clause)
    putQuery r (s.withCondition c)
    return .query r
  | related r (.query inner) column innerColumn negated => do
    let other ← queryAt inner
    let s ← queryAt r
    let outer ← Action.ofExcept (s.schema.resolveColumn column)
    let far ← Action.ofExcept (other.schema.resolveColumn innerColumn)
    putQuery r (s.withRelated (.related outer.name inner far.name negated))
    return .query r
  | related r (.model model) column innerColumn negated => do
    let table ← Action.ofExcept model.schema
    let s ← queryAt r
    let outer ← Action.ofExcept (s.schema.resolveColumn column)
    let far ← Action.ofExcept (table.resolveColumn innerColumn)
    -- Only now is there a need for a query over that table; nothing else will refer to it.
    let inner ← makeQuery table
    putQuery r (s.withRelated (.related outer.name inner far.name negated))
    return .query r
  | order r column direction => do
    let s ← queryAt r
    let c ← Action.ofExcept (s.schema.resolveColumn column)
    putQuery r (s.withOrder ⟨c.name, direction⟩)
    return .query r
  | limit r v => do
    let s ← queryAt r
    let n ← Action.ofExcept (Selection.boundOf .limit v)
    putQuery r (s.withLimit n)
    return .query r
  | offset r v => do
    let s ← queryAt r
    let n ← Action.ofExcept (Selection.boundOf .offset v)
    putQuery r (s.withOffset n)
    return .query r
  | update r => return .update (← makeUpdate r [])
  | assign (.query r) form => do
    let s ← queryAt r
    let c ← Action.ofExcept (form.source s.schema)
    return .update (← makeUpdate r [c])
  | assign (.update r) form => do
    let u ← updateAt r
    let s ← queryAt u.query
    let c ← Action.ofExcept (form.source s.schema)
    putUpdate r { u with assignments := u.assignments ++ [c] }
    return .update r

end SqlCompose
