import SqlCompose.Query.Edit

/-!
# Calls on builders as functions of the store

What a call on builders comes to, told without a session: the store that it
leaves, or the error of the first thing that it looks for in vain.  That the
steps of a call in a session come to this is `Edit.outcome_perform`; all that
is said of stores is said of these functions.
-/

namespace SqlCompose

namespace Selection

variable {ρ : Type}

/-- The query with one more condition. -/
def addCondition (s : Selection ρ) (source : ClauseSource ρ) : Except Error (Selection ρ) := do
  let c ← s.schema.resolveClause source
  return s.withCondition c

/--
The query with one more condition on rows of another table, which another
query over that table picks: there has to be such a row with the same value in
the inner column, or there must be none.
-/
def addRelated (s : Selection ρ) (inner : ρ) (innerSchema : Schema)
    (column innerColumn : ColumnSource) (negated : Bool) : Except Error (Selection ρ) := do
  let outer ← s.schema.resolveColumn column
  let other ← innerSchema.resolveColumn innerColumn
  return s.withRelated (.related outer.name inner other.name negated)

/-- The query with one more column to order by. -/
def addOrder (s : Selection ρ) (column : ColumnSource) (direction : Direction) :
    Except Error (Selection ρ) := do
  let c ← s.schema.resolveColumn column
  return s.withOrder ⟨c.name, direction⟩

/-- The query with a limit. -/
def setLimit (s : Selection ρ) (v : Value) : Except Error (Selection ρ) := do
  let n ← boundOf .limit v
  return s.withLimit n

/-- The query with an offset. -/
def setOffset (s : Selection ρ) (v : Value) : Except Error (Selection ρ) := do
  let n ← boundOf .offset v
  return s.withOffset n

end Selection

namespace Store

/-- The store with a query changed. -/
def modifyQuery (st : Store) (r : QueryRef)
    (change : Selection QueryRef → Except Error (Selection QueryRef)) : Except Error Store := do
  let s ← change (← st.query r)
  return st.setQuery r s

/-- The store with one more condition on a query. -/
def addCondition (st : Store) (r : QueryRef) (source : ClauseSource QueryRef) :
    Except Error Store :=
  st.modifyQuery r fun s => s.addCondition source

/-- The store with one more condition on rows of another table, which a query in the store picks. -/
def addRelated (st : Store) (r inner : QueryRef) (column innerColumn : ColumnSource)
    (negated : Bool) : Except Error Store := do
  let other ← st.query inner
  st.modifyQuery r fun s => s.addRelated inner other.schema column innerColumn negated

/--
The same with all rows of a table, for which a query is made.  The query that
the condition is for has been there before.
-/
def addRelatedTable (st : Store) (r : QueryRef) (table : Schema)
    (column innerColumn : ColumnSource) (negated : Bool) : Except Error Store := do
  let _ ← st.query r
  (st.newQuery table).2.addRelated r (st.newQuery table).1 column innerColumn negated

/-- The store with one more column to order a query by. -/
def addOrder (st : Store) (r : QueryRef) (column : ColumnSource) (direction : Direction) :
    Except Error Store :=
  st.modifyQuery r fun s => s.addOrder column direction

/-- The store with a limit on a query. -/
def setLimit (st : Store) (r : QueryRef) (v : Value) : Except Error Store :=
  st.modifyQuery r fun s => s.setLimit v

/-- The store with an offset of a query. -/
def setOffset (st : Store) (r : QueryRef) (v : Value) : Except Error Store :=
  st.modifyQuery r fun s => s.setOffset v

/-- A new update of the rows of a query with its first assignment. -/
def startUpdate (st : Store) (query : QueryRef) (source : AssignmentSource) :
    Except Error (UpdateRef × Store) := do
  let assignment ← source (← st.query query).schema
  return st.newUpdate query [assignment]

/-- The store with one more assignment of an update. -/
def addAssignment (st : Store) (r : UpdateRef) (source : AssignmentSource) :
    Except Error Store := do
  let u ← st.update r
  let assignment ← source (← st.updateSchema u)
  return st.setUpdate r { u with assignments := u.assignments ++ [assignment] }

end Store

namespace Edit

/-- The builder that the call answers with, and the store that it leaves. -/
def apply (st : Store) : Edit → Except Error (Builder × Store)
  | select model => do
    let s ← model.schema
    return (.query (st.newQuery s).1, (st.newQuery s).2)
  | condition r clause => do return (.query r, ← st.addCondition r clause)
  | related r (.query inner) column innerColumn negated => do
    return (.query r, ← st.addRelated r inner column innerColumn negated)
  | related r (.model model) column innerColumn negated => do
    let s ← model.schema
    return (.query r, ← st.addRelatedTable r s column innerColumn negated)
  | order r column direction => do return (.query r, ← st.addOrder r column direction)
  | limit r v => do return (.query r, ← st.setLimit r v)
  | offset r v => do return (.query r, ← st.setOffset r v)
  | update r => .ok (.update (st.newUpdate r []).1, (st.newUpdate r []).2)
  | assign (.query r) form => do
    let made ← st.startUpdate r form.source
    return (.update made.1, made.2)
  | assign (.update r) form => do return (.update r, ← st.addAssignment r form.source)

/-- The builder that is changed, if one is; what makes a builder changes none. -/
def target : Edit → Option Builder
  | select _ | update _ | assign (.query _) _ => none
  | condition r _ | related r .. | order r .. | limit r _ | offset r _ => some (.query r)
  | assign (.update r) _ => some (.update r)

/-- Whether the call is about the order or the window of a query. -/
def isWindow : Edit → Bool
  | order .. | limit .. | offset .. => true
  | _ => false

end Edit

end SqlCompose
