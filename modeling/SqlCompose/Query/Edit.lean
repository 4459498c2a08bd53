import SqlCompose.Query.Store

/-!
# Calls on builders

An `Edit` is one call on the builders in a store, with everything that the caller gives to it: a
builder is made, a query grows by one condition or one order, gets a bound, or an update of its rows
grows by one assignment. What such a call does in a session is `Edit.perform`.
-/

namespace SqlCompose

/-- A builder in a store. -/
inductive Builder where
  | query (r : QueryRef)
  | update (r : UpdateRef)
  deriving DecidableEq

/-- Where the rows of another table come from. -/
inductive RowSource where
  /-- A query in the store. -/
  | query (r : QueryRef)
  /-- All rows of the table of a model. -/
  | model (m : Model)

/-- How an assignment is given. -/
inductive AssignmentForm where
  /-- A value for a column. -/
  | value (column : ColumnSource) (v : Value)
  /-- NULL for a column. -/
  | null (column : ColumnSource)
  /-- A clause that assigns, or an equality in its place. -/
  | clause (source : ClauseSource QueryRef)

/-- How an assignment is made for a table. -/
abbrev Store.AssignmentSource := Schema → Except Error (Clause QueryRef)

/-- The assignment that is given, for the table at hand. -/
def AssignmentForm.source : AssignmentForm → Store.AssignmentSource
  | value column v => fun s => s.assignment column v
  | null column => fun s => s.nullAssignment column
  | clause source => fun s => s.assignmentOf source

/-- A call on builders. -/
inductive Edit where
  /-- Makes a query over all rows of the table of a model. -/
  | select (model : Model)
  /-- Adds a condition to a query. -/
  | condition (query : QueryRef) (clause : ClauseSource QueryRef)
  /-- Adds to a query that there is a row of another table, or that there is none. -/
  | related (query : QueryRef) (rows : RowSource) (column innerColumn : ColumnSource)
      (negated : Bool)
  /-- Adds a column to order a query by. -/
  | order (query : QueryRef) (column : ColumnSource) (direction : Direction)
  /-- Sets the limit of a query. -/
  | limit (query : QueryRef) (v : Value)
  /-- Sets the offset of a query. -/
  | offset (query : QueryRef) (v : Value)
  /-- Makes an update of the rows of a query, which assigns nothing yet. -/
  | update (query : QueryRef)
  /-- Adds an assignment to an update; on a query it makes an update with the assignment. -/
  | assign (builder : Builder) (form : AssignmentForm)

end SqlCompose
