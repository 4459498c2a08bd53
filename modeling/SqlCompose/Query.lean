import SqlCompose.Clause

/-!
# Queries

A query picks rows of one table: by conditions on its columns, by rows that other tables have to
have or must not have for it, in an order, and a window of them by limit and offset. An update
changes the rows that a query picks.

`Selection ρ` is what a query says, with references of type `ρ` to other queries; in a `Query` these
are queries themselves, so that a query is a finite tree (`Query.selection_mk`). Where a query is
part of its own conditions the tree ends with a leaf for its table, which says why the query cannot
be written there.
-/

namespace SqlCompose

/-- The directions of an order. -/
inductive Direction where
  | ascending
  | descending
  deriving DecidableEq, Repr

/-- The keyword of a direction. -/
def Direction.keyword : Direction → String
  | ascending => "ASC"
  | descending => "DESC"

/-- A column to order by. -/
structure OrderItem where
  column : String
  direction : Direction := .ascending
  deriving DecidableEq, Repr

/-- What a query says about the rows it picks, with references of type `ρ` to other queries. -/
structure Selection (ρ : Type) where
  schema : Schema
  /-- The conditions, in the order in which they were asked for. -/
  conditions : List (Clause ρ) := []
  /-- The conditions on rows of other tables, which are written after the others. -/
  related : List (Clause ρ) := []
  order : List OrderItem := []
  limit : Option Nat := none
  offset : Option Nat := none

/-- Whether a query picks a window of its rows only. -/
def Selection.isPaged {ρ : Type} (s : Selection ρ) : Bool := s.limit.isSome || s.offset.isSome

/-- A query, with the queries that it refers to in it. -/
inductive Query where
  | mk (selection : Selection Query)
  /--
  What stands for a query over the table and cannot be written, with the reason: the query inside
  its own conditions, or a thing that is no query.
  -/
  | unwritable (schema : Schema) (reason : Error)

/-- What a query says; where it cannot be written, the table only. -/
def Query.selection : Query → Selection Query
  | mk s => s
  | unwritable schema _ => { schema }

/-- A query is what it says. -/
@[simp] theorem Query.selection_mk (s : Selection Query) : (mk s).selection = s := rfl

/-- An update of the rows that a query picks. -/
structure Update where
  query : Selection Query
  /-- The assignments, in the order in which they were made. -/
  assignments : List (Clause Query)

end SqlCompose
