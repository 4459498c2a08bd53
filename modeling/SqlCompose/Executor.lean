import SqlCompose.Dialect.Registry
import SqlCompose.Statement
import SqlCompose.Value.Cell
import SqlCompose.Value.Members

/-!
# Executors

An executor runs statements against a database. It is asked either for the rows of a statement or to
execute it and say how many rows it changed, and it may fail. What it is asked is kept as a `Call`.

Rows are mostly a list, but an executor may give any value with members in their place. A count is
read off the first cell of the first row as an integer (`Rows.count`); where there is no row it is
zero.
-/

namespace SqlCompose

/-- How an executor is asked. -/
inductive CallKind where
  | rows
  | execution
  deriving DecidableEq, Repr

/-- What an executor was asked. -/
structure Call where
  kind : CallKind
  sql : String
  args : List Value

/-- A runner of statements, with its dialect and its answers. -/
structure Executor where
  /-- The dialect that it takes. -/
  dialect : DialectChoice
  /-- The rows of a statement. -/
  rows : Call → Except Error Value
  /-- What is said of a statement that was executed: mostly the number of rows that it changed. -/
  execute : Call → Except Error Value

namespace Rows

/-- The first row, or NULL where there is none. -/
def first (rows : Value) : Except Error Value :=
  if rows.truth then rows.first.mapError .cell else .ok .null

/-- The count that rows hold in their first cell. -/
def count (rows : Value) : Except Error Int :=
  if rows.truth then (rows.first >>= Value.first >>= Cell.toInt).mapError .cell else .ok 0

end Rows

end SqlCompose
