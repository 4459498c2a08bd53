import SqlCompose.Statement
import SqlCompose.Statement.Condition

/-!
# Statements on one row

A model object is one row of its table. It is updated and deleted by its whole key, and inserted
with the columns whose fields have a value; those that were left open get what the database gives
them. Every value is checked against its column when it is bound.
-/

namespace SqlCompose

namespace Dialect

/-- An insert of the cells, each a column with its placeholder, that hands the stored row back. -/
def insertion (d : Dialect) (table : Fragment) (cells : List (Fragment × Fragment))
    (columns : List Column) : Except Error Fragment :=
  match d.rowReturn? with
  | some form => .ok (form table cells columns)
  | none => .error (.unsupported d.name .rowReturn)

end Dialect

namespace Record

/-- An update of every column that is no key. -/
def writeUpdate (r : Record) (s : Schema) : Blueprint := fun _ => do
  let assignments ← s.plainColumns.mapM fun c => do
    let value ← Writing.ofExcept (s.valueOf r c.name)
    let value ← Writing.ofExcept (c.validate value)
    let mark ← Writing.bind value
    return [.name c.name, .word "=", mark]
  let key ← s.writeKey r
  return .word "UPDATE " :: Fragment.table s.identifier ++ .word " SET " ::
    Fragment.joinWith ", " assignments ++ .word " where " :: key

/-- An update of the row, if there is anything to update. -/
def update (r : Record) (s : Schema) : Except Error (Option Blueprint) :=
  if s.primaryKeys.isEmpty then .error (.noPrimaryKey s.tableName (some .update))
  else if s.plainColumns.isEmpty then .ok none
  else .ok (some (r.writeUpdate s))

/-- A deletion of the row with the key. -/
def writeDelete (r : Record) (s : Schema) : Blueprint := fun _ => do
  let key ← s.writeKey r
  return .word "DELETE FROM " :: Fragment.table s.identifier ++ .word " where " :: key

/-- A deletion of the row, if it has a key. -/
def delete (r : Record) (s : Schema) : Except Error Blueprint :=
  if s.primaryKeys.isEmpty then .error (.noPrimaryKey s.tableName (some .delete))
  else .ok (r.writeDelete s)

/-- The column with its placeholder, unless its value was left open. -/
def writeCell (r : Record) (s : Schema) (c : Column) : Writing (Option (Fragment × Fragment)) := do
  match ← Writing.ofExcept (s.valueOf r c.name) with
  | .unset => return none
  | value =>
    let value ← Writing.ofExcept (c.validate value)
    let mark ← Writing.bind value
    return some ([.name c.name], [mark])

/-- An insert of the row. -/
def insert (r : Record) (s : Schema) : Blueprint := fun d => do
  let cells ← s.columns.mapM (r.writeCell s)
  let cells := cells.filterMap id
  if cells.isEmpty then
    throw (.compilation (.nothingInserted s.tableName))
  Writing.ofExcept (d.insertion (Fragment.table s.identifier) cells s.columns)

end Record

end SqlCompose
