import SqlCompose.Statement
import SqlCompose.Statement.Condition

/-!
# Updates

An update of the rows that a query picks writes its assignments first and then the conditions of the
query, with the name of the table before the columns. Where the query picks a window, the rows are
found by their key among those that the query lists.
-/

namespace SqlCompose.Update

/-- The assignments and which rows they are for. -/
def write (u : Update) : Blueprint := fun d => do
  let table := u.query.schema.identifier
  let assignments ← Clause.writeAll d .none u.assignments
  let condition ←
    if u.query.isPaged then do
      let member ← Clause.write d (.table table) (.among (.mk u.query) none)
      pure (conjunction [member])
    else u.query.filter d (.table table)
  return Fragment.spaced [
    some (.word "UPDATE " :: Fragment.table table ++ .word " SET " ::
      Fragment.joinWith ", " assignments),
    condition]

/-- What the update says, if it assigns anything. -/
def blueprint (u : Update) : Except Error Blueprint :=
  if u.assignments.isEmpty then .error (.compilation .nothingAssigned) else .ok u.write

end SqlCompose.Update
