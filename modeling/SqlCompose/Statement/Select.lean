import SqlCompose.Statement
import SqlCompose.Statement.Condition

/-!
# Fetching and counting

A query is fetched with all columns of its table. It is counted with the same conditions; where it
picks a window, the rows of the window are listed by one column and the list is counted, so that
the window holds for the rows and not for their number.
-/

namespace SqlCompose.Selection

/-- All columns of the table. -/
def allColumns (q : Qualifier) (s : Schema) : Fragment :=
  Fragment.joinWith ", " (s.columns.map fun c => q.column c.name)

/-- The words that count rows. -/
def countWords : String := "COUNT(*)"

/-- The column that rows are listed by: the first of the key, or of the table if it has no key. -/
def listingColumn (s : Schema) : Except Error Column :=
  match s.keyColumns ++ s.columns with
  | c :: _ => .ok c
  | [] => .error .noColumns

/-- The rows that a query picks, with the given columns and in the given order. -/
def rows (d : Dialect) (s : Selection Query) (columns : Qualifier → Except Error Fragment)
    (order : List OrderItem) : Writing Fragment := do
  let number ← Writing.nextAlias
  let q := Qualifier.tableAlias number
  let columns ← Writing.ofExcept (columns q)
  let condition ← s.filter d q
  return rowsFrom columns s.schema.identifier number condition ({ s with order }.tail d q)

/-- The rows that a query picks. -/
def fetch (s : Selection Query) : Blueprint := fun d =>
  s.rows d (fun q => .ok (allColumns q s.schema)) s.order

/-- The number of rows that a query picks. -/
def count (s : Selection Query) : Blueprint := fun d =>
  if s.isPaged then do
    let list ← s.rows d (fun q => do return q.column (← listingColumn s.schema).name) s.order
    let outer ← Writing.nextAlias
    return .word "SELECT " :: .word countWords :: .word " FROM ( " :: list ++
      [.word " ) ", .tableAlias outer]
  else s.rows d (fun _ => .ok [.word countWords]) []

end SqlCompose.Selection
