import SqlCompose.Query
import SqlCompose.Statement.Draft

/-!
# Writing conditions

A clause becomes a fragment of a statement while its values are bound, so that the placeholders of a
statement and its values are in the same order. Columns are written behind a qualifier, the alias of
their table or its name.

The conditions of a query are written in one place (`Selection.filter`), whether the query is
fetched, counted, used in a condition of another one or updated. A part that would be empty is left
out.
-/

namespace SqlCompose

namespace Template

/-- The literal parts with a placeholder after each but the last. -/
def weave (literals : List String) (marks : List Piece) : Fragment :=
  (literals.zip marks).flatMap (fun (t, m) => [.verbatim t, m]) ++
    ((literals.drop marks.length).map .verbatim)

end Template

/-- Conditions that all have to hold; without any there is nothing to write. -/
def conjunction : List Fragment → Option Fragment
  | [] => none
  | parts => some (.word "WHERE ( " :: Fragment.joinWith " AND " parts ++ [.word " )"])

namespace OrderItem

/-- A column with its direction. -/
def fragment (q : Qualifier) (o : OrderItem) : Fragment :=
  q.column o.column ++ [.word " ", .word o.direction.keyword]

end OrderItem

/--
The end of a query: what it is ordered by and its window. A dialect that needs an order before a
window gets one that says nothing where there is none.
-/
def tail (d : Dialect) (order : List Fragment) (limit offset : Option Value) : Option Fragment :=
  let paging := (d.paging limit offset).filter fun t => !t.isEmpty
  let ordering : Option Fragment :=
    match order with
    | [] =>
      if paging.isSome && d.orderForPaging then some [.word "ORDER BY (SELECT NULL)"] else none
    | items => some (.word "ORDER BY " :: Fragment.joinWith ", " items)
  match ordering, paging.map fun t => [Piece.word t] with
  | none, none => none
  | o, p => some (Fragment.spaced [o, p])

/-- A bound of a window as a value. -/
def boundValue (n : Nat) : Value := .int n

/-- The end of a query with the order and the window that it asks for. -/
def Selection.tail {ρ : Type} (d : Dialect) (q : Qualifier) (s : Selection ρ) : Option Fragment :=
  SqlCompose.tail d (s.order.map (OrderItem.fragment q)) (s.limit.map boundValue)
    (s.offset.map boundValue)

/-- A list of rows: what is read from a table under an alias, which rows, and in which order. -/
def rowsFrom (columns : Fragment) (identifier : List String) (number : Nat)
    (condition ending : Option Fragment) : Fragment :=
  Fragment.spaced [
    some (.word "SELECT " :: columns ++ .word " FROM " :: Fragment.table identifier ++
      [.word " ", .tableAlias number]),
    condition, ending]

/--
The condition that a row of another table equals a column of this one and meets its own conditions.
-/
def existence (keyword : String) (identifier : List String) (number : Nat) (innerColumn : String)
    (outer : Fragment) (parts : List Fragment) : Fragment :=
  let inner := (Qualifier.tableAlias number).column innerColumn
  .word keyword :: .word " ( SELECT " :: inner ++ .word " FROM " :: Fragment.table identifier ++
    .word " " :: .tableAlias number :: .word " WHERE " ::
    Fragment.joinWith " AND " ((inner ++ .word " = " :: outer) :: parts) ++ [.word " )"]

/-- The condition that a column is among the rows of a list. -/
def membership (column rows : Fragment) : Fragment :=
  column ++ .word " IN ( " :: rows ++ [.word " )"]

mutual
/-- Writes a clause, with the columns of its table behind the qualifier. -/
def Clause.write (d : Dialect) (q : Qualifier) : Clause Query → Writing Fragment
  | .compare column op value negated _ =>
    if value.isNull then
      return q.column column ++ [.word (if negated then " IS NOT NULL" else " IS NULL")]
    else do
      let mark ← Writing.bind value
      return q.column column ++ [.word " ", .word (d.operator op.symbol), .word " ", mark]
  | .assign column value _ => do
    let mark ← Writing.bind value
    return q.column column ++ [.word "=", mark]
  | .assignNull column _ => return q.column column ++ [.word "=NULL"]
  | .manual column template _ => do
    let marks ← Writing.bindAll template.values
    return q.column column ++ Template.weave template.literals marks
  | .related column inner innerColumn negated => do
    let number ← Writing.nextAlias
    let parts ← Query.writeParts d (.tableAlias number) inner
    return existence (if negated then "NOT EXISTS" else "EXISTS") inner.selection.schema.identifier
      number innerColumn (q.column column) parts
  | .among query _ => do
    let key ← Writing.ofExcept query.selection.schema.uniqueColumn
    if !d.limitInSubquery then
      throw (.unsupported d.name .limitInSubquery)
    let number ← Writing.nextAlias
    let parts ← Query.writeParts d (.tableAlias number) query
    let inner := Qualifier.tableAlias number
    return membership (q.column key.name)
      (rowsFrom (inner.column key.name) query.selection.schema.identifier number
        (conjunction parts) (query.selection.tail d inner))

/-- Writes clauses in their order; those that come out empty are left out. -/
def Clause.writeAll (d : Dialect) (q : Qualifier) : List (Clause Query) → Writing (List Fragment)
  | [] => return []
  | c :: rest => do
    let f ← Clause.write d q c
    let fs ← Clause.writeAll d q rest
    return if f.isBlank d then fs else f :: fs

/-- Writes the conditions of a query: those on its own columns, then those on other tables. -/
def Query.writeParts (d : Dialect) (q : Qualifier) : Query → Writing (List Fragment)
  | .unwritable _ reason => throw reason
  | .mk ⟨_, conditions, related, _, _, _⟩ => do
    let own ← Clause.writeAll d q conditions
    let others ← Clause.writeAll d q related
    return own ++ others
end

/-- Writes the conditions of a query as the part of a statement that filters its rows. -/
def Selection.filter (d : Dialect) (q : Qualifier) (s : Selection Query) :
    Writing (Option Fragment) := do
  let parts ← Query.writeParts d q (.mk s)
  return conjunction parts

/-- The equality of a column with a value for each of the key's columns, which takes no NULL. -/
def Schema.writeKey (s : Schema) (r : Record) : Writing Fragment := do
  let parts ← s.keyColumns.mapM fun c => do
    let value ← Writing.ofExcept (s.valueOf r c.name)
    let value ← Writing.ofExcept (c.validateKey value)
    let mark ← Writing.bind value
    return [.name c.name, .word "=", mark]
  return Fragment.joinWith " AND " parts

end SqlCompose
