import SqlCompose.Proofs.Statement.Layout
import SqlCompose.Statement.Select
import SqlCompose.Statement.Update

/-!
# Layouts of statements on queries

A query that is fetched, counted or updated is written by the same writer of
conditions, after a different head and with a different end.  Each of these
statements has a layout that is a function of the numbers given out before
it, and the monadic statement is that layout (`spec_rows`, `spec_fetch`,
`spec_count`, `Update.spec_write`).

`Selection.rowsLayout` is the one layout behind all lists of rows: the rows
that are fetched, those that are listed to be counted, and those that an
update looks for.
-/

namespace SqlCompose

open Writing

namespace Selection

/-- The rows that a query picks, with the given columns and in the given order. -/
def rowsLayout (d : Dialect) (s : Selection Query) (columns : Fragment) (order : List OrderItem)
    (issued aliases : Nat) : Fragment :=
  let q := Qualifier.tableAlias (aliases + 1)
  rowsFrom columns s.schema.identifier (aliases + 1)
    (conjunction (Query.layoutParts d q issued (aliases + 1) (.mk s)))
    ({ s with order }.tail d q)

/-- The filter of a query is the conjunction of its conditions. -/
theorem spec_filter (d : Dialect) (q : Qualifier) (s : Selection Query) :
    Spec (s.filter d q) ((Query.mk s).faults d) (Query.mk s).values (Query.mk s).subqueries.length
      fun issued aliases => conjunction (Query.layoutParts d q issued aliases (.mk s)) := by
  have h := (Query.spec_writeParts d q (.mk s)).andThen fun parts => spec_pure (conjunction parts)
  rw [filter]
  simpa using h

/-- Rows with columns that are known are laid out, and take an alias of their own. -/
theorem spec_rows (d : Dialect) (s : Selection Query)
    {columns : Qualifier → Except Error Fragment} {names : Qualifier → Fragment}
    (hcolumns : ∀ q, columns q = .ok (names q)) (order : List OrderItem) :
    Spec (s.rows d columns order) ((Query.mk s).faults d) (Query.mk s).values
      ((Query.mk s).subqueries.length + 1) fun issued aliases =>
        s.rowsLayout d (names (.tableAlias (aliases + 1))) order issued aliases := by
  have h := spec_nextAlias.andThen fun number =>
    (s.spec_filter d (.tableAlias number)).andThen fun condition => spec_pure
      (rowsFrom (names (.tableAlias number)) s.schema.identifier number condition
        ({ s with order }.tail d (.tableAlias number)))
  rw [rows]
  simpa [hcolumns, rowsLayout, Nat.add_comm] using h

/-- What fetches the rows of a query. -/
def fetchLayout (d : Dialect) (s : Selection Query) (issued aliases : Nat) : Fragment :=
  s.rowsLayout d (allColumns (.tableAlias (aliases + 1)) s.schema) s.order issued aliases

theorem spec_fetch (d : Dialect) (s : Selection Query) :
    Spec (s.fetch d) ((Query.mk s).faults d) (Query.mk s).values
      ((Query.mk s).subqueries.length + 1) fun issued aliases => s.fetchLayout d issued aliases :=
  s.spec_rows d (fun _ => rfl) s.order

/-- The name of the column by which rows are listed. -/
def listingName (s : Schema) : String := ((s.keyColumns ++ s.columns).head?.map Column.name).getD ""

theorem listingName_of_listingColumn {s : Schema} {c : Column} (h : listingColumn s = .ok c) :
    listingName s = c.name := by
  unfold listingColumn at h
  unfold listingName
  split at h
  · rename_i hk
    cases h
    simp [hk]
  · cases h

/-- The rows of a window, listed by one column. -/
def listLayout (d : Dialect) (s : Selection Query) (issued aliases : Nat) : Fragment :=
  s.rowsLayout d ((Qualifier.tableAlias (aliases + 1)).column (listingName s.schema)) s.order
    issued aliases

/-- What lists the rows of a query by one column, to be counted. -/
def list (s : Selection Query) : Blueprint := fun d =>
  s.rows d (fun q => do return q.column (← listingColumn s.schema).name) s.order

theorem spec_list (d : Dialect) {s : Selection Query} {c : Column}
    (h : listingColumn s.schema = .ok c) :
    Spec (s.list d) ((Query.mk s).faults d) (Query.mk s).values
      ((Query.mk s).subqueries.length + 1)
      fun issued aliases => s.listLayout d issued aliases := by
  have hcolumns : ∀ q : Qualifier, (do return q.column (← listingColumn s.schema).name) =
      Except.ok (ε := Error) (q.column (listingName s.schema)) := by
    intro q
    rw [h, listingName_of_listingColumn h]
    rfl
  exact s.spec_rows d hcolumns s.order

/-- A window is counted as the list of its rows, under the alias after those in it. -/
theorem count_of_paged {s : Selection Query} (h : s.isPaged = true) (d : Dialect) :
    s.count d = do
      let rows ← s.list d
      let outer ← nextAlias
      return .word "SELECT " :: .word countWords :: .word " FROM ( " :: rows ++
        [.word " ) ", .tableAlias outer] := by
  rw [count, if_pos h]
  rfl

/-- What counts the rows of a query. -/
def countLayout (d : Dialect) (s : Selection Query) (issued aliases : Nat) : Fragment :=
  if s.isPaged then
    .word "SELECT " :: .word countWords :: .word " FROM ( " :: s.listLayout d issued aliases ++
      [.word " ) ", .tableAlias (aliases + (Query.mk s).subqueries.length + 2)]
  else s.rowsLayout d [.word countWords] [] issued aliases

/-- Why rows cannot be counted: a window is listed by a column, which the table has to have. -/
def countFaults (d : Dialect) (s : Selection Query) : List Error :=
  (if s.isPaged then
    match listingColumn s.schema with
    | .ok _ => []
    | .error e => [e]
  else []) ++ (Query.mk s).faults d

theorem spec_count (d : Dialect) (s : Selection Query) :
    Spec (s.count d) (s.countFaults d) (Query.mk s).values
      ((Query.mk s).subqueries.length + if s.isPaged then 2 else 1)
      fun issued aliases => s.countLayout d issued aliases := by
  by_cases hpaged : s.isPaged
  · rw [count_of_paged hpaged]
    cases hlisting : listingColumn s.schema with
    | error e =>
        have h := spec_nextAlias.andThen fun _ => spec_throw e fun _ _ => ([] : Fragment)
        simpa [hpaged, countFaults, hlisting, list, rows] using
          h.of_fault ((Query.mk s).faults d) _ _ _
    | ok c =>
        have h := (spec_list d hlisting).andThen fun rows =>
          spec_nextAlias.andThen fun outer => spec_pure (.word "SELECT " :: .word countWords ::
            .word " FROM ( " :: rows ++ [.word " ) ", .tableAlias outer])
        simpa [hpaged, countFaults, hlisting, countLayout, Nat.add_assoc] using h
  · unfold count
    simpa [hpaged, countFaults, countLayout] using s.spec_rows d (fun _ => rfl) []

end Selection

namespace Update

/-- The clause that finds the rows of a window by their key. -/
def member (u : Update) : Clause Query := .among (.mk u.query) none

/-- Which rows are updated: those that meet the conditions, or those of the window. -/
def conditionLayout (d : Dialect) (u : Update) (issued aliases : Nat) : Option Fragment :=
  let table := Qualifier.table u.query.schema.identifier
  conjunction (if u.query.isPaged then [u.member.layout d table issued aliases]
    else Query.layoutParts d table issued aliases (.mk u.query))

/-- What updates the rows of a query. -/
def layout (d : Dialect) (u : Update) (issued aliases : Nat) : Fragment :=
  Fragment.spaced [
    some (.word "UPDATE " :: Fragment.table u.query.schema.identifier ++ .word " SET " ::
      Fragment.joinWith ", " (Clause.layoutAll d .none issued aliases u.assignments)),
    u.conditionLayout d (issued + (Clause.valuesAll u.assignments).length)
      (aliases + (Clause.subqueriesAll u.assignments).length)]

/-- Why rows cannot be updated: a fault of an assignment, of a condition, or of the window. -/
def faults (d : Dialect) (u : Update) : List Error :=
  Clause.faultsAll d u.assignments ++
    if u.query.isPaged then u.member.faults d else (Query.mk u.query).faults d

/-- The values of an update: those assigned, then those of the conditions. -/
def values (u : Update) : List Value := Clause.valuesAll u.assignments ++ (Query.mk u.query).values

/-- How many aliases an update takes. -/
def aliasCount (u : Update) : Nat :=
  (Clause.subqueriesAll u.assignments).length + (Query.mk u.query).subqueries.length +
    if u.query.isPaged then 1 else 0

theorem spec_write (d : Dialect) (u : Update) :
    Spec (u.write d) (u.faults d) u.values u.aliasCount
      fun issued aliases => u.layout d issued aliases := by
  have hassign := Clause.spec_writeAll d .none u.assignments
  unfold write
  by_cases hpaged : u.query.isPaged
  · have h := hassign.andThen fun assignments =>
      (Clause.spec_write d (.table u.query.schema.identifier) u.member).andThen fun member =>
        spec_pure (Fragment.spaced [
          some (.word "UPDATE " :: Fragment.table u.query.schema.identifier ++ .word " SET " ::
            Fragment.joinWith ", " assignments), conjunction [member]])
    simpa [hpaged, faults, values, aliasCount, layout, conditionLayout, member, Clause.values,
      Clause.subqueries, Query.values, Query.subqueries, Nat.add_assoc, Nat.add_comm 1] using h
  · have h := hassign.andThen fun assignments =>
      (u.query.spec_filter d (.table u.query.schema.identifier)).andThen fun condition =>
        spec_pure (Fragment.spaced [
          some (.word "UPDATE " :: Fragment.table u.query.schema.identifier ++ .word " SET " ::
            Fragment.joinWith ", " assignments), condition])
    simpa [hpaged, faults, values, aliasCount, layout, conditionLayout] using h

end Update

end SqlCompose
