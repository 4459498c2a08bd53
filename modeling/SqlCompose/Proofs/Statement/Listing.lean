import SqlCompose.Proofs.Statement.Renaming
import SqlCompose.Proofs.Statement.Window

/-!
# The list inside an update of a window

A window is counted as a list of its rows by one column, and an update of the
window finds its rows in a list by their key.  Both are the same list.  In the
update it is written after the assignments, which take no alias but bind
values, so that its aliases are the same and its placeholders are later by as
many as values were assigned.

## Main results

* `Selection.listLayout_renumber` — a list that is written later is the same but for its
  placeholders.
* `Update.text_layout_of_window` — what an update of a window says around its
  list.
* `Request.update_of_window` — both statements from one list, and the values
  of the update.
-/

namespace SqlCompose

open Fragment Writing

/-! ## The list -/

/-- Rows are listed by the first column of the key where there is one. -/
theorem Schema.listingColumn_of_uniqueColumn {s : Schema} {c : Column}
    (h : s.uniqueColumn = .ok c) : Selection.listingColumn s = .ok c := by
  unfold uniqueColumn at h
  unfold Selection.listingColumn
  split at h
  · rename_i hk
    cases h
    rw [hk]
    rfl
  · cases h

namespace Selection

/-- The first alias in a list is that of its own table. -/
theorem head?_aliases_listLayout (d : Dialect) (s : Selection Query) (issued aliases : Nat) :
    (s.listLayout d issued aliases).aliases.head? = some (aliases + 1) := by
  rw [listLayout, rowsLayout, rowsFrom, spaced_some_cons]
  simp [Qualifier.column, Piece.alias?]

/-- A list that is written later has later placeholders, and is the same otherwise. -/
theorem listLayout_renumber (d : Dialect) (s : Selection Query) (count issued aliases : Nat) :
    s.listLayout d (issued + count) aliases =
      (s.listLayout d issued aliases).renumber count :=
  s.rowsLayout_renumber d rfl s.order issued aliases

/-- What counts a window is its list in brackets. -/
theorem text_countLayout_of_list (d : Dialect) {s : Selection Query} (h : s.isPaged = true) :
    (s.countLayout d 0 0).text d = "SELECT COUNT(*) FROM ( " ++ (s.listLayout d 0 0).text d ++
      " ) " ++ aliasText ((Query.mk s).subqueries.length + 2) := by
  have hwords : "SELECT COUNT(*) FROM ( " = "SELECT " ++ (countWords ++ " FROM ( ") := by decide
  rw [countLayout, if_pos h, hwords]
  simp only [List.cons_append, text_cons, text_append, text_nil, Piece.text, String.append_assoc,
    String.append_empty, Nat.zero_add]

end Selection

/-! ## The update around it -/

/-- An assignment has no sub-query. -/
theorem Clause.subqueriesAll_of_isAssignment {cs : List (Clause Query)}
    (h : ∀ c ∈ cs, c.isAssignment = true) : Clause.subqueriesAll cs = [] := by
  induction cs with
  | nil => rfl
  | cons c rest ih =>
      have hc : c.subqueries = [] := by
        have hassign := h c List.mem_cons_self
        cases c with
        | assign column value table => rfl
        | assignNull column table => rfl
        | manual column template table => rfl
        | compare column op value negated table => cases hassign
        | related column inner innerColumn negated => cases hassign
        | among query column => cases hassign
      rw [Clause.subqueriesAll_cons, hc, ih fun c' hc' => h c' (List.mem_cons_of_mem _ hc')]
      rfl

namespace Update

/-- An update of a window is its assignments, and a test for the key to be in the list. -/
theorem text_layout_of_window (d : Dialect) {u : Update} (hpaged : u.query.isPaged = true)
    (hassign : ∀ a ∈ u.assignments, a.isAssignment = true) {key : Column}
    (hkey : u.query.schema.uniqueColumn = .ok key) :
    let table := (table u.query.schema.identifier).text d
    (u.layout d 0 0).text d = "UPDATE " ++ table ++ " SET " ++
      (joinWith ", " (Clause.layoutAll d .none 0 0 u.assignments)).text d ++ " WHERE ( " ++
      table ++ "." ++ d.quote key.name ++ " IN ( " ++
      (u.query.listLayout d (Clause.valuesAll u.assignments).length 0).text d ++ " ) )" := by
  intro table
  have hwhere : " WHERE ( " = " " ++ "WHERE ( " := by decide
  have hclose : " ) )" = " )" ++ " )" := by decide
  have hlisting := Selection.listingName_of_listingColumn
    (Schema.listingColumn_of_uniqueColumn hkey)
  rw [layout, conditionLayout, if_pos hpaged, spaced_some_cons, layout_member,
    Schema.firstKey_of_uniqueColumn hkey, Clause.subqueriesAll_of_isAssignment hassign,
    Selection.listLayout, hlisting, hwhere, hclose]
  simp only [conjunction, joinWith, membership, behindSpace, Qualifier.column, List.flatMap_cons,
    List.flatMap_nil, List.append_nil, List.length_nil, Nat.zero_add, text_append, text_cons,
    text_nil, Piece.text, String.append_assoc, String.append_empty, table]

/-- An update of a window has no fault where its query has none, and its table has a key. -/
theorem exists_key_of_faults {d : Dialect} {u : Update} (hpaged : u.query.isPaged = true)
    (h : u.faults d = []) :
    (∃ key, u.query.schema.uniqueColumn = .ok key) ∧ (Query.mk u.query).faults d = [] := by
  rw [faults, if_pos hpaged] at h
  have hmember : Clause.ownFaults d u.member ++ (Query.mk u.query).faults d = [] :=
    (List.append_eq_nil_iff.1 h).2
  obtain ⟨hown, hquery⟩ := List.append_eq_nil_iff.1 hmember
  refine ⟨?_, hquery⟩
  cases hkey : u.query.schema.uniqueColumn with
  | error e => simp [member, hkey] at hown
  | ok key => exact ⟨key, rfl⟩

end Update

/-! ## The two statements -/

namespace Request

/--
An update of a window that is compiled.  Its test is on the rows of the list
that the count of the window counts, which is written here after the assigned
values were bound: with the same aliases, from the first one on, and with
placeholders that are later by as many.  Where all placeholders look alike it
is the same text.  The values are those assigned, in the order of the
assignments, and then those with which the rows are fetched.  That the list of
an update has assignments only is what its builder sees to
(`Store.AssignsOnly.settleUpdate`).
-/
theorem update_of_window {u : Update} (hassign : ∀ a ∈ u.assignments, a.isAssignment = true)
    (hpaged : u.query.isPaged = true) {settings : Except Error Settings} {d : Dialect}
    {statement : Statement} {events : List Event}
    (h : (Request.update u).compile settings d = .ok (some (statement, events))) :
    let table := (table u.query.schema.identifier).text d
    let assigned := Clause.valuesAll u.assignments
    ∃ key sets rows later counted countEvents outer fetched fetchEvents,
      u.query.schema.uniqueColumn = .ok key ∧
      (outcome (Clause.writeAll d .none u.assignments) {}).1 = .ok sets ∧
      (outcome (u.query.list d) {}).1 = .ok rows ∧
      (∀ draft : Draft, draft.issued = assigned.length → draft.aliases = 0 →
        (outcome (u.query.list d) draft).1 = .ok later) ∧
      later = rows.renumber assigned.length ∧
      later.aliases = rows.aliases ∧ rows.aliases.head? = some 1 ∧
      ((∀ i j, d.placeholder i = d.placeholder j) → later.text d = rows.text d) ∧
      statement.sql = "UPDATE " ++ table ++ " SET " ++ (joinWith ", " sets).text d ++
        " WHERE ( " ++ table ++ "." ++ d.quote key.name ++ " IN ( " ++ later.text d ++ " ) )" ∧
      (Request.count u.query).compile settings d = .ok (some (counted, countEvents)) ∧
      counted.sql = "SELECT COUNT(*) FROM ( " ++ rows.text d ++ " ) " ++ aliasText outer ∧
      (Request.fetch u.query).compile settings d = .ok (some (fetched, fetchEvents)) ∧
      statement.args = assigned.map Value.toBind ++ fetched.args := by
  intro table assigned
  obtain ⟨b, hb, hcompile⟩ := exists_blueprint_of_compile h
  obtain rfl := eq_write_of_blueprint hb
  obtain ⟨hfaults, rfl⟩ := Blueprint.eq_of_compile_spec hcompile (u.spec_write d)
  obtain ⟨⟨key, hkey⟩, hquery⟩ := Update.exists_key_of_faults hpaged hfaults
  have hlisting := Schema.listingColumn_of_uniqueColumn hkey
  -- Everything is written where its description has no fault.
  have hsets : Clause.faultsAll d u.assignments = [] := (List.append_eq_nil_iff.1 hfaults).1
  have hlist := Selection.spec_list d hlisting
  have hcount := u.query.spec_count d
  have hfetch := u.query.spec_fetch d
  rw [Selection.countFaults_eq_nil hlisting hquery] at hcount
  rw [hquery] at hlist hfetch
  -- The update binds the values of the query and those assigned, which are more.
  have hle : (Query.mk u.query).values.length ≤ (u.values.map Value.toBind).length := by
    simp [Update.values]
  obtain ⟨countEvents, hcounted⟩ := Blueprint.exists_compile_of_le hcompile hcount hle
  obtain ⟨fetchEvents, hfetched⟩ := Blueprint.exists_compile_of_le hcompile hfetch hle
  have hlater := Selection.listLayout_renumber d u.query assigned.length 0 0
  rw [Nat.zero_add] at hlater
  refine ⟨key, Clause.layoutAll d .none 0 0 u.assignments, u.query.listLayout d 0 0,
    u.query.listLayout d assigned.length 0, _, countEvents,
    (Query.mk u.query).subqueries.length + 2, _, fetchEvents, hkey, ?_, ?_, ?_, hlater, ?_,
    Selection.head?_aliases_listLayout d u.query 0 0, ?_,
    Update.text_layout_of_window d hpaged hassign hkey, congrArg (some <$> ·) hcounted,
    Selection.text_countLayout_of_list d hpaged, congrArg (some <$> ·) hfetched, ?_⟩
  · rw [(Clause.spec_writeAll d .none u.assignments).writes hsets]
  · rw [hlist.writes rfl]
  · intro draft hissued haliases
    rw [hlist.writes rfl, hissued, haliases]
  · rw [hlater, aliases_renumber]
  · intro halike
    rw [hlater, text_renumber halike]
  · simp [Update.values, assigned]

/-- Caps the quantity of the first line of those orders that have a large line. -/
def cappedOrders : Update where
  query := { largeOrders with limit := some 1 }
  assignments := [
    .manual "quantity" ⟨"=CASE WHEN quantity > ? THEN ? ELSE quantity END", [.int 5, .int 6],
      by rfl⟩ none]

set_option maxRecDepth 2000 in
/-- Two values are assigned before the list, whose placeholders start with the third. -/
theorem update_of_window_cappedOrders :
    (∀ a ∈ cappedOrders.assignments, a.isAssignment = true) ∧
      cappedOrders.query.isPaged = true ∧
      ∃ statement events counted countEvents fetched fetchEvents,
        (Request.update cappedOrders).compile (.ok {}) .postgres =
            .ok (some (statement, events)) ∧
          (Request.count cappedOrders.query).compile (.ok {}) .postgres =
            .ok (some (counted, countEvents)) ∧
          (Request.fetch cappedOrders.query).compile (.ok {}) .postgres =
            .ok (some (fetched, fetchEvents)) ∧
          counted.sql = "SELECT COUNT(*) FROM ( SELECT t1.\"order_id\" FROM \"order_lines\" t1 " ++
            "WHERE ( EXISTS ( SELECT t2.\"order_id\" FROM \"order_lines\" t2 " ++
            "WHERE t2.\"order_id\" = t1.\"order_id\" AND t2.\"quantity\" > $1 ) ) " ++
            "LIMIT 1 ) t3" ∧
          statement.sql = "UPDATE \"order_lines\" SET " ++
            "\"quantity\"=CASE WHEN quantity > $1 THEN $2 ELSE quantity END " ++
            "WHERE ( \"order_lines\".\"order_id\" IN ( " ++
            "SELECT t1.\"order_id\" FROM \"order_lines\" t1 " ++
            "WHERE ( EXISTS ( SELECT t2.\"order_id\" FROM \"order_lines\" t2 " ++
            "WHERE t2.\"order_id\" = t1.\"order_id\" AND t2.\"quantity\" > $3 ) ) " ++
            "LIMIT 1 ) )" ∧
          statement.args = [.int 5, .int 6] ++ fetched.args := by
  have hassign : ∀ a ∈ cappedOrders.assignments, a.isAssignment = true := by
    simp [cappedOrders, Clause.isAssignment]
  have hpaged : cappedOrders.query.isPaged = true := rfl
  obtain ⟨statement, events, hupdate⟩ : ∃ statement events,
      (Request.update cappedOrders).compile (.ok {}) .postgres =
        .ok (some (statement, events)) := ⟨_, _, rfl⟩
  obtain ⟨key, sets, rows, later, counted, countEvents, outer, fetched, fetchEvents, -, -, -, -, -,
    -, -, -, -, hcount, -, hfetch, hargs⟩ := update_of_window hassign hpaged hupdate
  refine ⟨hassign, hpaged, statement, events, counted, countEvents, fetched, fetchEvents, hupdate,
    hcount, hfetch, ?_, ?_, hargs⟩
  · cases hcount
    rfl
  · cases hupdate
    rfl

end Request

end SqlCompose
