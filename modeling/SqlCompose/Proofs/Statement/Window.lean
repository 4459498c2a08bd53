import SqlCompose.Proofs.Statement.Count

/-!
# Updates of a window

An update of a window finds its rows again by a test: their key is among the
keys of the rows that the query lists.  The statement names one column on both
sides of the test, the first of the primary key.  This module says what the
test is worth where it is read as set membership over the columns that it
names.

What a database does with a query is taken as it comes (`Engine`): which
conditions hold for a row, and how it arranges rows.  The rows of a window are
then those that meet all conditions, arranged, without those before the
offset and after the limit (`Engine.picked`).

A row of the window always meets the test.  A row outside of it does as well
where it shares the first column of its key with a row inside, which the
uniqueness of whole keys does not rule out.  So the test finds the window for
all contents of the table if and only if the key has no second column; a test
that named all columns of the key always would.

## Main results

* `Engine.meets_primaryKeys` — a test over all columns of the key finds just
  the rows that are picked.
* `Engine.exists_meets_of_not_mem` — a test that leaves one out does not.
* `Update.rows_of_window` — what the statement names, and which rows it is
  for.
-/

namespace SqlCompose

open Fragment

/-! ## What a database makes of a query -/

/-- A row of a table: the value of each column, by the name of the column. -/
abbrev Row := String → Value

/-- What a database does with the queries on one table. -/
structure Engine where
  /-- Whether a condition holds for a row. -/
  holds : Clause Query → Row → Bool
  /-- The rows as an order asks for them, one of the ways where it leaves a choice. -/
  arrange : List OrderItem → List Row → List Row
  arrange_perm : ∀ order rows, (arrange order rows).Perm rows

/-- Whether no two rows have the same primary key. -/
def Schema.KeysUnique (s : Schema) (rows : List Row) : Prop :=
  rows.Pairwise fun r r' => ∃ k ∈ s.primaryKeys, r k ≠ r' k

namespace Engine

variable {e : Engine} {s : Selection Query} {rows : List Row}

/-- The rows that a query picks from the rows of its table. -/
def picked (e : Engine) (s : Selection Query) (rows : List Row) : List Row :=
  let found := rows.filter fun r => (s.conditions ++ s.related).all fun c => e.holds c r
  let rest := (e.arrange s.order found).drop (s.offset.getD 0)
  match s.limit with
  | some n => rest.take n
  | none => rest

/--
Whether a row of the table meets the test for its columns to be those of a
row that the query picks.
-/
def Meets (e : Engine) (columns : List String) (s : Selection Query) (rows : List Row)
    (r : Row) : Prop :=
  r ∈ rows ∧ ∃ p ∈ e.picked s rows, ∀ c ∈ columns, r c = p c

/-- A query picks rows of its table. -/
theorem mem_of_mem_picked {r : Row} (h : r ∈ e.picked s rows) : r ∈ rows := by
  have hrest : r ∈ (e.arrange s.order
      (rows.filter fun r => (s.conditions ++ s.related).all fun c => e.holds c r)).drop
        (s.offset.getD 0) := by
    unfold picked at h
    cases hlimit : s.limit with
    | none => simpa [hlimit] using h
    | some n =>
        simp only [hlimit] at h
        exact List.mem_of_mem_take h
  have hfound := (e.arrange_perm _ _).mem_iff.1 (List.mem_of_mem_drop hrest)
  exact (List.mem_filter.1 hfound).1

/-- Every row that is picked meets the test, whatever columns it is over. -/
theorem meets_of_mem_picked {r : Row} (h : r ∈ e.picked s rows) (columns : List String) :
    e.Meets columns s rows r :=
  ⟨mem_of_mem_picked h, r, h, fun _ _ => rfl⟩

/-- The test finds just the rows that are picked where no other row shares the columns of one. -/
theorem meets_iff_picked (columns : List String) :
    (∀ r, e.Meets columns s rows r ↔ r ∈ e.picked s rows) ↔
      ∀ r ∈ rows, r ∉ e.picked s rows → ∀ p ∈ e.picked s rows, ∃ c ∈ columns, r c ≠ p c := by
  constructor
  · intro h r hr hout p hp
    by_cases hall : ∀ c ∈ columns, r c = p c
    · exact absurd ((h r).1 ⟨hr, p, hp, hall⟩) hout
    · simpa using hall
  · intro h r
    refine ⟨?_, fun hr => meets_of_mem_picked hr columns⟩
    rintro ⟨hr, p, hp, hall⟩
    by_cases hin : r ∈ e.picked s rows
    · exact hin
    · obtain ⟨c, hc, hne⟩ := h r hr hin p hp
      exact absurd (hall c hc) hne

/-- Rows with the same primary key are one row. -/
theorem eq_of_keysUnique {schema : Schema} (h : schema.KeysUnique rows) {r p : Row}
    (hr : r ∈ rows) (hp : p ∈ rows) (hkeys : ∀ k ∈ schema.primaryKeys, r k = p k) : r = p := by
  induction rows with
  | nil => cases hr
  | cons row rest ih =>
      obtain ⟨hrow, hrest⟩ := List.pairwise_cons.1 h
      rcases List.mem_cons.1 hr with rfl | hr'
      · rcases List.mem_cons.1 hp with rfl | hp'
        · rfl
        · obtain ⟨k, hk, hne⟩ := hrow p hp'
          exact absurd (hkeys k hk) hne
      · rcases List.mem_cons.1 hp with rfl | hp'
        · obtain ⟨k, hk, hne⟩ := hrow r hr'
          exact absurd (hkeys k hk).symm hne
        · exact ih hrest hr' hp'

/-- A test over all columns of the key finds just the rows that are picked. -/
theorem meets_primaryKeys {columns : List String}
    (hcolumns : ∀ k ∈ s.schema.primaryKeys, k ∈ columns) (h : s.schema.KeysUnique rows) (r : Row) :
    e.Meets columns s rows r ↔ r ∈ e.picked s rows := by
  refine ⟨?_, fun hr => meets_of_mem_picked hr columns⟩
  rintro ⟨hr, p, hp, hall⟩
  have heq := eq_of_keysUnique h hr (mem_of_mem_picked hp) fun k hk => hall k (hcolumns k hk)
  rw [heq]
  exact hp

/-- An engine for which every condition holds, and which leaves rows as they are. -/
def permissive : Engine where
  holds _ _ := true
  arrange _ rows := rows
  arrange_perm _ rows := List.Perm.refl rows

end Engine

/-- The first row of a table, whichever it is. -/
def Schema.firstRow (s : Schema) : Selection Query where
  schema := s
  limit := some 1

/--
A test that leaves out a column of the key takes a second row for the one
that is picked: two rows may differ in that column alone.
-/
theorem Engine.exists_meets_of_not_mem {schema : Schema} {columns : List String} {k : String}
    (hkey : k ∈ schema.primaryKeys) (hcolumns : k ∉ columns) :
    ∃ rows r, schema.KeysUnique rows ∧ permissive.Meets columns schema.firstRow rows r ∧
      r ∉ permissive.picked schema.firstRow rows := by
  let first : Row := fun _ => .int 0
  let second : Row := fun c => if c = k then .int 1 else .int 0
  have hpicked : permissive.picked schema.firstRow [first, second] = [first] := rfl
  have hkeys : first k ≠ second k := by
    simp [first, second]
  refine ⟨[first, second], second, ?_, ?_, ?_⟩
  · exact List.pairwise_pair.2 ⟨k, hkey, hkeys⟩
  · refine ⟨by simp, first, by rw [hpicked]; exact List.mem_singleton.2 rfl, ?_⟩
    intro c hc
    have hne : c ≠ k := by
      rintro rfl
      exact hcolumns hc
    simp [first, second, hne]
  · rw [hpicked, List.mem_singleton]
    intro heq
    exact hkeys (by rw [heq])

/-! ## What the statement names -/

namespace Update

/-- The test that an update of a window ends with is on the rows that the query lists. -/
theorem layout_member (d : Dialect) (u : Update) (q : Qualifier) (issued aliases : Nat) :
    u.member.layout d q issued aliases = membership (q.column u.query.schema.firstKey)
      (u.query.rowsLayout d ((Qualifier.tableAlias (aliases + 1)).column u.query.schema.firstKey)
        u.query.order issued aliases) := by
  rw [member, Clause.layout]
  rfl

/-- What a paged update is written as: its head, and the test behind it. -/
theorem layout_of_window (d : Dialect) {u : Update} (hpaged : u.query.isPaged = true) :
    ∃ head issued aliases, u.layout d 0 0 =
      head ++ behindSpace (conjunction
        [u.member.layout d (.table u.query.schema.identifier) issued aliases]) := by
  rw [layout, conditionLayout, if_pos hpaged, spaced_some_cons, List.flatMap_cons,
    List.flatMap_nil, List.append_nil]
  exact ⟨_, _, _, rfl⟩

/-- An update of a window ends with a test that names the first column of the key twice. -/
theorem exists_text_of_window (d : Dialect) {u : Update} (hpaged : u.query.isPaged = true) :
    ∃ head issued aliases, (u.layout d 0 0).text d =
      head ++ " WHERE ( " ++ (table u.query.schema.identifier).text d ++ "." ++
        d.quote u.query.schema.firstKey ++ " IN ( SELECT " ++ aliasText (aliases + 1) ++ "." ++
        d.quote u.query.schema.firstKey ++ " " ++ (u.query.source d issued aliases).text d ++
        (u.query.ending d u.query.order aliases).text d ++ " ) )" := by
  have hwhere : " WHERE ( " = " " ++ "WHERE ( " := by decide
  have hselect : " IN ( SELECT " = " IN ( " ++ "SELECT " := by decide
  have hclose : " ) )" = " )" ++ " )" := by decide
  obtain ⟨head, issued, aliases, hlayout⟩ := layout_of_window d hpaged
  refine ⟨head.text d, issued, aliases, ?_⟩
  rw [hlayout, layout_member, hwhere, hselect, hclose]
  simp only [conjunction, joinWith, membership, behindSpace, List.flatMap_nil, List.append_nil,
    text_append, text_cons, text_nil, Piece.text, Selection.text_rowsLayout, Qualifier.column,
    String.append_assoc, String.append_empty]

/-- An update of the first row, which takes the default for the key's first column. -/
def ofFirstRow (schema : Schema) : Update where
  query := schema.firstRow
  assignments := [.manual schema.firstKey ⟨"=DEFAULT", [], by rfl⟩ none]

/-- A table with a key has updates of a window. -/
theorem exists_compile_ofFirstRow {schema : Schema} (hkeys : schema.primaryKeys ≠ []) :
    ∃ statement events, (Request.update (ofFirstRow schema)).compile (.ok {}) .postgres =
      .ok (some (statement, events)) := by
  have hunique : ∃ c, schema.uniqueColumn = .ok c := by
    have hlength := schema.length_keyColumns
    unfold Schema.uniqueColumn
    split
    · exact ⟨_, rfl⟩
    · rename_i hnil
      rw [hnil] at hlength
      exact absurd (List.length_eq_zero_iff.1 hlength.symm) hkeys
  obtain ⟨c, hc⟩ := hunique
  have hmember : (ofFirstRow schema).member.faults .postgres = [] := by
    have hquery : Query.faults .postgres (.mk schema.firstRow) = [] := by
      rw [Query.faults, Query.gather_mk]
      rfl
    have hown : Clause.ownFaults .postgres (ofFirstRow schema).member = [] := by
      simp only [member, ofFirstRow, Clause.ownFaults, Query.selection_mk, Schema.firstRow, hc]
      rfl
    show Clause.ownFaults .postgres (ofFirstRow schema).member ++
      Query.faults .postgres (.mk schema.firstRow) = []
    rw [hown, hquery]
    rfl
  have hfaults : (ofFirstRow schema).faults .postgres = [] := by
    show [] ++ (ofFirstRow schema).member.faults .postgres = []
    rw [hmember]
    rfl
  have hspec := (ofFirstRow schema).spec_write .postgres
  rw [hfaults] at hspec
  have hvalues : (ofFirstRow schema).values = [] := by
    rw [values, Query.values_mk]
    rfl
  rw [hvalues] at hspec
  rw [Request.compile_of_blueprint rfl, Blueprint.compile_of_spec hspec]
  exact ⟨_, _, rfl⟩

/-! ## Which rows are updated -/

/--
An update of a window, whatever the contents of its table.  Its statement
finds rows by a test over the first column of the key, which all rows of the
window meet; it finds no others just if none shares that column with a row of
the window.  This is so for all updates of windows of a table and all of its
contents if and only if the key of the table has no second column.
-/
theorem rows_of_window (schema : Schema) :
    (∀ u : Update, u.query.schema = schema → u.query.isPaged = true →
      ∀ settings d statement events,
        (Request.update u).compile settings d = .ok (some (statement, events)) →
        (∃ head issued aliases, statement.sql =
          head ++ " WHERE ( " ++ (table schema.identifier).text d ++ "." ++
            d.quote schema.firstKey ++ " IN ( SELECT " ++ aliasText (aliases + 1) ++ "." ++
            d.quote schema.firstKey ++ " " ++ (u.query.source d issued aliases).text d ++
            (u.query.ending d u.query.order aliases).text d ++ " ) )") ∧
        ∀ (e : Engine) (rows : List Row), schema.KeysUnique rows →
          (∀ r ∈ e.picked u.query rows, e.Meets [schema.firstKey] u.query rows r) ∧
          ((∀ r, e.Meets [schema.firstKey] u.query rows r ↔ r ∈ e.picked u.query rows) ↔
            ∀ r ∈ rows, r ∉ e.picked u.query rows → ∀ p ∈ e.picked u.query rows,
              r schema.firstKey ≠ p schema.firstKey)) ∧
    ((∀ u : Update, u.query.schema = schema → u.query.isPaged = true →
      ∀ settings d statement events,
        (Request.update u).compile settings d = .ok (some (statement, events)) →
        ∀ (e : Engine) (rows : List Row), schema.KeysUnique rows →
          ∀ r, e.Meets [schema.firstKey] u.query rows r ↔ r ∈ e.picked u.query rows) ↔
      ∀ k ∈ schema.primaryKeys, k = schema.firstKey) := by
  refine ⟨?_, ?_, ?_⟩
  · rintro u rfl hpaged settings d statement events hcompile
    obtain ⟨f, -, hlayout, -, hsql, -⟩ := Request.exists_of_compile hcompile
    cases hlayout
    refine ⟨?_, fun e rows _ => ⟨fun r hr => Engine.meets_of_mem_picked hr _, ?_⟩⟩
    · rw [hsql]
      exact exists_text_of_window d hpaged
    · rw [Engine.meets_iff_picked]
      simp
  · intro hexact k hk
    have hkeys : schema.primaryKeys ≠ [] := List.ne_nil_of_mem hk
    obtain ⟨statement, events, hcompile⟩ := exists_compile_ofFirstRow hkeys
    by_cases hfirst : k = schema.firstKey
    · exact hfirst
    · have hnamed : k ∉ [schema.firstKey] := by simpa using hfirst
      obtain ⟨rows, r, hunique, hmeets, hout⟩ := Engine.exists_meets_of_not_mem hk hnamed
      exact absurd ((hexact (ofFirstRow schema) rfl rfl _ _ _ _ hcompile Engine.permissive rows
        hunique r).1 hmeets) hout
  · rintro hsingle u rfl - settings d statement events - e rows hunique r
    refine Engine.meets_primaryKeys (fun k hk => ?_) hunique r
    rw [hsingle k hk]
    exact List.mem_singleton.2 rfl

/-- The lines of orders, told apart by the order and a number in it. -/
def orderItems : Schema where
  identifier := ["shop", "order_items"]
  columns := [
    { name := "order_id", type := "int", nullable := false, field := some "order" },
    { name := "line_no", type := "smallint", nullable := false, field := some "line" },
    { name := "sku", type := "VARCHAR(20)", nullable := false },
    { name := "qty", type := "integer" }, { name := "note", type := "nvarchar(max)" }]
  primaryKeys := ["order_id", "line_no"]

/-- An update of the first line alone. -/
def clearFirstItem : Update where
  query := orderItems.firstRow
  assignments := [.assign "qty" (.int 0) none]

/-- A line of the seventh order. -/
def item (line : Int) : Row := fun c => if c = "line_no" then .int line else .int 7

/-- The update of one line of an order is for every line of the order. -/
theorem clearFirstItem_meets_second :
    (∃ statement events,
      (Request.update clearFirstItem).compile (.ok {}) .postgres =
          .ok (some (statement, events)) ∧
        statement.sql = "UPDATE \"shop\".\"order_items\" SET \"qty\"=$1 WHERE ( " ++
          "\"shop\".\"order_items\".\"order_id\" IN ( SELECT t1.\"order_id\" " ++
          "FROM \"shop\".\"order_items\" t1 LIMIT 1 ) )") ∧
      orderItems.KeysUnique [item 1, item 2] ∧
      Engine.permissive.picked clearFirstItem.query [item 1, item 2] = [item 1] ∧
      Engine.permissive.Meets ["order_id"] clearFirstItem.query [item 1, item 2] (item 2) ∧
      item 2 ∉ Engine.permissive.picked clearFirstItem.query [item 1, item 2] := by
  have hpicked : Engine.permissive.picked clearFirstItem.query [item 1, item 2] = [item 1] := rfl
  have hlines : item 1 "line_no" ≠ item 2 "line_no" := by simp [item]
  refine ⟨⟨_, _, rfl, rfl⟩, ?_, hpicked, ?_, ?_⟩
  · exact List.pairwise_pair.2 ⟨"line_no", by decide, hlines⟩
  · refine ⟨by simp, item 1, ?_, ?_⟩
    · rw [hpicked]
      exact List.mem_singleton.2 rfl
    · intro c hc
      rw [List.mem_singleton.1 hc]
      rfl
  · rw [hpicked, List.mem_singleton]
    intro heq
    exact hlines (by rw [heq])

end Update

end SqlCompose
