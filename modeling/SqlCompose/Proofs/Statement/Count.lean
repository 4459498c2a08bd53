import SqlCompose.Proofs.Statement.Alias
import SqlCompose.Proofs.Statement.Request

/-!
# Counting agrees with fetching

A count is written after the rows that it counts: the same source with the
same conditions, and for a window the same order and the same window, so that
it counts the rows that a fetch returns.  The two statements bind the same
values, and where one is compiled so is the other.

What stands after the columns of a list of rows is taken apart into where the
rows come from (`Selection.source`) and in which order and between which
bounds (`Selection.ending`); only the first is left in the count of all rows.

## Main results

* `Selection.text_rowsLayout` — a list of rows is its columns, its source and
  its ending.
* `Selection.alias_fresh` — the alias of a counted list is none of those in it.
* `Request.count_of_fetch` — the count of what can be fetched.
-/

namespace SqlCompose

open Fragment

/-- Whether a dialect writes no window where none is asked for. -/
def Dialect.PagesOnRequest (d : Dialect) : Prop := ∀ t ∈ d.paging none none, t = ""

/-- The library's own dialects write no window where none is asked for. -/
theorem Dialect.pagesOnRequest_ofBuiltIn (b : BuiltIn) : (ofBuiltIn b).PagesOnRequest := by
  intro t ht
  cases b <;> cases ht

/-- A variation pages like the dialect that it varies. -/
theorem Dialect.PagesOnRequest.vary {d : Dialect} (h : d.PagesOnRequest) (v : Variation) :
    (d.vary v).PagesOnRequest := h

namespace Selection

/-! ## What stands after the columns -/

/-- Where the rows of a query come from, and which of them it picks. -/
def source (d : Dialect) (s : Selection Query) (issued aliases : Nat) : Fragment :=
  .word "FROM " :: table s.schema.identifier ++ [.word " ", .tableAlias (aliases + 1)] ++
    behindSpace
      (conjunction (Query.layoutParts d (.tableAlias (aliases + 1)) issued (aliases + 1) (.mk s)))

/-- The order of the rows and the window, if there is either. -/
def ending (d : Dialect) (s : Selection Query) (order : List OrderItem) (aliases : Nat) :
    Fragment :=
  behindSpace ({ s with order }.tail d (.tableAlias (aliases + 1)))

/-- A list of rows is its columns, its source and its ending. -/
theorem text_rowsLayout (d : Dialect) (s : Selection Query) (columns : Fragment)
    (order : List OrderItem) (issued aliases : Nat) :
    (s.rowsLayout d columns order issued aliases).text d =
      "SELECT " ++ columns.text d ++ " " ++
        (s.source d issued aliases ++ s.ending d order aliases).text d := by
  have hfrom : " FROM " = " " ++ "FROM " := by decide
  rw [rowsLayout, rowsFrom, spaced_some_cons]
  simp only [source, ending, List.flatMap_cons, List.flatMap_nil, text_append, text_cons,
    text_nil, Piece.text, hfrom, String.append_assoc, String.append_empty]

/-- Without a window what ends a list of rows is their order alone. -/
theorem ending_of_not_paged {d : Dialect} (hd : d.PagesOnRequest) {s : Selection Query}
    (h : s.isPaged = false) (order : List OrderItem) (aliases : Nat) :
    s.ending d order aliases =
      match order with
      | [] => []
      | o :: rest => .word " " :: .word "ORDER BY " ::
        joinWith ", " ((o :: rest).map (OrderItem.fragment (.tableAlias (aliases + 1)))) := by
  have hbounds : s.limit = none ∧ s.offset = none := by
    simpa [isPaged] using h
  have hpaging : (d.paging none none).filter (fun t => !t.isEmpty) = none := by
    rw [Option.filter_eq_none_iff]
    intro t ht
    simp [hd t ht]
  unfold ending Selection.tail SqlCompose.tail
  rw [hbounds.1, hbounds.2, Option.map_none, hpaging]
  cases order with
  | nil => rfl
  | cons o rest => simp [behindSpace, spaced_some_cons]

/-- What ends a list of rows without a window is empty or an order. -/
theorem text_ending_of_not_paged {d : Dialect} (hd : d.PagesOnRequest) {s : Selection Query}
    (h : s.isPaged = false) (order : List OrderItem) (aliases : Nat) :
    (s.ending d order aliases).text d = "" ∨
      ∃ items, (s.ending d order aliases).text d = " ORDER BY " ++ items := by
  have hspace : " " ++ "ORDER BY " = " ORDER BY " := by decide
  rw [ending_of_not_paged hd h]
  cases order with
  | nil => exact .inl rfl
  | cons o rest =>
      right
      simp only [text_cons, Piece.text]
      rw [← String.append_assoc, hspace]
      exact ⟨_, rfl⟩

/-- All rows are counted from their source, whatever their order. -/
theorem text_countLayout_of_not_paged {d : Dialect} (hd : d.PagesOnRequest)
    {s : Selection Query} (h : s.isPaged = false) (issued aliases : Nat) :
    (s.countLayout d issued aliases).text d =
      "SELECT COUNT(*) " ++ (s.source d issued aliases).text d := by
  have hwords : "SELECT " ++ text d [.word countWords] ++ " " = "SELECT COUNT(*) " := by
    rw [text_cons, text_nil, Piece.text]
    decide
  rw [countLayout, h, if_neg Bool.false_ne_true, text_rowsLayout, hwords,
    ending_of_not_paged hd h, List.append_nil]

/-- The rows of a window are counted as a list by one column, under an alias. -/
theorem text_countLayout_of_paged (d : Dialect) {s : Selection Query} (h : s.isPaged = true)
    (issued aliases : Nat) :
    (s.countLayout d issued aliases).text d =
      "SELECT COUNT(*) FROM ( SELECT " ++ aliasText (aliases + 1) ++ "." ++
        d.quote (listingName s.schema) ++ " " ++ (s.source d issued aliases).text d ++
        (s.ending d s.order aliases).text d ++ " ) " ++
        aliasText (aliases + (Query.mk s).subqueries.length + 2) := by
  have hwords : "SELECT COUNT(*) FROM ( SELECT " =
      "SELECT " ++ (countWords ++ (" FROM ( " ++ "SELECT ")) := by decide
  have hlist : (s.listLayout d issued aliases).text d =
      "SELECT " ++ (aliasText (aliases + 1) ++ ("." ++ d.quote (listingName s.schema))) ++ " " ++
        ((s.source d issued aliases).text d ++ (s.ending d s.order aliases).text d) := by
    rw [listLayout, text_rowsLayout, text_append]
    simp only [Qualifier.column, text_cons, text_nil, Piece.text, String.append_empty]
  rw [countLayout, h, if_pos rfl, text_append, text_cons, text_cons, text_cons, hlist]
  simp only [text_cons, text_nil, Piece.text, hwords, String.append_empty, String.append_assoc]

/-! ## Aliases of a counted list -/

/-- The alias of a counted list is none of those in it. -/
theorem alias_fresh (d : Dialect) (s : Selection Query) (order : List OrderItem)
    (issued aliases : Nat) :
    ∀ n, .tableAlias n ∈ s.source d issued aliases ++ s.ending d order aliases →
      aliasText n ≠ aliasText (aliases + (Query.mk s).subqueries.length + 2) := by
  intro n hn htext
  have hself : ∀ n ∈ (Qualifier.tableAlias (aliases + 1)).alias?, n ≤ aliases + 1 := by
    intro n hn
    cases hn
    exact Nat.le_refl _
  have hparts := Query.aliases_layoutParts_le d hself issued (.mk s)
  have hle : n ≤ aliases + 1 + (Query.mk s).subqueries.length := by
    rw [← mem_aliases] at hn
    simp only [source, ending, aliases_append, aliases_cons, aliases_table, aliases_behindSpace,
      aliases_nil, Piece.alias?, Option.toList_none, Option.toList_some, List.nil_append,
      List.mem_append, List.mem_singleton, List.mem_nil_iff, or_false] at hn
    rcases hn with (rfl | hn) | hn
    · omega
    · exact aliases_conjunction_le hparts n hn
    · have := aliases_tail_le hself { s with order } n hn
      omega
  have heq := aliasText_inj.1 htext
  omega

end Selection

/-! ## The two statements -/

/-- What is settled can be settled under another text and with fewer values. -/
theorem Draft.exists_settle_of_le {settings : Settings} {d : Dialect} {draft draft' : Draft}
    {sql : String} {finished : Statement × List Event}
    (h : draft.settle settings d sql = .ok finished) (hle : draft'.args.size ≤ draft.args.size)
    (sql' : String) :
    ∃ events, draft'.settle settings d sql' = .ok (⟨sql', draft'.args.toList, d.name⟩, events) := by
  unfold settle at h ⊢
  split at h
  · cases h
  · rename_i hfits
    have hfits' : ¬ (settings.enforceLimit && draft'.isOverLimit d) = true := by
      simp only [isOverLimit, Bool.and_eq_true, decide_eq_true_eq, not_and] at hfits ⊢
      intro henforced
      have := hfits henforced
      omega
    exact ⟨_, if_neg hfits'⟩

/-- What a step with a description compiles to, where the step has no fault. -/
theorem Blueprint.compile_of_spec {b : Blueprint} {d : Dialect} {values : List Value}
    {taken : Nat} {answer : Nat → Nat → Fragment}
    (h : Writing.Spec (b d) [] values taken answer) (settings : Except Error Settings) :
    b.compile settings d = settings >>= fun s =>
      (Draft.advance {} values taken).settle s d ((answer 0 0).text d) := by
  unfold compile
  rw [h.writes rfl]
  cases settings <;> rfl

/--
Where a statement is compiled, so is every other one that has no fault and
binds no more values.
-/
theorem Blueprint.exists_compile_of_le {b b' : Blueprint} {settings : Except Error Settings}
    {d : Dialect} {statement : Statement} {events : List Event} {values : List Value}
    {taken : Nat} {answer : Nat → Nat → Fragment}
    (h : b.compile settings d = .ok (statement, events))
    (hspec : Writing.Spec (b' d) [] values taken answer)
    (hle : values.length ≤ statement.args.length) :
    ∃ events', b'.compile settings d =
      .ok (⟨(answer 0 0).text d, values.map Value.toBind, d.name⟩, events') := by
  obtain ⟨f, draft, chosen, -, rfl, hsettle⟩ := exists_settle_of_compile h
  obtain rfl := Draft.eq_of_settle hsettle
  have hsize : (Draft.advance {} values taken).args.size ≤ draft.args.size := by
    simpa [Draft.advance] using hle
  obtain ⟨events', hsettle'⟩ := Draft.exists_settle_of_le hsettle hsize ((answer 0 0).text d)
  have hargs : (Draft.advance {} values taken).args.toList = values.map Value.toBind := by
    simp [Draft.advance]
  rw [hargs] at hsettle'
  exact ⟨events', (compile_of_spec hspec _).trans hsettle'⟩

namespace Selection

/-- A table with columns has one by which its rows are listed. -/
theorem exists_listingColumn {s : Schema} (h : s.columns ≠ []) :
    ∃ c, listingColumn s = .ok c := by
  unfold listingColumn
  split
  · exact ⟨_, rfl⟩
  · rename_i hnil
    exact absurd (List.append_eq_nil_iff.1 hnil).2 h

/-- Rows that can be listed can be counted where they can be fetched. -/
theorem countFaults_eq_nil {d : Dialect} {s : Selection Query} {c : Column}
    (hlisting : listingColumn s.schema = .ok c) (hfaults : (Query.mk s).faults d = []) :
    s.countFaults d = [] := by
  unfold countFaults
  rw [hfaults, hlisting]
  split <;> rfl

end Selection

namespace Request

/-- What can be fetched can be counted, with the same values. -/
theorem exists_count_of_fetch {s : Selection Query} (hcolumns : s.schema.columns ≠ [])
    {settings : Except Error Settings} {d : Dialect} {statement : Statement}
    {events : List Event}
    (h : (Request.fetch s).compile settings d = .ok (some (statement, events))) :
    statement.sql = (s.fetchLayout d 0 0).text d ∧
      ∃ events', (Request.count s).compile settings d =
        .ok (some ({ statement with sql := (s.countLayout d 0 0).text d }, events')) := by
  obtain ⟨b, hb, hfetch⟩ := exists_blueprint_of_compile h
  cases hb
  obtain ⟨hfaults, rfl⟩ := Blueprint.eq_of_compile_spec hfetch (s.spec_fetch d)
  obtain ⟨c, hlisting⟩ := Selection.exists_listingColumn hcolumns
  have hcounted := s.spec_count d
  rw [Selection.countFaults_eq_nil hlisting hfaults] at hcounted
  obtain ⟨events', hcount⟩ :=
    Blueprint.exists_compile_of_le hfetch hcounted (Nat.le_of_eq (List.length_map _).symm)
  exact ⟨rfl, events', congrArg (some <$> ·) hcount⟩

/--
The count of what can be fetched: it is compiled with the same values.
Without a window it counts the rows of the same source, and nothing but the
order is left out, in every dialect that writes no window where none is asked
for; a window is counted as the list of its rows by one column, with the same
source, order and window, under an alias that is not in it.
-/
theorem count_of_fetch {s : Selection Query} (hcolumns : s.schema.columns ≠ [])
    {d : Dialect} {settings : Except Error Settings} {statement : Statement} {events : List Event}
    (h : (Request.fetch s).compile settings d = .ok (some (statement, events))) :
    let columns := (Selection.allColumns (.tableAlias 1) s.schema).text d
    let source := (s.source d 0 0).text d
    let ending := (s.ending d s.order 0).text d
    ∃ counted events', (Request.count s).compile settings d = .ok (some (counted, events')) ∧
      counted.args = statement.args ∧
      statement.sql = "SELECT " ++ columns ++ " " ++ source ++ ending ∧
      (s.isPaged = false → d.PagesOnRequest →
        counted.sql = "SELECT COUNT(*) " ++ source ∧
          (ending = "" ∨ ∃ items, ending = " ORDER BY " ++ items)) ∧
      (s.isPaged = true →
        ∃ key outer, (s.schema.keyColumns ++ s.schema.columns).head? = some key ∧
          counted.sql = "SELECT COUNT(*) FROM ( SELECT t1." ++ d.quote key.name ++ " " ++
            source ++ ending ++ " ) " ++ aliasText outer ∧
          ∀ n, .tableAlias n ∈ s.source d 0 0 ++ s.ending d s.order 0 →
            aliasText n ≠ aliasText outer) := by
  intro columns source ending
  obtain ⟨hsql, events', hcount⟩ := exists_count_of_fetch hcolumns h
  refine ⟨_, events', hcount, rfl, ?_, ?_, ?_⟩
  · rw [hsql, Selection.fetchLayout, Selection.text_rowsLayout, text_append,
      ← String.append_assoc]
  · intro hpaged hd
    exact ⟨Selection.text_countLayout_of_not_paged hd hpaged 0 0,
      Selection.text_ending_of_not_paged hd hpaged s.order 0⟩
  · intro hpaged
    obtain ⟨key, hkey⟩ : ∃ key, (s.schema.keyColumns ++ s.schema.columns).head? = some key := by
      cases hlist : s.schema.keyColumns ++ s.schema.columns with
      | nil => exact absurd (List.append_eq_nil_iff.1 hlist).2 hcolumns
      | cons c rest => exact ⟨c, rfl⟩
    have hname : Selection.listingName s.schema = key.name := by
      rw [Selection.listingName, hkey]
      rfl
    have hcounted := Selection.text_countLayout_of_paged d hpaged 0 0
    have hfirst : "SELECT COUNT(*) FROM ( SELECT " ++ aliasText (0 + 1) ++ "." =
        "SELECT COUNT(*) FROM ( SELECT t1." := by decide
    rw [hname, hfirst] at hcounted
    exact ⟨key, _, hkey, hcounted, s.alias_fresh d s.order 0 0⟩

/-- Orders with their lines. -/
def orderLines : Schema where
  identifier := ["order_lines"]
  columns := [{ name := "order_id", type := "int" }, { name := "quantity", type := "int" }]
  primaryKeys := ["order_id"]

/-- None of the lines of those orders that have a large line. -/
def largeOrders : Selection Query where
  schema := orderLines
  related := [.related "order_id" (.mk {
    schema := orderLines
    conditions := [.compare "quantity" .gt (.int 99) false none] }) "order_id" false]
  limit := some 0

/-- A window that lets nothing through is counted all the same. -/
theorem count_of_fetch_largeOrders :
    largeOrders.schema.columns ≠ [] ∧ (Dialect.ofBuiltIn .mssql).PagesOnRequest ∧
      ∃ statement events counted events',
        (Request.fetch largeOrders).compile (.ok {}) (.ofBuiltIn .mssql) =
            .ok (some (statement, events)) ∧
          (Request.count largeOrders).compile (.ok {}) (.ofBuiltIn .mssql) =
            .ok (some (counted, events')) ∧
          statement.args = [.int 99] ∧ counted.args = [.int 99] := by
  have hcolumns : largeOrders.schema.columns ≠ [] := by decide
  have hpages := Dialect.pagesOnRequest_ofBuiltIn .mssql
  obtain ⟨statement, events, hfetch, hargs⟩ : ∃ statement events,
      (Request.fetch largeOrders).compile (.ok {}) (.ofBuiltIn .mssql) =
        .ok (some (statement, events)) ∧ statement.args = [.int 99] := ⟨_, _, rfl, rfl⟩
  obtain ⟨counted, events', hcount, hsame, -⟩ := count_of_fetch hcolumns hfetch
  exact ⟨hcolumns, hpages, statement, events, counted, events', hfetch, hcount, hargs,
    hsame.trans hargs⟩

end Request

end SqlCompose
