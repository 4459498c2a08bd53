import SqlCompose.Proofs.Statement.Clear
import SqlCompose.Proofs.Statement.Placeholder

/-!
# Statements are read back

A reader of a compiled statement finds the placeholders one to `n` in this
order and no others, where `n` is the number of the statement's values, and
the values are those of the request in the order in which the statement
writes them.  Nothing that is quoted counts, whatever quotes, question marks
and digits are in it.

Every layout is clear, as its parts meet at words that keep them apart, and
its placeholders are numbered one for each value (`Request.marks_of_layout`).
Only the literal parts of manual fragments are asked for something: they are
the one place where a caller's text is written as it is.

## Main results

* `Clause.isClear_layout`, `Query.isClear_layoutParts` — conditions are
  clear, nested to any depth.
* `Request.isClear_of_layout` — so are the statements.
* `Request.placeholders_of_compile` — what a reader of a compiled statement
  finds.
-/

namespace SqlCompose

open Fragment

variable {b : BuiltIn} {q : Qualifier}

/-! ## The end of a query -/

/-- A window is written in plain words and numbers. -/
theorem IsWindowText.isPlainText {t : String} (h : IsWindowText t) : b.isPlainText t = true := by
  have hwords : ∀ w ∈ pagingWords, b.isPlainText w = true := by cases b <;> decide
  induction h with
  | word hw => exact hwords _ hw
  | number n => exact isPlainText_toString b n
  | space _ _ iht ihu =>
      exact isPlainText_append (isPlainText_append iht (by cases b <;> decide)) ihu

/-- The end of a query is clear. -/
theorem isClear_tail {ρ : Type} (hq : q.isOwn = true) (s : Selection ρ) :
    IsClear b ((s.tail (.ofBuiltIn b) q).getD []) := by
  have hitem : ∀ o : OrderItem, IsClear b (o.fragment q) := by
    intro o
    have hkeyword : IsClear b [.word o.direction.keyword] := by
      cases o.direction with
      | ascending => exact isClear_nil.opened (by decide)
      | descending => exact isClear_nil.opened (by decide)
    exact (isClear_column hq o.column).between hkeyword (by decide)
  have hordering : ∀ paged : Bool, IsClear b
      ((ordering (.ofBuiltIn b) (s.order.map (OrderItem.fragment q)) paged).getD []) := by
    intro paged
    cases horder : s.order.map (OrderItem.fragment q) with
    | nil =>
        unfold ordering
        simp only []
        split
        · exact isClear_nil.opened (by decide)
        · exact isClear_nil
    | cons f rest =>
        have hitems : ∀ g ∈ f :: rest, IsClear b g := by
          intro g hg
          rw [← horder] at hg
          obtain ⟨o, -, rfl⟩ := List.mem_map.1 hg
          exact hitem o
        exact (isClear_joinWith hitems (by decide)).opened (by decide)
  rw [Selection.tail, getD_tail]
  refine isClear_spaced fun part hpart => ?_
  simp only [List.mem_cons, List.not_mem_nil, or_false] at hpart
  rcases hpart with rfl | rfl
  · exact hordering _
  · cases hwindow : window (.ofBuiltIn b) (s.limit.map boundValue) (s.offset.map boundValue) with
    | none => exact isClear_nil
    | some t => exact isClear_nil.plain (IsWindowText.of_window hwindow).isPlainText

/-! ## Conditions -/

theorem isClear_conjunction {parts : List Fragment} (h : ∀ f ∈ parts, IsClear b f) :
    IsClear b ((conjunction parts).getD []) := by
  cases parts with
  | nil => exact isClear_nil
  | cons f rest =>
      have hjoined : IsClear b (joinWith " AND " (f :: rest)) := isClear_joinWith h (by decide)
      exact (hjoined.opened (by decide)).closed (by decide)

theorem isClear_rowsFrom {columns : Fragment} {condition ending : Option Fragment}
    (hcolumns : IsClear b columns) (hcondition : IsClear b (condition.getD []))
    (hending : IsClear b (ending.getD [])) (identifier : List String) (number : Nat) :
    IsClear b (rowsFrom columns identifier number condition ending) := by
  have hselect : IsClear b (.word "SELECT " :: columns) := hcolumns.opened (by decide)
  have hfrom := hselect.between (t := " FROM ") (isClear_table identifier) (by decide)
  have hhead := hfrom.between (t := " ") (isClear_alias number) (by decide)
  refine isClear_spaced fun part hpart => ?_
  simp only [List.mem_cons, List.not_mem_nil, or_false] at hpart
  rcases hpart with rfl | rfl | rfl
  · exact hhead
  · exact hcondition
  · exact hending

theorem isClear_existence {outer : Fragment} {parts : List Fragment} (houter : IsClear b outer)
    (hparts : ∀ f ∈ parts, IsClear b f) (negated : Bool) (identifier : List String)
    (number : Nat) (innerColumn : String) :
    IsClear b (existence (if negated then "NOT EXISTS" else "EXISTS") identifier number
      innerColumn outer parts) := by
  have hinner : IsClear b ((Qualifier.tableAlias number).column innerColumn) :=
    isClear_column rfl innerColumn
  have hjoined := isClear_joinWith (t := " AND ")
    (List.forall_mem_cons.2 ⟨hinner.between (t := " = ") houter (by decide), hparts⟩) (by decide)
  have hwhere := (isClear_alias number).between (t := " WHERE ") hjoined (by decide)
  have hkeyword : IsClear b (.word (if negated then "NOT EXISTS" else "EXISTS") ::
      .word " ( SELECT " :: (Qualifier.tableAlias number).column innerColumn) := by
    cases negated with
    | false => exact (hinner.opened (by decide)).opened (by decide)
    | true => exact (hinner.opened (by decide)).opened (by decide)
  have hfrom := hkeyword.between (t := " FROM ") (isClear_table identifier) (by decide)
  exact (hfrom.between (t := " ") hwhere (by decide)).closed (by decide)

theorem isClear_membership {column rows : Fragment} (hcolumn : IsClear b column)
    (hrows : IsClear b rows) : IsClear b (membership column rows) :=
  (hcolumn.between hrows (by decide)).closed (by decide)

/-! ## Trees of conditions -/

private def Clause.IsReadable (b : BuiltIn) (c : Clause Query) : Prop :=
  (∀ t ∈ c.templates, t.IsPlain b) → ∀ q : Qualifier, q.isOwn = true → ∀ issued aliases,
    IsClear b (c.layout (.ofBuiltIn b) q issued aliases)

private def Query.IsReadable (b : BuiltIn) (query : Query) : Prop :=
  (∀ t ∈ query.templates, t.IsPlain b) → ∀ q : Qualifier, q.isOwn = true → ∀ issued aliases,
    ∀ f ∈ query.layoutParts (.ofBuiltIn b) q issued aliases, IsClear b f

private theorem isClear_layoutAll_of_forall {cs : List (Clause Query)}
    (h : ∀ c ∈ cs, c.IsReadable b) (hplain : ∀ t ∈ Clause.templatesAll cs, t.IsPlain b)
    (hq : q.isOwn = true) (issued aliases : Nat) :
    ∀ f ∈ Clause.layoutAll (.ofBuiltIn b) q issued aliases cs, IsClear b f := by
  induction cs generalizing issued aliases with
  | nil => simp [Clause.layoutAll]
  | cons c rest ih =>
      rw [Clause.templatesAll_cons, List.forall_mem_append] at hplain
      have hc := h c List.mem_cons_self hplain.1 q hq issued aliases
      have hrest := ih (fun c' hc' => h c' (List.mem_cons_of_mem _ hc')) hplain.2
      rw [Clause.layoutAll_cons]
      exact List.forall_mem_cons.2 ⟨hc, hrest _ _⟩

private theorem isReadable_hereditary (b : BuiltIn) :
    Hereditary (Clause.IsReadable b) (Query.IsReadable b) where
  compare column op value negated table _ q hq issued aliases := by
    have hcolumn : IsClear b (q.column column) := isClear_column hq column
    have hsymbol : b.isPlainText ((Dialect.ofBuiltIn b).operator op.symbol) = true := by
      cases op <;> cases b <;> decide
    rw [Clause.layout]
    split
    · cases negated with
      | false => exact hcolumn.closed (by decide)
      | true => exact hcolumn.closed (by decide)
    · have hmark : IsClear b [.word " ", .mark (issued + 1)] := (isClear_mark _).opened (by decide)
      exact hcolumn.between (hmark.plain hsymbol) (by decide)
  assign column value table _ q hq issued aliases := by
    rw [Clause.layout]
    exact (isClear_column hq column).between (isClear_mark _) (by decide)
  assignNull column table _ q hq issued aliases := by
    rw [Clause.layout]
    exact (isClear_column hq column).closed (by decide)
  manual column template table hplain q hq issued aliases := by
    rw [Clause.layout]
    exact isClear_column_weave hq column (hplain template (by simp [Clause.templates])) _
  related column inner innerColumn negated ih hplain q hq issued aliases := by
    have hinner : ∀ t ∈ inner.templates, t.IsPlain b := by
      simpa [Clause.templates, Query.templates] using hplain
    rw [Clause.layout]
    exact isClear_existence (isClear_column hq column) (ih hinner _ rfl _ _) _ _ _ _
  among query column ih hplain q hq issued aliases := by
    have hinner : ∀ t ∈ query.templates, t.IsPlain b := by
      simpa [Clause.templates, Query.templates] using hplain
    have hcondition := isClear_conjunction (ih hinner (.tableAlias (aliases + 1)) rfl issued
      (aliases + 1))
    have hending : IsClear b ((query.selection.tail (.ofBuiltIn b)
      (.tableAlias (aliases + 1))).getD []) := isClear_tail rfl query.selection
    rw [Clause.layout]
    exact isClear_membership (isClear_column hq _)
      (isClear_rowsFrom (isClear_column rfl _) hcondition hending _ _)
  selection s hconditions hrelated hplain q hq issued aliases := by
    rw [Query.templates_mk, List.forall_mem_append] at hplain
    rw [Query.layoutParts_mk, List.forall_mem_append]
    exact ⟨isClear_layoutAll_of_forall hconditions hplain.1 hq _ _,
      isClear_layoutAll_of_forall hrelated hplain.2 hq _ _⟩
  unwritable schema reason _ q hq issued aliases := by
    rw [Query.layoutParts]
    simp

/-- A clause is clear, whatever is nested in it, if its manual fragments are plain. -/
theorem Clause.isClear_layout {c : Clause Query} (hplain : ∀ t ∈ c.templates, t.IsPlain b)
    (hq : q.isOwn = true) (issued aliases : Nat) :
    IsClear b (c.layout (.ofBuiltIn b) q issued aliases) :=
  (isReadable_hereditary b).clause c hplain q hq issued aliases

theorem Clause.isClear_layoutAll {cs : List (Clause Query)}
    (hplain : ∀ t ∈ Clause.templatesAll cs, t.IsPlain b) (hq : q.isOwn = true)
    (issued aliases : Nat) :
    ∀ f ∈ Clause.layoutAll (.ofBuiltIn b) q issued aliases cs, IsClear b f :=
  isClear_layoutAll_of_forall (fun c _ => (isReadable_hereditary b).clause c) hplain hq issued
    aliases

/-- The conditions of a query are clear if its manual fragments are plain. -/
theorem Query.isClear_layoutParts {query : Query} (hplain : ∀ t ∈ query.templates, t.IsPlain b)
    (hq : q.isOwn = true) (issued aliases : Nat) :
    ∀ f ∈ query.layoutParts (.ofBuiltIn b) q issued aliases, IsClear b f :=
  (isReadable_hereditary b).query query hplain q hq issued aliases

/-! ## Statements on queries -/

theorem Selection.isClear_rowsLayout {s : Selection Query}
    (hplain : ∀ t ∈ (Query.mk s).templates, t.IsPlain b) {columns : Fragment}
    (hcolumns : IsClear b columns) (order : List OrderItem) (issued aliases : Nat) :
    IsClear b (s.rowsLayout (.ofBuiltIn b) columns order issued aliases) :=
  isClear_rowsFrom hcolumns (isClear_conjunction (Query.isClear_layoutParts hplain rfl _ _))
    (isClear_tail rfl _) _ _

theorem Selection.isClear_fetchLayout {s : Selection Query}
    (hplain : ∀ t ∈ (Query.mk s).templates, t.IsPlain b) (issued aliases : Nat) :
    IsClear b (s.fetchLayout (.ofBuiltIn b) issued aliases) := by
  have hcolumns : IsClear b (allColumns (.tableAlias (aliases + 1)) s.schema) := by
    refine isClear_joinWith (fun f hf => ?_) (by decide)
    obtain ⟨c, -, rfl⟩ := List.mem_map.1 hf
    exact isClear_column rfl c.name
  exact isClear_rowsLayout hplain hcolumns s.order issued aliases

theorem Selection.isClear_countLayout {s : Selection Query}
    (hplain : ∀ t ∈ (Query.mk s).templates, t.IsPlain b) (issued aliases : Nat) :
    IsClear b (s.countLayout (.ofBuiltIn b) issued aliases) := by
  have hcount : countWords ∈ BuiltIn.openingWords := by decide
  unfold countLayout
  split
  · have hlist : IsClear b (s.listLayout (.ofBuiltIn b) issued aliases) :=
      isClear_rowsLayout hplain (isClear_column rfl _) _ _ _
    have hfrom : IsClear b (.word " FROM ( " :: s.listLayout (.ofBuiltIn b) issued aliases) :=
      hlist.opened (by decide)
    exact ((hfrom.opened hcount).opened (by decide)).between (isClear_alias _) (by decide)
  · exact isClear_rowsLayout hplain (isClear_nil.opened hcount) _ _ _

theorem Update.isClear_layout {u : Update}
    (hassign : ∀ t ∈ Clause.templatesAll u.assignments, t.IsPlain b)
    (hquery : ∀ t ∈ (Query.mk u.query).templates, t.IsPlain b) (issued aliases : Nat) :
    IsClear b (u.layout (.ofBuiltIn b) issued aliases) := by
  have hassignments := isClear_joinWith (t := ", ")
    (Clause.isClear_layoutAll (q := .none) hassign rfl issued aliases) (by decide)
  have htable : IsClear b (.word "UPDATE " :: table u.query.schema.identifier) :=
    (isClear_table u.query.schema.identifier).opened (by decide)
  have hhead := htable.between (t := " SET ") hassignments (by decide)
  have hcondition : ∀ issued aliases,
      IsClear b ((u.conditionLayout (.ofBuiltIn b) issued aliases).getD []) := by
    intro issued aliases
    refine isClear_conjunction ?_
    split
    · have hmember : ∀ t ∈ u.member.templates, t.IsPlain b := by
        simpa [member, Clause.templates, Query.templates] using hquery
      simpa using Clause.isClear_layout hmember rfl issued aliases
    · exact Query.isClear_layoutParts hquery rfl issued aliases
  refine isClear_spaced fun part hpart => ?_
  simp only [List.mem_cons, List.not_mem_nil, or_false] at hpart
  rcases hpart with rfl | rfl
  · exact hhead
  · exact hcondition _ _

/-! ## Statements on one row -/

private theorem isClear_equalities {separator : String}
    (h : separator ∈ BuiltIn.spacingWords) (columns : List Column) (first : Nat) :
    IsClear b (joinWith separator (Column.numbered Column.equality columns first)) := by
  refine isClear_joinWith (fun f hf => ?_) h
  obtain ⟨⟨c, n⟩, -, rfl⟩ := List.mem_map.1 hf
  exact (isClear_name c.name).between (isClear_mark n) (by decide)

theorem Record.isClear_keyLayout (s : Schema) (first : Nat) : IsClear b (keyLayout s first) :=
  isClear_equalities (by decide) s.keyColumns first

theorem Record.isClear_updateLayout (s : Schema) (first : Nat) :
    IsClear b (updateLayout s first) := by
  have htable : IsClear b (.word "UPDATE " :: table s.identifier) :=
    (isClear_table s.identifier).opened (by decide)
  have hassignments : IsClear b
      (joinWith ", " (Column.numbered Column.equality s.plainColumns first)) :=
    isClear_equalities (by decide) s.plainColumns first
  have hhead := htable.between (t := " SET ") hassignments (by decide)
  exact hhead.between (isClear_keyLayout s _) (by decide)

theorem Record.isClear_deleteLayout (s : Schema) (first : Nat) :
    IsClear b (deleteLayout s first) := by
  have htable : IsClear b (.word "DELETE FROM " :: table s.identifier) :=
    (isClear_table s.identifier).opened (by decide)
  exact htable.between (isClear_keyLayout s first) (by decide)

private theorem isClear_cells (columns : List Column) (first : Nat) :
    IsClear b (joinWith ", " ((Column.numbered Column.cell columns first).map Prod.fst)) ∧
      IsClear b (joinWith ", " ((Column.numbered Column.cell columns first).map Prod.snd)) := by
  constructor
  · refine isClear_joinWith (fun f hf => ?_) (by decide)
    obtain ⟨cell, hcell, rfl⟩ := List.mem_map.1 hf
    obtain ⟨⟨c, n⟩, -, rfl⟩ := List.mem_map.1 hcell
    exact isClear_name c.name
  · refine isClear_joinWith (fun f hf => ?_) (by decide)
    obtain ⟨cell, hcell, rfl⟩ := List.mem_map.1 hf
    obtain ⟨⟨c, n⟩, -, rfl⟩ := List.mem_map.1 hcell
    exact isClear_mark n

theorem Record.isClear_insertLayout {r : Record} {s : Schema} {first : Nat} {f : Fragment}
    (h : r.insertLayout s (.ofBuiltIn b) first = .ok f) : IsClear b f := by
  obtain ⟨hnames, hmarks⟩ := isClear_cells (b := b) (r.given s) first
  have hstored : IsClear b (joinWith ", "
      (s.columns.map fun c => [Piece.word "Inserted.", .name c.name])) := by
    refine isClear_joinWith (fun f hf => ?_) (by decide)
    obtain ⟨c, -, rfl⟩ := List.mem_map.1 hf
    exact (isClear_name c.name).opened (by decide)
  have htable : IsClear b (.word "INSERT INTO " :: table s.identifier) :=
    (isClear_table s.identifier).opened (by decide)
  have hhead := htable.between (t := " (") hnames (by decide)
  obtain ⟨-, form, hform, rfl⟩ := exists_of_insertLayout h
  rcases Dialect.rowReturn?_ofBuiltIn hform with ⟨-, rfl⟩ | ⟨-, rfl⟩
  · exact (hhead.between hmarks (by decide)).closed (by decide)
  · exact ((hhead.between hstored (by decide)).between hmarks (by decide)).closed (by decide)

namespace Request

/-- The layout of a request is clear if its manual fragments are plain. -/
theorem isClear_of_layout {request : Request} (hplain : ∀ t ∈ request.templates, t.IsPlain b)
    {f : Fragment} (hf : request.layout (.ofBuiltIn b) = .ok f) : IsClear b f := by
  cases request with
  | fetch s =>
      cases hf
      exact Selection.isClear_fetchLayout hplain 0 0
  | count s =>
      cases hf
      exact Selection.isClear_countLayout hplain 0 0
  | update u =>
      cases hf
      obtain ⟨hassign, hquery⟩ := List.forall_mem_append.1 hplain
      exact Update.isClear_layout hassign hquery 0 0
  | updateRow r s =>
      cases hf
      exact Record.isClear_updateLayout s 1
  | deleteRow r s =>
      cases hf
      exact Record.isClear_deleteLayout s 1
  | insertRow r s => exact Record.isClear_insertLayout hf

/--
A reader of a compiled statement finds the placeholders one to `n` in this
order and no others, where `n` is the number of its values; the values are
those that the request binds, in the order in which it is written; and `n`
placeholders were given out while it was written.
-/
theorem placeholders_of_compile {request : Request} {settings : Except Error Settings}
    {statement : Statement} {events : List Event}
    (hplain : ∀ t ∈ request.templates, t.IsPlain b)
    (h : request.compile settings (.ofBuiltIn b) = .ok (some (statement, events))) :
    (b.lexicon.tokens statement.sql.toList).filterMap Token.mark? =
        (List.range' 1 statement.args.length).map
          (fun n => (Dialect.ofBuiltIn b).placeholder (toString n)) ∧
      (∃ vs, request.bound = .ok vs ∧ statement.args = vs.map Value.toBind) ∧
      ∀ w, request.blueprint = .ok (some w) →
        (Writing.outcome (w (.ofBuiltIn b)) {}).2.issued = statement.args.length := by
  obtain ⟨f, vs, hlayout, hbound, hsql, hargs, hissued⟩ := exists_of_compile h
  have hread := (isClear_of_layout hplain hlayout).tokens_text
  have hmarks := marks_of_layout hlayout hbound
  refine ⟨?_, ⟨vs, hbound, hargs⟩, hissued⟩
  rw [hsql, hread, filterMap_mark_tokens, hmarks, hargs, List.length_map]

/-- Orders whose note goes by a name with a quote and a placeholder in it. -/
def notedOrders : Schema where
  identifier := ["shop", "orders"]
  columns := [{ name := "id", type := "int" }, { name := "note\"$9", type := "text" }]
  primaryKeys := ["id"]

/-- A manual fragment and a sub-query, both with values, after a condition on the note. -/
def unrelatedOrders : Request := .fetch {
  schema := notedOrders
  conditions := [.compare "note\"$9" .eq (.text "$7") false none,
    .manual "id" ⟨" between ? and ?", [.int 1, .unset], by rfl⟩ none]
  related := [.related "id"
    (.mk { schema := notedOrders, conditions := [.compare "id" .gt (.int 5) false none] }) "id" true] }

/-- What looks like a placeholder in a name or in a value is none. -/
theorem placeholders_unrelatedOrders :
    (∀ t ∈ unrelatedOrders.templates, t.IsPlain .postgres) ∧
      ∃ statement events,
        unrelatedOrders.compile (.ok {}) (.ofBuiltIn .postgres) = .ok (some (statement, events)) ∧
          (BuiltIn.postgres.lexicon.tokens statement.sql.toList).filterMap Token.mark? =
            ["$1", "$2", "$3", "$4"] ∧
          statement.args = [.text "$7", .int 1, .null, .int 5] := by
  have hplain : ∀ t ∈ unrelatedOrders.templates, t.IsPlain .postgres := by decide
  obtain ⟨statement, events, hcompile, hargs⟩ : ∃ statement events,
      unrelatedOrders.compile (.ok {}) (.ofBuiltIn .postgres) = .ok (some (statement, events)) ∧
        statement.args = [.text "$7", .int 1, .null, .int 5] := ⟨_, _, rfl, rfl⟩
  have hread := (placeholders_of_compile hplain hcompile).1
  rw [hargs] at hread
  exact ⟨hplain, statement, events, hcompile, hread, hargs⟩

end Request

end SqlCompose
