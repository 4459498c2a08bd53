import SqlCompose.Proofs.Statement.Request

/-!
# Values never reach the text

The outline of a query is what is left of it when its values are taken out:
the table, the tree of its clauses with their columns, operators and manual
texts, the order and the window.  Of the values only two things stay, which
of them a comparison takes for NULL, and how many a manual fragment has.

A query and its outline have the same layout (`Query.layoutParts_outline`), so
whatever has the same outline has the same text.  This is said of requests:
of two that differ in nothing but their values, where both are compiled, the
texts are equal and so are the numbers of values.  No value can change what a
statement says, whatever characters it has.

## Main results

* `Clause.layout_outline`, `Query.layoutParts_outline` — the layout of a tree
  is that of its outline, in every dialect.
* `Request.sql_eq_of_sameOutline` — the two runs.
-/

namespace SqlCompose

/-! ## Outlines of trees -/

/-- A value of which only stays whether it is NULL. -/
def Value.outline (v : Value) : Value := if v.isNull then .null else .bool true

/-- A manual fragment of which only the text and the number of values stay. -/
def Template.outline (t : Template) : Template where
  text := t.text
  values := t.values.map fun _ => .null
  balanced := by simpa using t.balanced

mutual
/-- A clause without its values. -/
def Clause.outline : Clause Query → Clause Query
  | .compare column op value negated table => .compare column op value.outline negated table
  | .assign column _ table => .assign column .null table
  | .assignNull column table => .assignNull column table
  | .manual column template table => .manual column template.outline table
  | .related column inner innerColumn negated =>
    .related column (Query.outline inner) innerColumn negated
  | .among query column => .among (Query.outline query) column

/-- Clauses without their values. -/
def Clause.outlineAll : List (Clause Query) → List (Clause Query)
  | [] => []
  | c :: rest => Clause.outline c :: Clause.outlineAll rest

/-- A query without its values. -/
def Query.outline : Query → Query
  | .unwritable schema reason => .unwritable schema reason
  | .mk ⟨schema, conditions, related, order, limit, offset⟩ =>
    .mk ⟨schema, Clause.outlineAll conditions, Clause.outlineAll related, order, limit, offset⟩
end

/-- What a query says without its values. -/
def Selection.outline (s : Selection Query) : Selection Query :=
  { s with
    conditions := Clause.outlineAll s.conditions
    related := Clause.outlineAll s.related }

theorem Query.outline_mk (s : Selection Query) : (Query.mk s).outline = .mk s.outline := by
  rw [Query.outline.eq_def]
  rfl

/-- Everything but its conditions stays of a query. -/
theorem Query.selection_outline (query : Query) :
    query.outline.selection = query.selection.outline := by
  cases query with
  | mk s => rw [Query.outline_mk, Query.selection_mk, Query.selection_mk]
  | unwritable schema reason =>
      rw [Query.outline]
      simp [Query.selection, Selection.outline, Clause.outlineAll]

@[simp] theorem Value.isNull_outline (v : Value) : v.outline.isNull = v.isNull := by
  unfold Value.outline
  cases h : v.isNull <;> rfl

@[simp] theorem Template.literals_outline (t : Template) : t.outline.literals = t.literals := rfl

@[simp] theorem Template.length_values_outline (t : Template) :
    t.outline.values.length = t.values.length := by
  simp [Template.outline]

/-! ## The layout of an outline -/

/-- That a clause has the layout, and as many values and sub-queries, as its outline. -/
private def Clause.IsOutlined (d : Dialect) (c : Clause Query) : Prop :=
  (∀ q issued aliases, c.outline.layout d q issued aliases = c.layout d q issued aliases) ∧
    c.outline.values.length = c.values.length ∧
    c.outline.subqueries.length = c.subqueries.length

/-- That a query has the layout, and as many values and sub-queries, as its outline. -/
private def Query.IsOutlined (d : Dialect) (query : Query) : Prop :=
  (∀ q issued aliases,
    query.outline.layoutParts d q issued aliases = query.layoutParts d q issued aliases) ∧
    query.outline.values.length = query.values.length ∧
    query.outline.subqueries.length = query.subqueries.length

private theorem outlineAll_of_forall {d : Dialect} {cs : List (Clause Query)}
    (h : ∀ c ∈ cs, c.IsOutlined d) :
    (∀ q issued aliases, Clause.layoutAll d q issued aliases (Clause.outlineAll cs) =
        Clause.layoutAll d q issued aliases cs) ∧
      (Clause.valuesAll (Clause.outlineAll cs)).length = (Clause.valuesAll cs).length ∧
      (Clause.subqueriesAll (Clause.outlineAll cs)).length =
        (Clause.subqueriesAll cs).length := by
  induction cs with
  | nil =>
      rw [Clause.outlineAll]
      exact ⟨fun _ _ _ => rfl, rfl, rfl⟩
  | cons c rest ih =>
      obtain ⟨hlayout, hvalues, hsubqueries⟩ := h c List.mem_cons_self
      obtain ⟨hlayouts, hvaluesAll, hsubqueriesAll⟩ :=
        ih fun c' hc' => h c' (List.mem_cons_of_mem _ hc')
      rw [Clause.outlineAll]
      refine ⟨fun q issued aliases => ?_, ?_, ?_⟩
      · rw [Clause.layoutAll, Clause.layoutAll, hlayout, hvalues, hsubqueries, hlayouts]
      · rw [Clause.valuesAll_cons, Clause.valuesAll_cons, List.length_append,
          List.length_append, hvalues, hvaluesAll]
      · rw [Clause.subqueriesAll_cons, Clause.subqueriesAll_cons, List.length_append,
          List.length_append, hsubqueries, hsubqueriesAll]

private theorem isOutlined_hereditary (d : Dialect) :
    Hereditary (Clause.IsOutlined d) (Query.IsOutlined d) where
  compare column op value negated table := by
    rw [Clause.IsOutlined, Clause.outline]
    refine ⟨fun q issued aliases => ?_, ?_, rfl⟩
    · rw [Clause.layout, Clause.layout, Value.isNull_outline]
    · cases hnull : value.isNull <;> simp [Clause.values, hnull]
  assign column value table := by
    rw [Clause.IsOutlined, Clause.outline]
    exact ⟨fun q issued aliases => by rw [Clause.layout, Clause.layout], rfl, rfl⟩
  assignNull column table := by
    rw [Clause.IsOutlined, Clause.outline]
    exact ⟨fun _ _ _ => rfl, rfl, rfl⟩
  manual column template table := by
    rw [Clause.IsOutlined, Clause.outline]
    refine ⟨fun q issued aliases => ?_, template.length_values_outline, rfl⟩
    rw [Clause.layout, Clause.layout, Template.literals_outline, Template.length_values_outline]
  related column inner innerColumn negated ih := by
    obtain ⟨hlayout, hvalues, hsubqueries⟩ := ih
    rw [Clause.IsOutlined, Clause.outline]
    refine ⟨fun q issued aliases => ?_, hvalues, congrArg (· + 1) hsubqueries⟩
    rw [Clause.layout, Clause.layout, hlayout, Query.selection_outline]
    rfl
  among query column ih := by
    obtain ⟨hlayout, hvalues, hsubqueries⟩ := ih
    rw [Clause.IsOutlined, Clause.outline]
    refine ⟨fun q issued aliases => ?_, hvalues, congrArg (· + 1) hsubqueries⟩
    rw [Clause.layout, Clause.layout, hlayout, Query.selection_outline]
    rfl
  selection s hconditions hrelated := by
    obtain ⟨hown, hownValues, hownSubqueries⟩ := outlineAll_of_forall hconditions
    obtain ⟨hother, hotherValues, hotherSubqueries⟩ := outlineAll_of_forall hrelated
    rw [Query.IsOutlined, Query.outline_mk]
    refine ⟨fun q issued aliases => ?_, ?_, ?_⟩
    · rw [Query.layoutParts_mk, Query.layoutParts_mk]
      simp only [Selection.outline]
      rw [hown, hownValues, hownSubqueries, hother]
    · rw [Query.values_mk, Query.values_mk, List.length_append, List.length_append]
      simp only [Selection.outline]
      rw [hownValues, hotherValues]
    · rw [Query.subqueries_mk, Query.subqueries_mk, List.length_append, List.length_append]
      simp only [Selection.outline]
      rw [hownSubqueries, hotherSubqueries]
  unwritable schema reason := by
    rw [Query.IsOutlined, Query.outline]
    exact ⟨fun _ _ _ => rfl, rfl, rfl⟩

/-- A clause is written like its outline. -/
theorem Clause.layout_outline (d : Dialect) (q : Qualifier) (issued aliases : Nat)
    (c : Clause Query) : c.outline.layout d q issued aliases = c.layout d q issued aliases :=
  ((isOutlined_hereditary d).clause c).1 q issued aliases

/-- The conditions of a query are written like those of its outline. -/
theorem Query.layoutParts_outline (d : Dialect) (q : Qualifier) (issued aliases : Nat)
    (query : Query) :
    query.outline.layoutParts d q issued aliases = query.layoutParts d q issued aliases :=
  ((isOutlined_hereditary d).query query).1 q issued aliases

/-- A query binds as many values as its outline. -/
theorem Query.length_values_outline (query : Query) :
    query.outline.values.length = query.values.length :=
  ((isOutlined_hereditary .plain).query query).2.1

/-! ## Outlines of statements on queries -/

namespace Selection

theorem layoutParts_outline (d : Dialect) (q : Qualifier) (issued aliases : Nat)
    (s : Selection Query) :
    Query.layoutParts d q issued aliases (.mk s.outline) =
      Query.layoutParts d q issued aliases (.mk s) := by
  rw [← Query.outline_mk, Query.layoutParts_outline]

theorem length_values_outline (s : Selection Query) :
    (Query.mk s.outline).values.length = (Query.mk s).values.length := by
  rw [← Query.outline_mk, Query.length_values_outline]

theorem length_subqueries_outline (s : Selection Query) :
    (Query.mk s.outline).subqueries.length = (Query.mk s).subqueries.length := by
  rw [← Query.outline_mk]
  exact ((isOutlined_hereditary .plain).query (.mk s)).2.2

theorem rowsLayout_outline (d : Dialect) (s : Selection Query) (columns : Fragment)
    (order : List OrderItem) (issued aliases : Nat) :
    s.outline.rowsLayout d columns order issued aliases =
      s.rowsLayout d columns order issued aliases := by
  simp only [rowsLayout]
  rw [layoutParts_outline]
  rfl

theorem fetchLayout_outline (d : Dialect) (s : Selection Query) (issued aliases : Nat) :
    s.outline.fetchLayout d issued aliases = s.fetchLayout d issued aliases :=
  s.rowsLayout_outline d _ _ issued aliases

theorem countLayout_outline (d : Dialect) (s : Selection Query) (issued aliases : Nat) :
    s.outline.countLayout d issued aliases = s.countLayout d issued aliases := by
  have hlist : s.outline.listLayout d issued aliases = s.listLayout d issued aliases :=
    s.rowsLayout_outline d _ _ issued aliases
  have hpaged : s.outline.isPaged = s.isPaged := rfl
  rw [countLayout, countLayout, hpaged, hlist, length_subqueries_outline, rowsLayout_outline]

end Selection

namespace Update

/-- An update without its values. -/
def outline (u : Update) : Update := ⟨u.query.outline, Clause.outlineAll u.assignments⟩

theorem layout_outline (d : Dialect) (u : Update) (issued aliases : Nat) :
    u.outline.layout d issued aliases = u.layout d issued aliases := by
  obtain ⟨hassign, hvalues, hsubqueries⟩ :=
    outlineAll_of_forall ((isOutlined_hereditary d).clauses u.assignments)
  have hmember : u.outline.member = u.member.outline := by
    rw [member, member, Clause.outline, Query.outline_mk]
    rfl
  have hcondition : ∀ issued aliases, u.outline.conditionLayout d issued aliases =
      u.conditionLayout d issued aliases := by
    intro issued aliases
    simp only [conditionLayout, hmember, Clause.layout_outline]
    simp only [outline, Selection.layoutParts_outline]
    rfl
  unfold layout
  rw [hcondition]
  simp only [outline]
  rw [hassign, hvalues, hsubqueries]
  rfl

theorem length_values_outline (u : Update) :
    u.outline.values.length = u.values.length := by
  obtain ⟨-, hvalues, -⟩ :=
    outlineAll_of_forall ((isOutlined_hereditary .plain).clauses u.assignments)
  rw [values, values, List.length_append, List.length_append]
  simp only [outline]
  rw [hvalues, Selection.length_values_outline]

end Update

/-! ## Two runs -/

namespace Request

/--
That two requests ask for the same statement and differ in nothing but their
values.  Of objects nothing is the same but, for an insert, which of the
columns they leave open.
-/
inductive SameOutline : Request → Request → Prop where
  | fetch {s s' : Selection Query} (query : s.outline = s'.outline) :
    SameOutline (.fetch s) (.fetch s')
  | count {s s' : Selection Query} (query : s.outline = s'.outline) :
    SameOutline (.count s) (.count s')
  | update {u u' : Update} (update : u.outline = u'.outline) :
    SameOutline (.update u) (.update u')
  | updateRow (r r' : Record) (s : Schema) : SameOutline (.updateRow r s) (.updateRow r' s)
  | deleteRow (r r' : Record) (s : Schema) : SameOutline (.deleteRow r s) (.deleteRow r' s)
  | insertRow {r r' : Record} {s : Schema}
    (left : ∀ c ∈ s.columns, r.leavesOpen s c = r'.leavesOpen s c) :
    SameOutline (.insertRow r s) (.insertRow r' s)

variable {request request' : Request}

/-- What leaves the same columns open is given the same ones. -/
private theorem given_eq {r r' : Record} {s : Schema}
    (h : ∀ c ∈ s.columns, r.leavesOpen s c = r'.leavesOpen s c) : r.given s = r'.given s :=
  List.filter_congr fun c hc => by rw [h c hc]

/-- Requests with the same outline have the same layout. -/
theorem layout_eq_of_sameOutline (h : request.SameOutline request') (d : Dialect) :
    request.layout d = request'.layout d := by
  cases h with
  | @fetch s s' query =>
      rw [layout, layout, ← s.fetchLayout_outline, ← s'.fetchLayout_outline, query]
  | @count s s' query =>
      rw [layout, layout, ← s.countLayout_outline, ← s'.countLayout_outline, query]
  | @update u u' update =>
      rw [layout, layout, ← u.layout_outline, ← u'.layout_outline, update]
  | updateRow r r' s => rfl
  | deleteRow r r' s => rfl
  | insertRow left =>
      rw [layout, layout, Record.insertLayout, Record.insertLayout, given_eq left]

/-- Requests with the same outline bind as many values. -/
theorem length_bound_eq_of_sameOutline (h : request.SameOutline request') {vs vs' : List Value}
    (hvs : request.bound = .ok vs) (hvs' : request'.bound = .ok vs') :
    vs.length = vs'.length := by
  cases h with
  | @fetch s s' query =>
      cases hvs
      cases hvs'
      rw [← s.length_values_outline, ← s'.length_values_outline, query]
  | @count s s' query =>
      cases hvs
      cases hvs'
      rw [← s.length_values_outline, ← s'.length_values_outline, query]
  | @update u u' update =>
      cases hvs
      cases hvs'
      rw [← u.length_values_outline, ← u'.length_values_outline, update]
  | updateRow r r' s => rw [length_of_bound_updateRow hvs, length_of_bound_updateRow hvs']
  | deleteRow r r' s =>
      rw [Record.length_of_checkedValues hvs, Record.length_of_checkedValues hvs']
  | insertRow left =>
      rw [Record.length_of_checkedValues hvs, Record.length_of_checkedValues hvs', given_eq left]

/--
Two requests that differ in nothing but their values, where both are
compiled: the texts are the same, and as many values are bound.
-/
theorem sql_eq_of_sameOutline {settings settings' : Except Error Settings} {d : Dialect}
    {statement statement' : Statement} {events events' : List Event}
    (h : request.SameOutline request')
    (hcompile : request.compile settings d = .ok (some (statement, events)))
    (hcompile' : request'.compile settings' d = .ok (some (statement', events'))) :
    statement.sql = statement'.sql ∧ statement.args.length = statement'.args.length := by
  obtain ⟨f, vs, hlayout, hbound, hsql, hargs, -⟩ := exists_of_compile hcompile
  obtain ⟨f', vs', hlayout', hbound', hsql', hargs', -⟩ := exists_of_compile hcompile'
  have hf : f = f' := by
    rw [layout_eq_of_sameOutline h d, hlayout'] at hlayout
    exact (Except.ok.inj hlayout).symm
  constructor
  · rw [hsql, hsql', hf]
  · rw [hargs, hargs', List.length_map, List.length_map,
      length_bound_eq_of_sameOutline h hbound hbound']

/-- A table of notes. -/
def notes (name : String) : Schema where
  identifier := [name]
  columns := [{ name := "note", type := "text" }]
  primaryKeys := []

/-- The cancellations for a reason. -/
def cancellations (reason : Value) : Query := .mk {
  schema := notes "cancellations"
  conditions := [.compare "note" .like reason false none] }

/-- Orders with a note, unless there is a cancellation for a reason. -/
def keptOrders (note reason : Value) : Request := .fetch {
  schema := notes "orders"
  conditions := [.compare "note" .eq note false none]
  related := [.related "note" (cancellations reason) "note" true] }

/-- A value with the characters of a statement in it changes nothing of the statement. -/
theorem sql_eq_keptOrders :
    SameOutline (keptOrders (.text "gift") (.text "%")) (keptOrders (.text "' OR 1=1 --") (.int 7)) ∧
      ∃ statement events statement' events',
        (keptOrders (.text "gift") (.text "%")).compile (.ok {}) .mysql =
            .ok (some (statement, events)) ∧
          (keptOrders (.text "' OR 1=1 --") (.int 7)).compile (.ok {}) .mysql =
            .ok (some (statement', events')) ∧
          statement.sql = statement'.sql ∧ statement.args.length = statement'.args.length := by
  have houtline : SameOutline (keptOrders (.text "gift") (.text "%"))
      (keptOrders (.text "' OR 1=1 --") (.int 7)) := .fetch rfl
  obtain ⟨statement, events, hcompile⟩ : ∃ statement events,
      (keptOrders (.text "gift") (.text "%")).compile (.ok {}) .mysql =
        .ok (some (statement, events)) := ⟨_, _, rfl⟩
  obtain ⟨statement', events', hcompile'⟩ : ∃ statement events,
      (keptOrders (.text "' OR 1=1 --") (.int 7)).compile (.ok {}) .mysql =
        .ok (some (statement, events)) := ⟨_, _, rfl⟩
  exact ⟨houtline, statement, events, statement', events', hcompile, hcompile',
    sql_eq_of_sameOutline houtline hcompile hcompile'⟩

end Request

end SqlCompose
