import SqlCompose.Proofs.Query.Foreign
import SqlCompose.Proofs.Query.Settle
import SqlCompose.Proofs.Session.Limit
import SqlCompose.Proofs.Statement.Check

/-!
# One validation for all values

A value for a column gets into a statement on several ways: as the operand of
a condition, as what an update assigns, or as the value that an object has in
the column's field.  On each of them it is checked against the column once,
and what the check gives is what is bound (`Column.Entry.refused`,
`Column.Entry.binds`).  So a row that was stored under a value is found by the
same value, in a condition and in a key.

## Main results

* `Column.validated_alike` — either all ways refuse the value with the same
  error, or they all bind the same value.
-/

namespace SqlCompose

open Writing

/-! ## Ways into a statement -/

/-- The assignments that are made with a handle and a value. -/
inductive Handle.Assigns (h : Handle) (v : Value) : Store.AssignmentSource → Prop
  /-- The column, named by the handle, and the value. -/
  | set : Assigns h v fun s => s.assignment (fun _ => .ok (.handle h)) v
  /-- An equality that becomes an assignment. -/
  | converted : Assigns h v fun s => s.assignmentOf fun _ => h.compare .eq v

/--
The ways in which a value for a column of a table gets into a statement, where
everything else is in order: each with what the call that takes the value
comes to, and with the command that it becomes a part of.
-/
inductive Column.Entry (s : Schema) (c : Column) (h : Handle) (v : Value) (d : Dialect) :
    Except Error Store → Command → Prop
  /-- A condition on a query. -/
  | condition {st : Store} {r q selection} :
      st.query r = .ok q → r.isUpdate = false → q.schema = s →
      st.settle r = .ok (.mk selection) → (Query.mk selection).faults d = [] →
        Entry s c h v d (st.addCondition r fun _ => h.compare .eq v) (.fetch r)
  /-- The first assignment of an update. -/
  | start {st : Store} {r q selection source} :
      st.query r = .ok q → r.isUpdate = false → q.schema = s →
      st.settle r = .ok (.mk selection) → (Update.mk selection []).faults d = [] →
      h.Assigns v source →
        Entry s c h v d ((st.startUpdate r source).map Prod.snd) (.update ⟨st.updates.size⟩)
  /-- One more assignment of an update. -/
  | assignment {st : Store} {r draft u source} :
      st.update r = .ok draft → draft.query.isUpdate = false → st.updateSchema draft = .ok s →
      st.settleUpdate r = .ok u → u.faults d = [] → h.Assigns v source →
        Entry s c h v d (st.addAssignment r source) (.update r)
  /-- An object that is inserted. -/
  | insertRow {st : Store} {r : Record} {schema?} :
      Command.schemaFor r schema? = .ok s → d.rowReturn? ≠ none → c.valueIn r = v →
      r.FitsBut Column.validate c s.columns →
        Entry s c h v d (.ok st) (.insertRow r schema?)
  /-- An object that is stored, in a table with a key and with other columns. -/
  | updateRow {st : Store} {r : Record} {schema?} :
      Command.schemaFor r schema? = .ok s → s.primaryKeys ≠ [] → s.plainColumns ≠ [] →
      c.valueIn r = v → r.FitsBut Column.validate c s.plainColumns →
      r.FitsBut Column.validateKey c s.keyColumns →
        Entry s c h v d (.ok st) (.updateRow r schema?)
  /-- An object that is deleted by its key, which the column is part of. -/
  | deleteRow {st : Store} {r : Record} {schema?} :
      Command.schemaFor r schema? = .ok s → c ∈ s.keyColumns → c.valueIn r = v →
      r.FitsBut Column.validateKey c s.keyColumns →
        Entry s c h v d (.ok st) (.deleteRow r schema?)

/-! ## What builders take -/

namespace Handle

variable {ρ : Type} {h : Handle} {v : Value}

/-- A handle compares its column with what the check of a value gives. -/
theorem compare_eq (op : Operator) :
    (h.compare op v : Except Error (Clause ρ)) = (h.column.validate v).map fun w =>
      .compare h.column.name op w op.isNegated h.table := by
  unfold compare
  cases h.column.validate v <;> rfl

/-- A handle assigns what the check of a value gives. -/
theorem assign_eq (hv : v.isNull = false) :
    (h.assign v : Except Error (Clause ρ)) = (h.column.validate v).map fun w =>
      .assign h.column.name w h.table := by
  rw [assign, hv, if_neg (fun hnull => Bool.false_ne_true hnull.1)]
  cases h.column.validate v <;> rfl

end Handle

section Builders

variable {s : Schema} {c : Column} {v : Value}

/-- A handle of a column stands for itself on the table of the column. -/
theorem Schema.handleOf_handle (hnames : s.columnNames.Nodup) (hc : c ∈ s.columns) :
    s.handleOf (fun _ => .ok (.handle ⟨c, some s.tableName⟩)) = .ok ⟨c, some s.tableName⟩ := by
  simp only [handleOf, resolveColumn, resolve, checkTable, if_true, column_name hnames hc,
    Bind.bind, Except.bind]
  rfl

/-- A comparison with a handle's column is accepted on the table of the column. -/
theorem Schema.resolveClause_compare {ρ : Type} (hc : c ∈ s.columns) :
    (s.resolveClause fun _ => Handle.compare ⟨c, some s.tableName⟩ .eq v :
      Except Error (Clause ρ)) = (c.validate v).map fun w =>
        .compare c.name .eq w false (some s.tableName) := by
  rw [resolveClause, Handle.compare_eq]
  cases c.validate v with
  | error e => rfl
  | ok w =>
      have hadmits : s.Admits (.compare c.name .eq w false (some s.tableName) : Clause ρ) := by
        intro column hcolumn
        cases hcolumn
        refine ⟨name_mem_columnNames hc, fun t ht => ?_⟩
        cases ht
        rfl
      exact accept_of_admits hadmits

/-- Both assignments assign what the check of the value gives. -/
theorem Handle.Assigns.eq {source : Store.AssignmentSource}
    (h : Handle.Assigns ⟨c, some s.tableName⟩ v source) (hnames : s.columnNames.Nodup)
    (hc : c ∈ s.columns) (hv : v.isNull = false) :
    source s = (c.validate v).map fun w => .assign c.name w (some s.tableName) := by
  cases h with
  | set =>
      show s.assignment _ v = _
      rw [Schema.assignment, Schema.handleOf_handle hnames hc]
      exact Handle.assign_eq hv
  | converted =>
      show s.assignmentOf _ = _
      rw [Schema.assignmentOf, Schema.resolveClause_compare hc]
      cases hw : c.validate v with
      | error e => rfl
      | ok w =>
          have hnull := Column.isNull_of_validate hv hw
          simp only [Except.map, Bind.bind, Except.bind, Clause.isComparison, if_true,
            Clause.asAssignment, hnull, Clause.isAssignment, Bool.not_true, Bool.false_eq_true,
            if_false, Schema.checkNullable]
          rfl

end Builders

/-! ## One more condition or assignment -/

section Added

variable {d : Dialect} {column : String} {w : Value} {table : Option String}

/-- A query with one more comparison binds one more value of its own, after the others. -/
theorem Selection.values_compare (q : Selection Query) (hw : w.isNull = false) :
    (Query.mk { q with
      conditions := q.conditions ++ [.compare column .eq w false table] }).values =
        Clause.valuesAll q.conditions ++ w :: Clause.valuesAll q.related := by
  rw [Query.values_mk]
  simp only [Clause.valuesAll, Clause.gatherAll_append, Clause.gatherAll, Clause.gather,
    Clause.ownValues, hw, Bool.false_eq_true, if_false, List.append_nil, List.append_assoc,
    List.singleton_append]

/-- A comparison is no reason to refuse a query. -/
theorem Selection.faults_compare (q : Selection Query) :
    (Query.mk { q with
      conditions := q.conditions ++ [.compare column .eq w false table] }).faults d =
        (Query.mk q).faults d := by
  simp only [Query.faults, Query.gather_mk, Clause.gatherAll_append, Clause.gatherAll,
    Clause.gather, Clause.ownFaults, List.append_nil]

/-- An update with one more assignment binds one more value, after those assigned before. -/
theorem Update.values_assign (u : Update) :
    ({ u with assignments := u.assignments ++ [.assign column w table] } : Update).values =
      Clause.valuesAll u.assignments ++ w :: (Query.mk u.query).values := by
  simp only [Update.values, Clause.valuesAll, Clause.gatherAll_append, Clause.gatherAll,
    Clause.gather, Clause.ownValues, List.append_nil, List.append_assoc, List.singleton_append]

/-- An assignment of a value is no reason to refuse an update. -/
theorem Update.faults_assign (u : Update) :
    ({ u with assignments := u.assignments ++ [.assign column w table] } : Update).faults d =
      u.faults d := by
  simp only [Update.faults, Clause.faultsAll, Clause.gatherAll_append, Clause.gatherAll,
    Clause.gather, Clause.ownFaults, List.append_nil]
  rfl

/-- Where nothing was wrong with an update, nothing is wrong with one more assignment. -/
theorem Update.refusals_assign {u : Update} (h : u.faults d = []) :
    (Request.update { u with
      assignments := u.assignments ++ [.assign column w table] }).refusals d = [] := by
  have hsome : ¬ (u.assignments ++ [Clause.assign column w table]).isEmpty = true := by simp
  rw [Request.refusals, if_neg hsome, faults_assign, h]

end Added

/-! ## Requests of commands -/

namespace Command

/-- A command is refused for what its request is refused for. -/
theorem compile_of_refusal {command : Command} {st : Store} {request : Request} {d : Dialect}
    {e : Error} (hrequest : command.request st = .ok request)
    (he : (request.refusals d).head? = some e) (settings : Except Error Settings) :
    (do (← command.request (← Except.ok st)).compile settings d) = .error e := by
  simp only [hrequest, Bind.bind, Except.bind]
  exact Request.compile_of_refusal he settings

end Command

/-! ## What becomes of a value -/

namespace Column.Entry

variable {s : Schema} {c : Column} {v w : Value} {d : Dialect} {attempt : Except Error Store}
  {command : Command} {e : Error}

/-- A value that does not pass is refused on every way, with the same error. -/
theorem refused (h : Entry s c ⟨c, some s.tableName⟩ v d attempt command)
    (hnames : s.columnNames.Nodup) (hc : c ∈ s.columns) (hv : v.isNull = false)
    (he : c.validate v = .error e) (settings : Except Error Settings) :
    (do (← command.request (← attempt)).compile settings d) = .error e := by
  cases h with
  | condition hq hr hs hsettled hvalid =>
      subst hs
      simp only [Store.addCondition, Store.modifyQuery, Selection.addCondition, hq,
        Schema.resolveClause_compare hc, he, Except.map, Bind.bind, Except.bind]
  | start hq hr hs hsettled hvalid hassigns =>
      subst hs
      simp only [Store.startUpdate, hq, hassigns.eq hnames hc hv, he, Except.map, Bind.bind,
        Except.bind]
  | assignment hdraft hquery hs hsettled hvalid hassigns =>
      simp only [Store.addAssignment, hdraft, hs, hassigns.eq hnames hc hv, he, Except.map,
        Bind.bind, Except.bind]
  | insertRow hs hreturn hvalue hfits =>
      exact Command.compile_of_refusal (Command.request_insertRow hs)
        (Request.refused_insertRow hnames hc hv he hvalue hfits) settings
  | updateRow hs hkeys hcolumns hvalue hplain hkey =>
      exact Command.compile_of_refusal (Command.request_updateRow hs)
        (Request.refused_updateRow hnames hc hv he hkeys hcolumns hvalue hplain hkey) settings
  | deleteRow hs hmem hvalue hkey =>
      exact Command.compile_of_refusal (Command.request_deleteRow hs)
        (Request.refused_deleteRow hnames hv he hmem hvalue hkey) settings

/--
A value that passes is taken on every way, and what the check gives is bound
for the column; nothing stands in the way of the statement.
-/
theorem binds (h : Entry s c ⟨c, some s.tableName⟩ v d attempt command)
    (hnames : s.columnNames.Nodup) (hc : c ∈ s.columns) (hv : v.isNull = false)
    (hw : c.validate v = .ok w) :
    ∃ st request, attempt = .ok st ∧ command.request st = .ok request ∧
      ¬ request.IsIdle ∧ request.refusals d = [] ∧ request.Binds c w := by
  have hwnull := Column.isNull_of_validate hv hw
  cases h with
  | condition hq hr hs hsettled hvalid =>
      subst hs
      have hclause := Schema.resolveClause_compare (ρ := QueryRef) (v := v) hc
      rw [hw] at hclause
      obtain ⟨st', hst, hsettle⟩ := Store.settle_addCondition hq hr hsettled hclause
        (Clause.isPlain_compare _ _ _ _ _)
      exact ⟨st', _, hst, Command.request_fetch hsettle, id,
        (Selection.faults_compare _).trans hvalid,
        .condition rfl (congrArg Except.ok (Selection.values_compare _ hwnull))⟩
  | @start st r q selection source hq hr hs hsettled hvalid hassigns =>
      subst hs
      have hclause := hassigns.eq hnames hc hv
      rw [hw] at hclause
      obtain ⟨st', hst, hupdate, hsettle⟩ := Store.settleUpdate_startUpdate hq hsettled hclause
        (Clause.isPlain_assign _ _ _)
      exact ⟨st', _, by rw [hst]; rfl, Command.request_update hsettle hupdate hr, id,
        Update.refusals_assign (u := ⟨selection, []⟩) hvalid,
        .assignment (List.nil_append _).symm
          (congrArg Except.ok (Update.values_assign ⟨selection, []⟩))⟩
  | assignment hdraft hquery hs hsettled hvalid hassigns =>
      have hclause := hassigns.eq hnames hc hv
      rw [hw] at hclause
      obtain ⟨st', hst, hupdate, hsettle⟩ := Store.settleUpdate_addAssignment hdraft hs hsettled
        hclause (Clause.isPlain_assign _ _ _)
      exact ⟨st', _, hst, Command.request_update hsettle hupdate hquery, id,
        Update.refusals_assign hvalid,
        .assignment rfl (congrArg Except.ok (Update.values_assign _))⟩
  | @insertRow st r schema? hs hreturn hvalue hfits =>
      exact ⟨st, .insertRow r s, rfl, Command.request_insertRow hs, id,
        Request.accepted_insertRow hnames hc hv hw hreturn hvalue hfits⟩
  | @updateRow st r schema? hs hkeys hcolumns hvalue hplain hkey =>
      exact ⟨st, .updateRow r s, rfl, Command.request_updateRow hs, hcolumns,
        Request.accepted_updateRow hnames hc hv hw hkeys hcolumns hvalue hplain hkey⟩
  | @deleteRow st r schema? hs hmem hvalue hkey =>
      exact ⟨st, .deleteRow r s, rfl, Command.request_deleteRow hs, id,
        Request.accepted_deleteRow hnames hv hw hmem hvalue hkey⟩

end Column.Entry

namespace Column

/--
A value for a column, on the handle that the column's field leads to.  Either
no way lets it in, and the error is the same on all of them: it names the
column, its type and the value.  Or it is let in on every way, in every
dialect, and all of them bind for the column what the one check makes of it;
the statement has all values, and the settings decide nothing but whether it
may have as many.
-/
theorem validated_alike {s : Schema} {c : Column} {v : Value} (hnames : s.columnNames.Nodup)
    (hfields : (s.columns.map fieldName).Nodup) (hc : c ∈ s.columns) (hv : v.isNull = false) :
    ∃ h, s.handle c.fieldName = .ok h ∧
      ((∀ d attempt command settings, Entry s c h v d attempt command →
          (do (← command.request (← attempt)).compile settings d) =
            .error (.valueMismatch c.name c.type v)) ∨
        ∃ w, c.validate v = .ok w ∧ w.isNull = false ∧
          ∀ d attempt command, Entry s c h v d attempt command →
            ∃ (st : Store) (request : Request) (statement : Statement) (values : List Value),
              attempt = .ok st ∧ command.request st = .ok request ∧
              request.Binds c w ∧ request.bound = .ok values ∧
              statement.args = values.map Value.toBind ∧
              ∀ settings, request.compile (.ok settings) d =
                some <$> statement.release settings d) := by
  refine ⟨_, Schema.handle_fieldName hfields hc, ?_⟩
  cases hvalidated : c.validate v with
  | error e =>
      left
      intro d attempt command settings hentry
      rw [← eq_of_validate_error hvalidated]
      exact hentry.refused hnames hc hv hvalidated settings
  | ok w =>
      right
      refine ⟨w, rfl, isNull_of_validate hv hvalidated, fun d attempt command hentry => ?_⟩
      obtain ⟨st, request, hst, hrequest, hwrites, hvalid, hbinds⟩ :=
        hentry.binds hnames hc hv hvalidated
      obtain ⟨statement, values, b, hbound, hargs, hb, hrelease⟩ :=
        Request.exists_compile_of_valid hvalid hwrites
      refine ⟨st, request, statement, values, hst, hrequest, hbinds, hbound, hargs,
        fun settings => ?_⟩
      rw [Request.compile_of_blueprint hb, hrelease]

/-- Books with the number of copies that there are. -/
def books : Schema where
  identifier := ["books"]
  columns := [
    { name := "book_id", type := "int" },
    { name := "copies", type := "int", field := some "count" }]
  primaryKeys := ["book_id"]

/-- The column with the numbers of books. -/
def bookId : Column := { name := "book_id", type := "int" }

/-- A book whose number is given as a text. -/
def lostBook : Record := ⟨⟨"Book", some books⟩, [("book_id", .text "7")]⟩

/-- The book is deleted by the integer that its number stands for. -/
theorem validated_alike_lostBook :
    books.columnNames.Nodup ∧ (books.columns.map fieldName).Nodup ∧ bookId ∈ books.columns ∧
      (Value.text "7").isNull = false ∧
      ∃ (request : Request) (statement : Statement),
        (Command.deleteRow lostBook none).request {} = .ok request ∧
        request.Binds bookId (.int 7) ∧ statement.args = [.int 7] ∧
        request.compile (.ok {}) (.ofBuiltIn .sqlite) =
          some <$> statement.release {} (.ofBuiltIn .sqlite) := by
  have hnames : books.columnNames.Nodup := by decide
  have hfields : (books.columns.map fieldName).Nodup := by decide
  have hc : bookId ∈ books.columns := List.mem_cons_self
  have hkey : bookId ∈ books.keyColumns := List.mem_singleton_self bookId
  have hv : (Value.text "7").isNull = false := rfl
  refine ⟨hnames, hfields, hc, hv, ?_⟩
  obtain ⟨h, hh, halike⟩ := validated_alike hnames hfields hc hv
  obtain rfl : ⟨bookId, some "books"⟩ = h := Except.ok.inj hh
  have hentry : Entry books bookId ⟨bookId, some "books"⟩ (.text "7") (.ofBuiltIn .sqlite)
      (.ok {}) (.deleteRow lostBook none) :=
    .deleteRow rfl hkey rfl fun c' hc' hne => absurd (List.mem_singleton.1 hc') hne
  rcases halike with hrefused | ⟨w, hw, -, hbinds⟩
  · cases hrefused _ _ _ (.ok {}) hentry
  · obtain rfl : .int 7 = w := Except.ok.inj hw
    obtain ⟨st, request, statement, values, hst, hrequest, hbinds, hbound, hargs, hcompile⟩ :=
      hbinds _ _ _ hentry
    cases hst
    cases hrequest
    cases hbound
    exact ⟨_, statement, rfl, hbinds, hargs, hcompile {}⟩

/-- Tags, which have nothing but their numbers. -/
def tags : Schema where
  identifier := ["tags"]
  columns := [{ name := "tag_id", type := "int" }]
  primaryKeys := ["tag_id"]

/-- Visits, which nothing tells apart. -/
def visits : Schema where
  identifier := ["visits"]
  columns := [{ name := "guests", type := "int" }]
  primaryKeys := []

/--
A handle refuses a word for a number.  The update of a row does not come to
the word where all columns are in the key, as nothing is to be done, nor where
there is no key, as this is what it refuses.
-/
theorem unlike_updateRow :
    (∃ h, tags.handle "tag_id" = .ok h ∧
      (h.compare .eq (.text "some") : Except Error (Clause QueryRef)) =
        .error (.valueMismatch "tag_id" "int" (.text "some")) ∧
      (Action.outcome (Action.compileUpdateRow ⟨⟨"Tag", none⟩, [("tag_id", .text "some")]⟩
        (.named "postgres") (some tags)) {}).1 = .ok none) ∧
    ∃ h, visits.handle "guests" = .ok h ∧
      (h.compare .eq (.text "some") : Except Error (Clause QueryRef)) =
        .error (.valueMismatch "guests" "int" (.text "some")) ∧
      (Action.outcome (Action.compileUpdateRow ⟨⟨"Visit", none⟩, [("guests", .text "some")]⟩
        (.named "postgres") (some visits)) {}).1 = .error (.noPrimaryKey "visits" (some .update)) :=
  ⟨⟨_, rfl, rfl, rfl⟩, ⟨_, rfl, rfl, rfl⟩⟩

end Column

end SqlCompose
