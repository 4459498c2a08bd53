import SqlCompose.Proofs.Query.Built
import SqlCompose.Schema.Description

/-!
# Columns of other tables

A handle remembers the table that it was taken from by the table's name, the
segments with points between them, and so does every clause that it makes.
A call on a query over some table compares this name with the name of its own
table, before anything else is looked at, and refuses what does not match.

So the calls tell tables apart as far as their names do.  Where no segment
has a point in it the name gives the segments back, and different tables are
always told apart; these are the identifiers that can be given as one text
(`Schema.isPlain_of_text`).  A segment with a point in it can make the name of
one table that of another.

## Main results

* `Handle.Makes.table?`, `Handle.Makes.column?` — what a handle makes is about
  its column, and remembers its table.
* `Store.IsGiven.refused` — every call that is given a handle of a table with
  another name, or a clause that it makes, is refused.
* `Schema.tableName_inj` — names of plain tables are as good as their segments.
-/

namespace SqlCompose

/-! ## What a handle makes -/

/--
A clause that a handle makes: by one of its methods, or as the assignment that
an equality of its becomes.
-/
inductive Handle.Makes {ρ : Type} (h : Handle) : Clause ρ → Prop
  | method {m arguments c} : h.apply m arguments = .ok c → Makes h c
  | assignment {c a} : Makes h c → c.asAssignment = .ok a → Makes h a

namespace Handle

variable {ρ : Type} {h : Handle} {c : Clause ρ}

theorem about_of_compare {op : Operator} {v : Value} (hc : h.compare op v = .ok c) :
    c.column? = some h.column.name ∧ c.table? = h.table := by
  obtain ⟨w, -, hc⟩ := exists_of_bind hc
  cases hc
  exact ⟨rfl, rfl⟩

theorem about_of_manual {text : Value} {values : List Value}
    (hc : h.manual text values = .ok c) :
    c.column? = some h.column.name ∧ c.table? = h.table := by
  obtain ⟨template, -, hc⟩ := exists_of_bind hc
  cases hc
  exact ⟨rfl, rfl⟩

theorem about_of_assign {v : Value} (hc : h.assign v = .ok c) :
    c.column? = some h.column.name ∧ c.table? = h.table := by
  unfold assign at hc
  split at hc
  · cases hc
  · obtain ⟨w, -, hc⟩ := exists_of_bind hc
    cases hc
    exact ⟨rfl, rfl⟩

theorem about_of_assignNull (hc : h.assignNull = .ok c) :
    c.column? = some h.column.name ∧ c.table? = h.table := by
  unfold assignNull at hc
  split at hc
  · cases hc
    exact ⟨rfl, rfl⟩
  · cases hc

/-- What a method makes is about the column of the handle, and remembers its table. -/
theorem about_of_apply {m : Method} {arguments : List Value}
    (hc : h.apply m arguments = .ok c) :
    c.column? = some h.column.name ∧ c.table? = h.table := by
  unfold apply at hc
  split at hc
  · exact about_of_compare hc
  · split at hc
    · exact about_of_manual hc
    · exact about_of_manual hc
  · exact about_of_assign hc
  · exact about_of_assignNull hc

end Handle

/-- An equality becomes an assignment to its column, which is of the same table. -/
theorem Clause.about_of_asAssignment {ρ : Type} {c a : Clause ρ} (h : c.asAssignment = .ok a) :
    a.column? = c.column? ∧ a.table? = c.table? := by
  unfold asAssignment at h
  split at h
  · split at h
    · cases h
      split
      · exact ⟨rfl, rfl⟩
      · exact ⟨rfl, rfl⟩
    · cases h
  · cases h

namespace Handle.Makes

variable {ρ : Type} {h : Handle} {c : Clause ρ}

private theorem about (hc : h.Makes c) : c.column? = some h.column.name ∧ c.table? = h.table := by
  induction hc with
  | method hmade => exact about_of_apply hmade
  | assignment _ hmade ih =>
      obtain ⟨hcolumn, htable⟩ := Clause.about_of_asAssignment hmade
      exact ⟨hcolumn.trans ih.1, htable.trans ih.2⟩

/-- A comparison is made by the method for its operator. -/
theorem of_compare {op : Operator} {v : Value} (hc : h.compare op v = .ok c) : h.Makes c :=
  method (show h.apply (.compare op) [v] = .ok c from hc)

theorem column? (hc : h.Makes c) : c.column? = some h.column.name := hc.about.1

theorem table? (hc : h.Makes c) : c.table? = h.table := hc.about.2

end Handle.Makes

/-! ## Names of tables -/

namespace Schema

variable {s t : Schema}

/--
Whether the segments of the table's name can be read off the name: there are
some, and none of them has a point in it.
-/
def IsPlain (s : Schema) : Prop :=
  s.identifier ≠ [] ∧ ∀ segment ∈ s.identifier, '.' ∉ segment.toList

/-- Between its points a plain name has its segments. -/
theorem IsPlain.splitOn_tableName (h : s.IsPlain) :
    s.tableName.toList.splitOn '.' = s.identifier.map String.toList := by
  have hpoints : ∀ cs ∈ s.identifier.map String.toList, '.' ∉ cs := by
    simpa using h.2
  have hne : s.identifier.map String.toList ≠ [] := by simpa using h.1
  have hpoint : ".".toList = ['.'] := rfl
  rw [tableName, String.toList_intercalate, hpoint]
  exact List.splitOn_intercalate '.' hpoints hne

/-- Plain tables have one name only if they have the same segments. -/
theorem tableName_inj (hs : s.IsPlain) (ht : t.IsPlain) :
    s.tableName = t.tableName ↔ s.identifier = t.identifier := by
  constructor
  · intro h
    have hmap : s.identifier.map String.toList = t.identifier.map String.toList := by
      rw [← hs.splitOn_tableName, h, ht.splitOn_tableName]
    exact (List.map_inj_right fun _ _ => String.toList_inj.1).1 hmap
  · intro h
    rw [tableName, tableName, h]

/-- A piece between points has no point in it. -/
private theorem not_mem_of_mem_splitOn {x : Char} {cs piece : List Char}
    (h : piece ∈ cs.splitOn x) : x ∉ piece := by
  induction cs generalizing piece with
  | nil =>
      rw [List.splitOn_nil, List.mem_singleton] at h
      simp [h]
  | cons c rest ih =>
      obtain ⟨first, others, hsplit⟩ := List.exists_cons_of_ne_nil (List.splitOn_ne_nil x rest)
      rw [List.splitOn_cons_eq_if_modifyHead, hsplit] at h
      rw [hsplit] at ih
      split at h
      · rcases List.mem_cons.1 h with rfl | h
        · exact List.not_mem_nil
        · exact ih h
      · rename_i hother
        rw [List.modifyHead_cons] at h
        rcases List.mem_cons.1 h with rfl | h
        · have hc : x ≠ c := fun heq => hother (by simp [heq])
          exact List.not_mem_cons_of_ne_of_not_mem hc (ih List.mem_cons_self)
        · exact ih (List.mem_cons_of_mem _ h)

/-- An identifier that is given as one text is plain, and the text is the table's name. -/
theorem isPlain_of_text {text : String}
    (h : Description.identifierOf (.text text) = .ok s.identifier) :
    s.IsPlain ∧ s.tableName = text := by
  have hsegments : s.identifier = (text.toList.splitOn '.').map String.ofList := by
    rw [Description.identifierOf] at h
    exact (Except.ok.inj h).symm
  refine ⟨⟨?_, ?_⟩, ?_⟩
  · simp [hsegments, List.splitOn_ne_nil]
  · rw [hsegments]
    intro segment hsegment
    obtain ⟨cs, hcs, rfl⟩ := List.mem_map.1 hsegment
    simpa using not_mem_of_mem_splitOn hcs
  · have hpoint : ".".toList = ['.'] := rfl
    rw [← String.toList_inj, tableName, String.toList_intercalate, hsegments, List.map_map, hpoint]
    simp [Function.comp_def, List.intercalate_splitOn]

end Schema

/-! ## Calls that are given a handle -/

/-- Whether the caller names a column of the table by the handle. -/
def ColumnSource.Gives (source : ColumnSource) (s : Schema) (h : Handle) : Prop :=
  source s = .ok (.handle h)

/-- Whether the caller gives a clause on the table that the handle makes. -/
def ClauseSource.Gives {ρ : Type} (source : ClauseSource ρ) (s : Schema) (h : Handle) : Prop :=
  ∃ c, h.Makes c ∧ source s = .ok c

/-- What a handle makes can be given ready made. -/
theorem Handle.Makes.gives {ρ : Type} {h : Handle} {c : Clause ρ} (hc : h.Makes c) (s : Schema) :
    ClauseSource.Gives (fun _ => .ok c) s h :=
  ⟨c, hc, rfl⟩

namespace Store

/-- Whether the caller makes an assignment for the table from the handle, or from a clause of it. -/
inductive AssignmentSource.Gives (s : Schema) (h : Handle) : AssignmentSource → Prop
  | clause {source : ClauseSource QueryRef} :
      source.Gives s h → Gives s h fun t => t.assignmentOf source
  | value {source : ColumnSource} {v} :
      source.Gives s h → Gives s h fun t => t.assignment source v
  | null {source : ColumnSource} :
      source.Gives s h → Gives s h fun t => t.nullAssignment source

/--
The calls on a query over the table, or on an update of its rows, that are
given the handle where they take a column, or a clause that it makes where
they take a clause; each with what it comes to.
-/
inductive IsGiven (st : Store) (s : Schema) (h : Handle) : Except Error Store → Prop
  | condition {r q} {source : ClauseSource QueryRef} :
      st.query r = .ok q → q.schema = s → source.Gives s h →
        IsGiven st s h (st.addCondition r source)
  | order {r q direction} {source : ColumnSource} :
      st.query r = .ok q → q.schema = s → source.Gives s h →
        IsGiven st s h (st.addOrder r source direction)
  | outer {r q inner other innerSource negated} {source : ColumnSource} :
      st.query r = .ok q → q.schema = s → st.query inner = .ok other → source.Gives s h →
        IsGiven st s h (st.addRelated r inner source innerSource negated)
  | outerOfTable {r q table innerSource negated} {source : ColumnSource} :
      st.query r = .ok q → q.schema = s → source.Gives s h →
        IsGiven st s h (st.addRelatedTable r table source innerSource negated)
  | inner {r q inner other outerSource column negated} {source : ColumnSource} :
      st.query r = .ok q → q.schema.resolveColumn outerSource = .ok column →
        st.query inner = .ok other → other.schema = s → source.Gives s h →
          IsGiven st s h (st.addRelated r inner outerSource source negated)
  | innerOfTable {r q outerSource column negated} {source : ColumnSource} :
      st.query r = .ok q → q.schema.resolveColumn outerSource = .ok column → source.Gives s h →
        IsGiven st s h (st.addRelatedTable r s outerSource source negated)
  | start {r q} {source : AssignmentSource} :
      st.query r = .ok q → q.schema = s → source.Gives s h →
        IsGiven st s h ((st.startUpdate r source).map Prod.snd)
  | assignment {r u q} {source : AssignmentSource} :
      st.update r = .ok u → st.query u.query = .ok q → q.schema = s → source.Gives s h →
        IsGiven st s h (st.addAssignment r source)

end Store

/-! ## What is refused -/

/-- The error of a handle that is used on another table. -/
def Handle.foreign (h : Handle) (table : String) (s : Schema) : Error :=
  .compilation (.foreignColumn table h.column.name s.tableName)

section Refused

variable {s : Schema} {h : Handle} {table : String}

/-- A column that is named by a handle of a table with another name is refused. -/
theorem ColumnSource.Gives.refused {source : ColumnSource} (hsource : source.Gives s h)
    (htable : h.table = some table) (hne : table ≠ s.tableName) :
    s.resolveColumn source = .error (h.foreign table s) := by
  rw [Schema.resolveColumn, hsource]
  simp only [Bind.bind, Except.bind, Schema.resolve, htable,
    Schema.checkTable_of_ne h.column.name hne]
  rfl

/-- A clause that a handle of a table with another name has made is refused. -/
theorem ClauseSource.Gives.refused {ρ : Type} {source : ClauseSource ρ}
    (hsource : source.Gives s h) (htable : h.table = some table) (hne : table ≠ s.tableName) :
    s.resolveClause source = .error (h.foreign table s) := by
  obtain ⟨c, hmakes, hsource⟩ := hsource
  rw [Schema.resolveClause, hsource]
  simp only [Bind.bind, Except.bind, Schema.accept, hmakes.column?, hmakes.table?, htable,
    Schema.checkTable_of_ne h.column.name hne]
  rfl

/-- So is an assignment that is made from either. -/
theorem Store.AssignmentSource.Gives.refused {source : Store.AssignmentSource}
    (hsource : source.Gives s h) (htable : h.table = some table) (hne : table ≠ s.tableName) :
    source s = .error (h.foreign table s) := by
  cases hsource with
  | clause hsource =>
      simp only [Schema.assignmentOf, hsource.refused htable hne, Bind.bind, Except.bind]
  | value hsource =>
      simp only [Schema.assignment, Schema.handleOf, hsource.refused htable hne, Bind.bind,
        Except.bind]
  | null hsource =>
      simp only [Schema.nullAssignment, Schema.handleOf, hsource.refused htable hne, Bind.bind,
        Except.bind]

namespace Store

/-- Every call that is given a handle of a table with another name is refused. -/
theorem IsGiven.refused {st : Store} {attempt : Except Error Store}
    (hgiven : st.IsGiven s h attempt) (htable : h.table = some table)
    (hne : table ≠ s.tableName) :
    attempt = .error (h.foreign table s) := by
  cases hgiven with
  | condition hq hs hsource =>
      subst hs
      simp only [addCondition, modifyQuery, hq, Selection.addCondition, hsource.refused htable hne,
        Bind.bind, Except.bind]
  | order hq hs hsource =>
      subst hs
      simp only [addOrder, modifyQuery, hq, Selection.addOrder, hsource.refused htable hne,
        Bind.bind, Except.bind]
  | outer hq hs hinner hsource =>
      subst hs
      simp only [addRelated, modifyQuery, hq, hinner, Selection.addRelated,
        hsource.refused htable hne, Bind.bind, Except.bind]
  | outerOfTable hq hs hsource =>
      subst hs
      simp only [addRelatedTable, addRelated, modifyQuery, hq, query_newQuery hq,
        query_newQuery_self,
        Selection.addRelated, hsource.refused htable hne, Bind.bind, Except.bind]
  | inner hq houter hinner hs hsource =>
      subst hs
      simp only [addRelated, modifyQuery, hq, hinner, Selection.addRelated, houter,
        hsource.refused htable hne, Bind.bind, Except.bind]
  | innerOfTable hq houter hsource =>
      simp only [addRelatedTable, addRelated, modifyQuery, hq, query_newQuery hq,
        query_newQuery_self,
        Selection.addRelated, Selection.ofSchema, houter, hsource.refused htable hne, Bind.bind,
        Except.bind]
  | start hq hs hsource =>
      subst hs
      simp only [startUpdate, hq, hsource.refused htable hne, Bind.bind, Except.bind, Except.map]
  | assignment hu hq hs hsource =>
      subst hs
      simp only [addAssignment, updateSchema, hu, hq, hsource.refused htable hne, Bind.bind,
        Except.bind, Pure.pure, Except.pure]

end Store

end Refused

/-! ## What is accepted -/

section Accepted

variable {s : Schema} {h : Handle}

/-- A handle of a table with the same name is taken for one of the table's own. -/
theorem ColumnSource.Gives.resolved {source : ColumnSource} (hsource : source.Gives s h)
    (htable : h.table = some s.tableName) :
    s.resolveColumn source = s.column h.column.name := by
  rw [Schema.resolveColumn, hsource]
  simp only [Bind.bind, Except.bind, Schema.resolve, htable, Schema.checkTable, if_true]

/-- So is a clause that it makes. -/
theorem Handle.Makes.accepted {ρ : Type} {c : Clause ρ} (hc : h.Makes c)
    (htable : h.table = some s.tableName) (hmem : h.column.name ∈ s.columnNames) :
    s.accept c = .ok c := by
  apply Schema.accept_of_admits
  intro column hcolumn
  rw [hc.column?] at hcolumn
  cases hcolumn
  refine ⟨hmem, fun t ht => ?_⟩
  rw [hc.table?, htable] at ht
  cases ht
  rfl

/-- A call that is given a handle of a table with the same name is not refused for its table. -/
theorem Store.exists_isGiven_ne_foreign (htable : h.table = some s.tableName) (table : String) :
    ∃ st attempt, Store.IsGiven st s h attempt ∧ attempt ≠ .error (h.foreign table s) := by
  have hsource : ColumnSource.Gives (fun _ => .ok (.handle h)) s h := rfl
  have hgiven : IsGiven (newQuery {} s).2 s h
      ((newQuery {} s).2.addOrder (newQuery {} s).1 (fun _ => .ok (.handle h)) .ascending) :=
    .order (query_newQuery_self {} s) rfl hsource
  refine ⟨_, _, hgiven, ?_⟩
  simp only [addOrder, modifyQuery, query_newQuery_self, Selection.addOrder, Selection.ofSchema,
    hsource.resolved htable, Bind.bind, Except.bind]
  rw [Schema.column]
  cases s.find? h.column.name with
  | none =>
      intro hsame
      cases hsame
  | some c =>
      intro hsame
      cases hsame

end Accepted

/-! ## Handles of other tables -/

namespace Handle

/-- The handle of a column remembers the table that it was taken from. -/
theorem table_of_handle {s : Schema} {name : String} {h : Handle} (hh : s.handle name = .ok h) :
    h.table = some s.tableName := by
  obtain ⟨c, -, hh⟩ := exists_of_bind hh
  cases hh
  rfl

/--
Just where two tables have different names, every call on the one that is
given a handle of the other, or a clause that it makes, is refused.  Where
they share their name, such a clause is taken for one on the table's own
column.  Plain tables share a name only if they have the same segments, and
whatever is given as one text is plain.
-/
theorem refused_iff_tableName_ne {s t : Schema} {name : String} {h : Handle}
    (hh : s.handle name = .ok h) :
    ((∀ st attempt, Store.IsGiven st t h attempt → attempt =
        .error (.compilation (.foreignColumn s.tableName h.column.name t.tableName))) ↔
      s.tableName ≠ t.tableName) ∧
    (s.tableName = t.tableName → h.column.name ∈ t.columnNames →
      ∀ c : Clause QueryRef, h.Makes c → t.accept c = .ok c) ∧
    (s.IsPlain → t.IsPlain → (s.tableName ≠ t.tableName ↔ s.identifier ≠ t.identifier)) ∧
    ∀ text, Description.identifierOf (.text text) = .ok s.identifier → s.IsPlain := by
  have htable := table_of_handle hh
  refine ⟨⟨fun hall hname => ?_, fun hne st attempt hgiven => hgiven.refused htable hne⟩,
    fun hname hmem c hc => ?_, fun hs ht => not_congr (Schema.tableName_inj hs ht),
    fun text htext => (Schema.isPlain_of_text htext).1⟩
  · rw [hname] at htable
    obtain ⟨st, attempt, hgiven, hother⟩ :=
      Store.exists_isGiven_ne_foreign htable s.tableName
    exact hother (hall st attempt hgiven)
  · rw [hname] at htable
    exact hc.accepted htable hmem

/-- Items in stock, in a table with the given name. -/
def stock (identifier : List String) : Schema where
  identifier := identifier
  columns := [{ name := "item_id", type := "int" }, { name := "quantity", type := "int" }]
  primaryKeys := ["item_id"]

/-- What is asked of the items of one shop is refused for those of another. -/
theorem refused_stock :
    ∃ h, (stock ["north", "items"]).handle "quantity" = .ok h ∧
      (stock ["north", "items"]).tableName ≠ (stock ["south", "items"]).tableName ∧
      ∃ r st, Store.newQuery {} (stock ["south", "items"]) = (r, st) ∧
        ∃ c, h.compare .eq (.int 0) = .ok c ∧
          st.addCondition r (fun _ => .ok c) = .error (.compilation
            (.foreignColumn "north.items" "quantity" "south.items")) ∧
          (st.startUpdate r fun s => s.assignmentOf fun _ => .ok c).map Prod.snd =
            .error (.compilation (.foreignColumn "north.items" "quantity" "south.items")) := by
  have hh : (stock ["north", "items"]).handle "quantity" =
      .ok ⟨{ name := "quantity", type := "int" }, some "north.items"⟩ := rfl
  have hne : (stock ["north", "items"]).tableName ≠ (stock ["south", "items"]).tableName := by
    decide
  refine ⟨_, hh, hne, _, _, rfl, _, rfl, ?_⟩
  have hrefused := (refused_iff_tableName_ne hh).1.2 hne
  have hmakes := Makes.of_compare (ρ := QueryRef) (show Handle.compare
    ⟨{ name := "quantity", type := "int" }, some "north.items"⟩ .eq (.int 0) = .ok _ from rfl)
  exact ⟨hrefused _ _ (.condition rfl rfl (hmakes.gives _)),
    hrefused _ _ (.start rfl rfl (.clause (hmakes.gives _)))⟩

/--
A name with a point in one of its segments: the condition on the items of one
table becomes a condition on those of another.
-/
theorem accepted_stock :
    ∃ h c r st st', (stock ["shop.items"]).handle "quantity" = .ok h ∧
      (stock ["shop.items"]).identifier ≠ (stock ["shop", "items"]).identifier ∧
      h.compare .eq (.int 0) = .ok c ∧
      Store.newQuery {} (stock ["shop", "items"]) = (r, st) ∧
      st.addCondition r (fun _ => .ok c) = .ok st' ∧
      st'.query r = .ok { schema := stock ["shop", "items"], conditions := [c] } :=
  ⟨_, _, _, _, _, rfl, by decide, rfl, rfl, rfl, rfl⟩

end Handle

end SqlCompose
