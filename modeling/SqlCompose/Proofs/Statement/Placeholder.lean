import SqlCompose.Proofs.Statement.Clear
import SqlCompose.Proofs.Statement.Request

/-!
# Placeholders of statements

The placeholders in the layout of a request are numbered from one, in the
order in which they are written, and there is one for each value that the
request binds.  It holds because every part is written with the numbers that
the values before it leave: a clause, whatever is nested in it, has the
placeholders from the first free number on, one for each of its values.

No clause comes out empty in a dialect that quotes names, so none is left out
after its values were bound (`Clause.isBlank_layout_of_visible`).

## Main results

* `Clause.marks_layout`, `Query.marks_layoutParts` — the placeholders of
  conditions.
* `Request.marks_of_layout` — the placeholders of a request.
-/

namespace SqlCompose

open Fragment

variable {b : BuiltIn}

/-! ## Numbers of placeholders -/

namespace Fragment

theorem skipsText_number : SkipsText Piece.number? where
  word _ := rfl
  name _ := rfl

@[simp] theorem marks_joinWith (separator : String) (fs : List Fragment) :
    (joinWith separator fs).marks = fs.flatMap marks :=
  skipsText_number.filterMap_joinWith separator fs

@[simp] theorem marks_spaced (parts : List (Option Fragment)) :
    (spaced parts).marks = parts.flatMap fun part => marks (part.getD []) :=
  skipsText_number.filterMap_spaced parts

@[simp] theorem marks_table (identifier : List String) : (table identifier).marks = [] :=
  skipsText_number.filterMap_table identifier

@[simp] theorem marks_column (q : Qualifier) (name : String) : (q.column name).marks = [] := by
  cases q <;> simp [Qualifier.column, Piece.number?]

@[simp] theorem marks_conjunction (parts : List Fragment) :
    marks ((conjunction parts).getD []) = parts.flatMap marks :=
  skipsText_number.filterMap_conjunction parts

@[simp] theorem marks_rowsFrom (d : Dialect) (q : Qualifier) (s : Selection Query)
    (columns : Fragment) (identifier : List String) (number : Nat) (parts : List Fragment) :
    (rowsFrom columns identifier number (conjunction parts) (s.tail d q)).marks =
      columns.marks ++ parts.flatMap marks := by
  have htail : marks ((s.tail d q).getD []) = [] := by
    rw [marks, skipsText_number.filterMap_tail, List.flatMap_eq_nil_iff]
    exact fun o _ => marks_column q o.column
  have h := skipsText_number.filterMap_rowsFrom columns identifier number (conjunction parts)
    (s.tail d q)
  change marks _ = marks columns ++ ([] ++ (marks ((conjunction parts).getD []) ++
    marks ((s.tail d q).getD []))) at h
  rw [h, marks_conjunction, htail, List.nil_append, List.append_nil]

@[simp] theorem marks_existence (keyword : String) (identifier : List String) (number : Nat)
    (innerColumn : String) (outer : Fragment) (parts : List Fragment) :
    (existence keyword identifier number innerColumn outer parts).marks =
      outer.marks ++ parts.flatMap marks :=
  skipsText_number.filterMap_existence keyword identifier number innerColumn outer parts

@[simp] theorem marks_membership (column rows : Fragment) :
    (membership column rows).marks = column.marks ++ rows.marks :=
  skipsText_number.filterMap_membership column rows

/-- Weaving keeps all placeholders where there are as many literal parts. -/
theorem marks_weave {literals : List String} {numbers : List Nat}
    (h : numbers.length ≤ literals.length) :
    (Template.weave literals (numbers.map .mark)).marks = numbers := by
  induction literals generalizing numbers with
  | nil =>
      obtain rfl : numbers = [] := List.length_eq_zero_iff.1 (Nat.le_zero.1 h)
      rfl
  | cons t literals ih =>
      cases numbers with
      | nil =>
          have hrest : (Template.weave literals (([] : List Nat).map .mark)).marks = [] :=
            ih (Nat.zero_le _)
          rw [List.map_nil, Template.weave_cons_nil, marks_cons]
          exact hrest
      | cons n numbers =>
          have hrest := ih (Nat.le_of_succ_le_succ h)
          rw [List.map_cons, Template.weave_cons_cons, marks_cons, marks_cons, hrest]
          rfl

end Fragment

/-! ## Nothing that is written is blank -/

/-- Whether a column behind the qualifier is written as anything, whatever it is called. -/
def Qualifier.IsVisible (d : Dialect) (q : Qualifier) : Prop :=
  ∀ name, (q.column name).isBlank d = false

theorem isBlank_eq_false {d : Dialect} {f : Fragment} {p : Piece} (hp : p ∈ f)
    (htext : p.text d ≠ "") : f.isBlank d = false := by
  rw [isBlank, List.all_eq_false]
  exact ⟨p, hp, by simpa using htext⟩

/-- Behind an alias a column is written in every dialect. -/
theorem Qualifier.isVisible_tableAlias (d : Dialect) (n : Nat) :
    (Qualifier.tableAlias n).IsVisible d := by
  intro name
  have htext : (Piece.tableAlias n).text d ≠ "" := by
    intro h
    have hlist := congrArg String.toList h
    simp [Piece.text, aliasText, aliasLetter] at hlist
  exact isBlank_eq_false (p := .tableAlias n) (by simp [Qualifier.column]) htext

section Blank

variable {d : Dialect} {q : Qualifier}

/-- A clause is written as something where its column is. -/
theorem Clause.isBlank_layout_of_visible (hq : q.IsVisible d) (issued aliases : Nat)
    (c : Clause Query) : (c.layout d q issued aliases).isBlank d = false := by
  have hcolumn : ∀ name rest, isBlank d (q.column name ++ rest) = false := by
    intro name rest
    have hname := hq name
    rw [isBlank] at hname ⊢
    rw [List.all_append, hname, Bool.false_and]
  cases c with
  | compare column op value negated table =>
      rw [layout]
      split <;> exact hcolumn column _
  | assign column value table => exact hcolumn column _
  | assignNull column table => exact hcolumn column _
  | manual column template table => exact hcolumn column _
  | related column inner innerColumn negated =>
      rw [layout]
      refine isBlank_eq_false (p := .word (if negated then "NOT EXISTS" else "EXISTS")) ?_ ?_
      · simp [existence]
      · cases negated
        · exact (by decide : "EXISTS" ≠ "")
        · exact (by decide : "NOT EXISTS" ≠ "")
  | among query column =>
      rw [layout]
      simp only [membership, List.append_assoc]
      exact hcolumn _ _

/-- All clauses of a list are written where their columns are. -/
theorem Clause.layoutAll_cons_of_visible (hq : q.IsVisible d) (issued aliases : Nat)
    (c : Clause Query) (rest : List (Clause Query)) :
    Clause.layoutAll d q issued aliases (c :: rest) =
      c.layout d q issued aliases ::
        Clause.layoutAll d q (issued + c.values.length) (aliases + c.subqueries.length) rest := by
  rw [Clause.layoutAll]
  simp [Clause.isBlank_layout_of_visible hq]

variable (b : BuiltIn)

theorem quote_ne_empty (name : String) : (Dialect.ofBuiltIn b).quote name ≠ "" := by
  intro h
  have hlist := congrArg String.toList h
  cases b <;>
    simp [Dialect.quote, Dialect.ofBuiltIn, Dialect.postgres, Dialect.mysql, Dialect.mssql,
      Dialect.sqlite] at hlist

/-- The library's own dialects put quotes around every name. -/
theorem Qualifier.isVisible_ofBuiltIn (q : Qualifier) : q.IsVisible (.ofBuiltIn b) := by
  intro name
  have hname : Piece.name name ∈ q.column name := by
    cases q <;> simp [Qualifier.column]
  exact isBlank_eq_false hname (quote_ne_empty b name)

variable {b}

/-- All clauses of a list are written. -/
theorem Clause.layoutAll_cons (q : Qualifier) (issued aliases : Nat) (c : Clause Query)
    (rest : List (Clause Query)) :
    Clause.layoutAll (.ofBuiltIn b) q issued aliases (c :: rest) =
      c.layout (.ofBuiltIn b) q issued aliases ::
        Clause.layoutAll (.ofBuiltIn b) q (issued + c.values.length)
          (aliases + c.subqueries.length) rest :=
  Clause.layoutAll_cons_of_visible (q.isVisible_ofBuiltIn b) issued aliases c rest

end Blank

/-! ## The placeholders of conditions -/

private def Clause.IsNumbered (b : BuiltIn) (c : Clause Query) : Prop :=
  ∀ q issued aliases, (c.layout (.ofBuiltIn b) q issued aliases).marks =
    List.range' (issued + 1) c.values.length

private def Query.IsNumbered (b : BuiltIn) (query : Query) : Prop :=
  ∀ q issued aliases, (query.layoutParts (.ofBuiltIn b) q issued aliases).flatMap marks =
    List.range' (issued + 1) query.values.length

/-- Numbers that go on where others end. -/
theorem range'_append (issued m n : Nat) :
    List.range' (issued + 1) m ++ List.range' (issued + m + 1) n =
      List.range' (issued + 1) (m + n) := by
  rw [show issued + m + 1 = issued + 1 + m by omega, List.range'_append_1]

private theorem marks_layoutAll_of_forall {cs : List (Clause Query)}
    (h : ∀ c ∈ cs, c.IsNumbered b) (q : Qualifier) (issued aliases : Nat) :
    (Clause.layoutAll (.ofBuiltIn b) q issued aliases cs).flatMap marks =
      List.range' (issued + 1) (Clause.valuesAll cs).length := by
  induction cs generalizing issued aliases with
  | nil =>
      rw [Clause.layoutAll]
      rfl
  | cons c rest ih =>
      have hc := h c List.mem_cons_self q issued aliases
      have hrest := ih (fun c' hc' => h c' (List.mem_cons_of_mem _ hc'))
        (issued + c.values.length) (aliases + c.subqueries.length)
      rw [Clause.layoutAll_cons, List.flatMap_cons, hc, hrest, range'_append,
        Clause.valuesAll_cons, List.length_append]

private theorem isNumbered_hereditary (b : BuiltIn) :
    Hereditary (Clause.IsNumbered b) (Query.IsNumbered b) where
  compare column op value negated table q issued aliases := by
    rw [Clause.layout]
    by_cases hnull : value.isNull <;> simp [hnull, Clause.values, Piece.number?]
  assign column value table q issued aliases := by
    rw [Clause.layout]
    simp [Clause.values, Piece.number?]
  assignNull column table q issued aliases := by
    rw [Clause.layout]
    simp [Clause.values, Piece.number?]
  manual column template table q issued aliases := by
    have hlength : (List.range' (issued + 1) template.values.length).length ≤
        template.literals.length := by
      rw [List.length_range', template.length_literals]
      omega
    rw [Clause.layout, marks_append, marks_column, marks_weave hlength]
    rfl
  related column inner innerColumn negated ih q issued aliases := by
    have hinner := ih (.tableAlias (aliases + 1)) issued (aliases + 1)
    rw [Clause.layout, marks_existence, hinner, marks_column]
    simp [Clause.values, Query.values]
  among query column ih q issued aliases := by
    have hinner := ih (.tableAlias (aliases + 1)) issued (aliases + 1)
    rw [Clause.layout, marks_membership, marks_rowsFrom, hinner, marks_column, marks_column]
    simp [Clause.values, Query.values]
  selection s hconditions hrelated q issued aliases := by
    rw [Query.layoutParts_mk, List.flatMap_append, marks_layoutAll_of_forall hconditions,
      marks_layoutAll_of_forall hrelated, range'_append, Query.values_mk, List.length_append]
  unwritable schema reason q issued aliases := by
    rw [Query.layoutParts]
    simp [Query.values, Query.gather]

/-- The placeholders of clauses are numbered on from those given out before, one for each value. -/
theorem Clause.marks_layoutAll (q : Qualifier) (issued aliases : Nat)
    (cs : List (Clause Query)) :
    (Clause.layoutAll (.ofBuiltIn b) q issued aliases cs).flatMap marks =
      List.range' (issued + 1) (Clause.valuesAll cs).length :=
  marks_layoutAll_of_forall (fun c _ => (isNumbered_hereditary b).clause c) q issued aliases

theorem Clause.marks_layout (q : Qualifier) (issued aliases : Nat) (c : Clause Query) :
    (c.layout (.ofBuiltIn b) q issued aliases).marks =
      List.range' (issued + 1) c.values.length :=
  (isNumbered_hereditary b).clause c q issued aliases

/-- The placeholders of conditions are numbered on, one for each value of the query. -/
theorem Query.marks_layoutParts (q : Qualifier) (issued aliases : Nat) (query : Query) :
    (query.layoutParts (.ofBuiltIn b) q issued aliases).flatMap marks =
      List.range' (issued + 1) query.values.length :=
  (isNumbered_hereditary b).query query q issued aliases

/-! ## The placeholders of statements on queries -/

theorem Selection.marks_rowsLayout (s : Selection Query) (columns : Fragment)
    (order : List OrderItem) (issued aliases : Nat) :
    (s.rowsLayout (.ofBuiltIn b) columns order issued aliases).marks =
      columns.marks ++ List.range' (issued + 1) (Query.mk s).values.length := by
  rw [rowsLayout, marks_rowsFrom, Query.marks_layoutParts]

private theorem marks_allColumns (q : Qualifier) (s : Schema) :
    (Selection.allColumns q s).marks = [] := by
  rw [Selection.allColumns, marks_joinWith, List.flatMap_eq_nil_iff]
  intro f hf
  obtain ⟨c, -, rfl⟩ := List.mem_map.1 hf
  exact marks_column q c.name

theorem Selection.marks_fetchLayout (s : Selection Query) (issued aliases : Nat) :
    (s.fetchLayout (.ofBuiltIn b) issued aliases).marks =
      List.range' (issued + 1) (Query.mk s).values.length := by
  rw [fetchLayout, marks_rowsLayout, marks_allColumns, List.nil_append]

theorem Selection.marks_countLayout (s : Selection Query) (issued aliases : Nat) :
    (s.countLayout (.ofBuiltIn b) issued aliases).marks =
      List.range' (issued + 1) (Query.mk s).values.length := by
  by_cases hpaged : s.isPaged <;>
    simp [countLayout, hpaged, listLayout, marks_rowsLayout, Piece.number?]

theorem Update.marks_layout (u : Update) (issued aliases : Nat) :
    (u.layout (.ofBuiltIn b) issued aliases).marks =
      List.range' (issued + 1) u.values.length := by
  have hcondition : ∀ issued aliases,
      marks ((u.conditionLayout (.ofBuiltIn b) issued aliases).getD []) =
        List.range' (issued + 1) (Query.mk u.query).values.length := by
    intro issued aliases
    rw [conditionLayout, marks_conjunction]
    split
    · rw [List.flatMap_cons, Clause.marks_layout]
      simp [member, Clause.values, Query.values]
    · exact Query.marks_layoutParts _ _ _ _
  rw [layout, marks_spaced, values, List.length_append, ← range'_append]
  simp [hcondition, Clause.marks_layoutAll, Piece.number?]

/-! ## The placeholders of statements on one row -/

/-- What is numbered has its numbers in a row. -/
theorem Column.flatMap_numbered {α : Type} {write : Column → Piece → α} {pick : α → List Nat}
    (h : ∀ c n, pick (write c (.mark n)) = [n]) (columns : List Column) (first : Nat) :
    (Column.numbered write columns first).flatMap pick = List.range' first columns.length := by
  induction columns generalizing first with
  | nil => rfl
  | cons c rest ih =>
      have hone : Column.numbered write (c :: rest) first =
          write c (.mark first) :: Column.numbered write rest (first + 1) := rfl
      rw [hone, List.flatMap_cons, h, ih]
      rfl

private theorem marks_equalities (separator : String) (columns : List Column) (first : Nat) :
    (joinWith separator (Column.numbered Column.equality columns first)).marks =
      List.range' first columns.length := by
  rw [marks_joinWith, Column.flatMap_numbered fun _ _ => rfl]

theorem Record.marks_keyLayout (s : Schema) (first : Nat) :
    (keyLayout s first).marks = List.range' first s.keyColumns.length :=
  marks_equalities " AND " s.keyColumns first

theorem Record.marks_updateLayout (s : Schema) (first : Nat) :
    (updateLayout s first).marks =
      List.range' first (s.plainColumns.length + s.keyColumns.length) := by
  rw [← List.range'_append_1]
  simp [updateLayout, marks_keyLayout, Column.flatMap_numbered, Column.equality, Piece.number?]

theorem Record.marks_deleteLayout (s : Schema) (first : Nat) :
    (deleteLayout s first).marks = List.range' first s.keyColumns.length := by
  simp [deleteLayout, marks_keyLayout, Piece.number?]

private theorem marks_cells (columns : List Column) (first : Nat) :
    (joinWith ", " ((Column.numbered Column.cell columns first).map Prod.fst)).marks = [] ∧
      (joinWith ", " ((Column.numbered Column.cell columns first).map Prod.snd)).marks =
        List.range' first columns.length := by
  constructor
  · rw [marks_joinWith, List.flatMap_eq_nil_iff]
    intro f hf
    obtain ⟨cell, hcell, rfl⟩ := List.mem_map.1 hf
    obtain ⟨⟨c, n⟩, -, rfl⟩ := List.mem_map.1 hcell
    rfl
  · rw [marks_joinWith, List.flatMap_map]
    exact Column.flatMap_numbered (fun _ _ => rfl) columns first

theorem Record.marks_insertLayout {r : Record} {s : Schema} {first : Nat} {f : Fragment}
    (h : r.insertLayout s (.ofBuiltIn b) first = .ok f) :
    f.marks = List.range' first (r.given s).length := by
  obtain ⟨hnames, hmarks⟩ := marks_cells (r.given s) first
  have hstored : (joinWith ", "
      (s.columns.map fun c => [Piece.word "Inserted.", .name c.name])).marks = [] := by
    simp [Piece.number?]
  obtain ⟨-, form, hform, rfl⟩ := exists_of_insertLayout h
  rcases Dialect.rowReturn?_ofBuiltIn hform with ⟨-, rfl⟩ | ⟨-, rfl⟩
  · simp only [InsertForm.returning, InsertForm.head, InsertForm.marks, marks_append, marks_cons,
      hnames, hmarks, marks_table]
    simp [Piece.number?]
  · simp only [InsertForm.output, InsertForm.head, InsertForm.marks, marks_append, marks_cons,
      hnames, hmarks, hstored, marks_table]
    simp [Piece.number?]

namespace Request

/--
The placeholders of a request are numbered from one in the order in which
they are written, and there is one for each value that the request binds.
-/
theorem marks_of_layout {request : Request} {f : Fragment} {vs : List Value}
    (hf : request.layout (.ofBuiltIn b) = .ok f) (hvs : request.bound = .ok vs) :
    f.marks = List.range' 1 vs.length := by
  cases request with
  | fetch s =>
      cases hf
      cases hvs
      exact s.marks_fetchLayout 0 0
  | count s =>
      cases hf
      cases hvs
      exact s.marks_countLayout 0 0
  | update u =>
      cases hf
      cases hvs
      exact u.marks_layout 0 0
  | updateRow r s =>
      cases hf
      rw [Record.marks_updateLayout, length_of_bound_updateRow hvs]
  | deleteRow r s =>
      cases hf
      rw [Record.marks_deleteLayout, Record.length_of_checkedValues hvs]
  | insertRow r s =>
      rw [Record.marks_insertLayout hf, Record.length_of_checkedValues hvs]

end Request

end SqlCompose
