import SqlCompose.Proofs.Statement.Alias
import SqlCompose.Proofs.Statement.Placeholder

/-!
# Conditions under other names

The same conditions are written into statements of several kinds, each time
after other values were bound and other aliases were taken, and behind
another qualifier.  What is written then differs in names only: the columns
of the table stand behind the other qualifier, and every placeholder and
every alias of a sub-query has moved by as much as the number it starts
from.

`Renames d g q q' issued issued' aliases aliases'` says of a map `g` of pieces
that it carries the names of the one place to those of the other.  It is kept
where both places move on by the same numbers (`Renames.advance`), and where a
sub-query is entered in both (`Renames.enter`).

## Main results

* `Query.layoutParts_rename` — conditions at another place are the renamed
  ones of the first.
* `Selection.rowsLayout_renumber` — a list of rows that is written later has
  later placeholders, and is the same otherwise.
-/

namespace SqlCompose

open Fragment

/-! ## Maps of pieces -/

/-- Whether a map leaves the words, the names and the caller's text of a statement alone. -/
structure FixesText (g : Piece → Fragment) : Prop where
  word : ∀ t, g (.word t) = [.word t]
  verbatim : ∀ t, g (.verbatim t) = [.verbatim t]
  name : ∀ n, g (.name n) = [.name n]

namespace FixesText

variable {g : Piece → Fragment}

theorem flatMap_joinWith (h : FixesText g) (separator : String) (fs : List Fragment) :
    (joinWith separator fs).flatMap g = joinWith separator (fs.map fun f => f.flatMap g) := by
  induction fs with
  | nil => rfl
  | cons f rest ih =>
      cases rest with
      | nil => simp [joinWith]
      | cons f' rest =>
          rw [joinWith_cons_cons, List.flatMap_append, List.flatMap_cons, h.word, ih]
          rw [List.map_cons, List.map_cons, List.map_cons, joinWith_cons_cons]
          rfl

theorem flatMap_spaced (h : FixesText g) (parts : List (Option Fragment)) :
    (spaced parts).flatMap g =
      spaced (parts.map fun part => part.map fun f => f.flatMap g) := by
  have hparts : (parts.filterMap id).map (fun f => f.flatMap g) =
      (parts.map fun part => part.map fun f => f.flatMap g).filterMap id := by
    rw [List.map_filterMap, List.filterMap_map]
    rfl
  rw [spaced, spaced, h.flatMap_joinWith, hparts]

theorem flatMap_table (h : FixesText g) (identifier : List String) :
    (table identifier).flatMap g = table identifier := by
  have hsegments : (identifier.map fun segment => [Piece.name segment]).map
      (fun f => f.flatMap g) = identifier.map fun segment => [Piece.name segment] := by
    rw [List.map_map]
    refine List.map_congr_left fun segment _ => ?_
    simp [h.name]
  rw [table, h.flatMap_joinWith, hsegments]

theorem map_conjunction (h : FixesText g) (parts : List Fragment) :
    (conjunction parts).map (fun f => f.flatMap g) =
      conjunction (parts.map fun f => f.flatMap g) := by
  cases parts with
  | nil => rfl
  | cons f rest => simp [conjunction, h.word, h.flatMap_joinWith]

/-- The end of a query is renamed with its columns. -/
theorem map_tail (h : FixesText g) {q q' : Qualifier}
    (hcolumn : ∀ name, (q.column name).flatMap g = q'.column name) (d : Dialect) {ρ : Type}
    (s : Selection ρ) : (s.tail d q).map (fun f => f.flatMap g) = s.tail d q' := by
  have horder : (s.order.map (OrderItem.fragment q)).map (fun f => f.flatMap g) =
      s.order.map (OrderItem.fragment q') := by
    rw [List.map_map]
    refine List.map_congr_left fun o _ => ?_
    simp [OrderItem.fragment, hcolumn, h.word]
  have htail : ∀ order limit offset,
      (SqlCompose.tail d order limit offset).map (fun f => f.flatMap g) =
        SqlCompose.tail d (order.map fun f => f.flatMap g) limit offset := by
    intro order limit offset
    unfold SqlCompose.tail
    cases (d.paging limit offset).filter fun t => !t.isEmpty with
    | none => cases order <;> simp [h.word, h.flatMap_joinWith, h.flatMap_spaced]
    | some t =>
        cases order with
        | nil => cases d.orderForPaging <;> simp [h.word, h.flatMap_spaced]
        | cons f rest => simp [h.word, h.flatMap_joinWith, h.flatMap_spaced]
  rw [Selection.tail, htail, horder, Selection.tail]

theorem flatMap_rowsFrom (h : FixesText g) {number number' : Nat}
    (hnumber : g (.tableAlias number) = [.tableAlias number']) (columns : Fragment)
    (identifier : List String) (condition ending : Option Fragment) :
    (rowsFrom columns identifier number condition ending).flatMap g =
      rowsFrom (columns.flatMap g) identifier number' (condition.map fun f => f.flatMap g)
        (ending.map fun f => f.flatMap g) := by
  rw [rowsFrom, h.flatMap_spaced]
  simp [rowsFrom, h.word, h.flatMap_table, hnumber]

theorem flatMap_existence (h : FixesText g) {number number' : Nat}
    (hnumber : g (.tableAlias number) = [.tableAlias number']) (keyword : String)
    (identifier : List String) (innerColumn : String) (outer : Fragment)
    (parts : List Fragment) :
    (existence keyword identifier number innerColumn outer parts).flatMap g =
      existence keyword identifier number' innerColumn (outer.flatMap g)
        (parts.map fun f => f.flatMap g) := by
  simp [existence, Qualifier.column, h.word, h.name, h.flatMap_table, h.flatMap_joinWith, hnumber]

theorem flatMap_membership (h : FixesText g) (column rows : Fragment) :
    (membership column rows).flatMap g = membership (column.flatMap g) (rows.flatMap g) := by
  simp [membership, h.word]

theorem flatMap_weave (h : FixesText g) {first first' : Nat} (literals : List String)
    (count : Nat) (hmark : ∀ i, g (.mark (first + i)) = [.mark (first' + i)]) :
    (Template.weave literals ((List.range' first count).map .mark)).flatMap g =
      Template.weave literals ((List.range' first' count).map .mark) := by
  induction literals generalizing first first' count with
  | nil => simp
  | cons t literals ih =>
      cases count with
      | zero =>
          have hrest := ih 0 hmark
          simpa [h.verbatim] using hrest
      | succ count =>
          have hnext : ∀ i, g (.mark (first + 1 + i)) = [.mark (first' + 1 + i)] := by
            intro i
            simpa [Nat.add_assoc] using hmark (1 + i)
          have hfirst : g (.mark first) = [.mark first'] := hmark 0
          simp [List.range'_succ, h.verbatim, hfirst, ih count hnext]

end FixesText

/-! ## From one place to another -/

/--
Whether a map of pieces carries what is written behind one qualifier, after
the given numbers of placeholders and of aliases, to what is written behind
another one after other numbers.  Behind neither is a column written as
nothing, so that the same clauses are there in both places.
-/
structure Renames (d : Dialect) (g : Piece → Fragment) (q q' : Qualifier)
    (issued issued' aliases aliases' : Nat) : Prop extends FixesText g where
  column : ∀ name, (q.column name).flatMap g = q'.column name
  mark : ∀ i, g (.mark (issued + 1 + i)) = [.mark (issued' + 1 + i)]
  tableAlias : ∀ i, g (.tableAlias (aliases + 1 + i)) = [.tableAlias (aliases' + 1 + i)]
  visible : q.IsVisible d
  visible' : q'.IsVisible d

namespace Renames

variable {d : Dialect} {g : Piece → Fragment} {q q' : Qualifier}
  {issued issued' aliases aliases' : Nat}

/-- A renaming goes on where both places move on by the same numbers. -/
theorem advance (h : Renames d g q q' issued issued' aliases aliases') (marks numbers : Nat) :
    Renames d g q q' (issued + marks) (issued' + marks) (aliases + numbers)
      (aliases' + numbers) where
  toFixesText := h.toFixesText
  column := h.column
  mark i := by
    have hi := h.mark (marks + i)
    rwa [show issued + 1 + (marks + i) = issued + marks + 1 + i by omega,
      show issued' + 1 + (marks + i) = issued' + marks + 1 + i by omega] at hi
  tableAlias i := by
    have hi := h.tableAlias (numbers + i)
    rwa [show aliases + 1 + (numbers + i) = aliases + numbers + 1 + i by omega,
      show aliases' + 1 + (numbers + i) = aliases' + numbers + 1 + i by omega] at hi
  visible := h.visible
  visible' := h.visible'

/-- A renaming goes on in a sub-query, whose columns are behind the next alias. -/
theorem enter (h : Renames d g q q' issued issued' aliases aliases') :
    Renames d g (.tableAlias (aliases + 1)) (.tableAlias (aliases' + 1)) issued issued'
      (aliases + 1) (aliases' + 1) where
  toFixesText := h.toFixesText
  column name := by
    have hself := h.tableAlias 0
    simp only [Nat.add_zero] at hself
    simp [Qualifier.column, hself, h.word, h.name]
  mark := h.mark
  tableAlias := (h.advance 0 1).tableAlias
  visible := Qualifier.isVisible_tableAlias d _
  visible' := Qualifier.isVisible_tableAlias d _

/-- The alias that a sub-query takes. -/
theorem next (h : Renames d g q q' issued issued' aliases aliases') :
    g (.tableAlias (aliases + 1)) = [.tableAlias (aliases' + 1)] := h.tableAlias 0

end Renames

/-! ## Trees of conditions -/

private def Clause.IsRenamed (d : Dialect) (c : Clause Query) : Prop :=
  ∀ {g q q' issued issued' aliases aliases'}, Renames d g q q' issued issued' aliases aliases' →
    (c.layout d q issued aliases).flatMap g = c.layout d q' issued' aliases'

private def Query.IsRenamed (d : Dialect) (query : Query) : Prop :=
  ∀ {g q q' issued issued' aliases aliases'}, Renames d g q q' issued issued' aliases aliases' →
    (query.layoutParts d q issued aliases).map (fun f => f.flatMap g) =
      query.layoutParts d q' issued' aliases'

private theorem layoutAll_rename_of_forall {d : Dialect} {cs : List (Clause Query)}
    (hcs : ∀ c ∈ cs, c.IsRenamed d) {g : Piece → Fragment} {q q' : Qualifier}
    {issued issued' aliases aliases' : Nat}
    (h : Renames d g q q' issued issued' aliases aliases') :
    (Clause.layoutAll d q issued aliases cs).map (fun f => f.flatMap g) =
      Clause.layoutAll d q' issued' aliases' cs := by
  induction cs generalizing issued issued' aliases aliases' with
  | nil => simp [Clause.layoutAll]
  | cons c rest ih =>
      have hc := hcs c List.mem_cons_self h
      have hrest := ih (fun c' hc' => hcs c' (List.mem_cons_of_mem _ hc'))
        (h.advance c.values.length c.subqueries.length)
      rw [Clause.layoutAll_cons_of_visible h.visible, Clause.layoutAll_cons_of_visible h.visible',
        List.map_cons, hc, hrest]

private theorem isRenamed_hereditary (d : Dialect) :
    Hereditary (Clause.IsRenamed d) (Query.IsRenamed d) where
  compare column op value negated table := by
    intro g q q' issued issued' aliases aliases' h
    rw [Clause.layout, Clause.layout]
    split
    · simp [h.column, h.word]
    · have hmark := h.mark 0
      simp only [Nat.add_zero] at hmark
      simp [h.column, h.word, hmark]
  assign column value table := by
    intro g q q' issued issued' aliases aliases' h
    have hmark := h.mark 0
    simp only [Nat.add_zero] at hmark
    simp [Clause.layout, h.column, h.word, hmark]
  assignNull column table := by
    intro g q q' issued issued' aliases aliases' h
    simp [Clause.layout, h.column, h.word]
  manual column template table := by
    intro g q q' issued issued' aliases aliases' h
    rw [Clause.layout, Clause.layout, List.flatMap_append, h.column,
      h.flatMap_weave _ _ h.mark]
  related column inner innerColumn negated ih := by
    intro g q q' issued issued' aliases aliases' h
    rw [Clause.layout, Clause.layout, h.flatMap_existence h.next, h.column, ih h.enter]
  among query column ih := by
    intro g q q' issued issued' aliases aliases' h
    rw [Clause.layout, Clause.layout]
    rw [h.flatMap_membership, h.flatMap_rowsFrom h.next, h.column, h.enter.column,
      h.map_conjunction, ih h.enter, h.map_tail h.enter.column]
  selection s hconditions hrelated := by
    intro g q q' issued issued' aliases aliases' h
    rw [Query.layoutParts_mk, Query.layoutParts_mk, List.map_append,
      layoutAll_rename_of_forall hconditions h,
      layoutAll_rename_of_forall hrelated (h.advance _ _)]
  unwritable schema reason := by
    intro g q q' issued issued' aliases aliases' _
    simp [Query.layoutParts]

/-- Conditions at another place are those of the first one with the names of the other. -/
theorem Query.layoutParts_rename {d : Dialect} {g : Piece → Fragment} {q q' : Qualifier}
    {issued issued' aliases aliases' : Nat}
    (h : Renames d g q q' issued issued' aliases aliases') (query : Query) :
    (query.layoutParts d q issued aliases).map (fun f => f.flatMap g) =
      query.layoutParts d q' issued' aliases' :=
  (isRenamed_hereditary d).query query h

/-! ## Later placeholders -/

/-- A piece that is written after more values were bound. -/
def Piece.renumber (count : Nat) : Piece → Piece
  | mark n => mark (n + count)
  | p => p

/-- A fragment that is written after more values were bound. -/
def Fragment.renumber (count : Nat) (f : Fragment) : Fragment := f.map (Piece.renumber count)

theorem Fragment.renumber_eq_flatMap (count : Nat) (f : Fragment) :
    f.renumber count = f.flatMap fun p => [p.renumber count] :=
  List.map_eq_flatMap

theorem fixesText_renumber (count : Nat) : FixesText fun p => [p.renumber count] where
  word _ := rfl
  verbatim _ := rfl
  name _ := rfl

/-- Nothing else is taken for another table's. -/
theorem Fragment.aliases_renumber (count : Nat) (f : Fragment) :
    (f.renumber count).aliases = f.aliases := by
  induction f with
  | nil => rfl
  | cons p rest ih =>
      rw [renumber, List.map_cons, aliases_cons, aliases_cons]
      rw [renumber] at ih
      rw [ih]
      cases p <;> rfl

/-- Where all placeholders look alike, the text is the same. -/
theorem Fragment.text_renumber {d : Dialect} (hd : ∀ i j, d.placeholder i = d.placeholder j)
    (count : Nat) (f : Fragment) : (f.renumber count).text d = f.text d := by
  induction f with
  | nil => rfl
  | cons p rest ih =>
      rw [renumber, List.map_cons, text_cons, text_cons]
      rw [renumber] at ih
      rw [ih]
      cases p with
      | mark n => rw [Piece.renumber, Piece.text, Piece.text, hd]
      | _ => rfl

/-- Behind an alias nothing but the placeholders moves when values were bound before. -/
theorem renames_renumber (d : Dialect) (number issued aliases count : Nat) :
    Renames d (fun p => [p.renumber count]) (.tableAlias number) (.tableAlias number) issued
      (issued + count) aliases aliases where
  toFixesText := fixesText_renumber count
  column _ := rfl
  mark i := by
    rw [Piece.renumber, show issued + 1 + i + count = issued + count + 1 + i by omega]
  tableAlias _ := rfl
  visible := Qualifier.isVisible_tableAlias d number
  visible' := Qualifier.isVisible_tableAlias d number

/-- A list of rows that is written later has later placeholders, and is the same otherwise. -/
theorem Selection.rowsLayout_renumber (d : Dialect) (s : Selection Query) {columns : Fragment}
    {count : Nat} (hcolumns : columns.renumber count = columns) (order : List OrderItem)
    (issued aliases : Nat) :
    s.rowsLayout d columns order (issued + count) aliases =
      (s.rowsLayout d columns order issued aliases).renumber count := by
  have h := renames_renumber d (aliases + 1) issued (aliases + 1) count
  rw [renumber_eq_flatMap] at hcolumns
  rw [renumber_eq_flatMap, rowsLayout, rowsLayout, h.flatMap_rowsFrom rfl, hcolumns,
    h.map_conjunction, Query.layoutParts_rename h, h.map_tail h.column]

end SqlCompose
