import SqlCompose.Proofs.Query.Relabel
import SqlCompose.Proofs.Statement.Placeholder

/-!
# The names in conditions

A statement names the tables and the columns that it is about, and it says
which they are in an order that depends on the query alone.  A `Label` is a
name together with the table that it belongs to, and `Clause.labels`,
`Query.labels` are the names of conditions in the order in which they are
written.

Two fragments that differ in their names only, as the labels say, are related
(`Fragment.IsRelabeled`): in the one stand the names of the labels, in the
other those that a relabeling gives them, and all other pieces are the same.
Fragments that are put together from related ones are related, by the labels
in a row.

## Main results

* `AreRelabeled.joinWith`, `AreRelabeled.conjunction`, `IsRelabeled.rowsFrom`
  — composition.
* `Clause.isKept`, `Query.isKept` — what is written for conditions by other
  names is what was written, by other names; and the values stay.
-/

namespace SqlCompose

/-- A name in a statement, with the table that it belongs to. -/
inductive Label where
  /-- A segment of the name of the table. -/
  | segment (schema : Schema) (name : String)
  /-- A column of the table. -/
  | column (schema : Schema) (name : String)

/-- The name itself. -/
def Label.name : Label → String
  | segment _ name => name
  | column _ name => name

/-- The name that a relabeling gives in the place of this one. -/
def Relabeling.label (ρ : Relabeling) : Label → String
  | .segment s name => ρ.segment s name
  | .column s name => ρ.column s name

/-! ## Names in their order -/

namespace Schema

/-- The segments of the table's name. -/
def tableLabels (s : Schema) : List Label := s.identifier.map (.segment s)

/-- Some columns of the table. -/
def columnLabels (s : Schema) (columns : List Column) : List Label :=
  columns.map fun c => .column s c.name

end Schema

/-- The columns that a query is ordered by. -/
def Selection.orderLabels {ρ : Type} (s : Selection ρ) : List Label :=
  s.order.map fun o => .column s.schema o.column

mutual
/--
The names in a clause on a table, in the order in which they are written.
What stands before the columns of the table has names of its own.
-/
def Clause.labels (s : Schema) (front : List Label) : Clause Query → List Label
  | .compare column .. => front ++ [.column s column]
  | .assign column .. => front ++ [.column s column]
  | .assignNull column .. => front ++ [.column s column]
  | .manual column .. => front ++ [.column s column]
  | .related column inner innerColumn _ =>
    .column inner.selection.schema innerColumn :: (inner.selection.schema.tableLabels ++
      (.column inner.selection.schema innerColumn :: (front ++ [.column s column]) ++
        Query.labels [] inner))
  | .among query _ =>
    let key := Label.column query.selection.schema query.selection.schema.firstKey
    front ++ [key] ++ ([key] ++ (query.selection.schema.tableLabels ++
      (Query.labels [] query ++ query.selection.orderLabels)))

/-- The names in clauses on a table. -/
def Clause.labelsAll (s : Schema) (front : List Label) : List (Clause Query) → List Label
  | [] => []
  | c :: rest => Clause.labels s front c ++ Clause.labelsAll s front rest

/-- The names in the conditions of a query. -/
def Query.labels (front : List Label) : Query → List Label
  | .unwritable .. => []
  | .mk ⟨schema, conditions, related, _, _, _⟩ =>
    Clause.labelsAll schema front conditions ++ Clause.labelsAll schema front related
end

theorem Query.labels_mk (front : List Label) (s : Selection Query) :
    (Query.mk s).labels front =
      Clause.labelsAll s.schema front s.conditions ++
        Clause.labelsAll s.schema front s.related := by
  rw [Query.labels.eq_def]

/-! ## Fragments by other names -/

/-- The identifier that a piece is. -/
def Piece.name? : Piece → Option String
  | name identifier => some identifier
  | _ => none

/-- A piece of which does not stay what it names. -/
def Piece.unnamed : Piece → Piece
  | name _ => name ""
  | p => p

namespace Fragment

/-- The identifiers in a fragment, in their order. -/
def names (f : Fragment) : List String := f.filterMap Piece.name?

/-- A fragment without its identifiers, of which only the places stay. -/
def unnamed (f : Fragment) : Fragment := f.map Piece.unnamed

/--
That two fragments differ in their identifiers only: in the first one stand
the names of the labels, and in the second one those of the relabeling.
-/
structure IsRelabeled (ρ : Relabeling) (labels : List Label) (f f' : Fragment) : Prop where
  names : f.names = labels.map Label.name
  names' : f'.names = labels.map ρ.label
  unnamed : f'.unnamed = f.unnamed

/-- That fragments are related one by one, by the labels in a row. -/
inductive AreRelabeled (ρ : Relabeling) : List Label → List Fragment → List Fragment → Prop where
  | nil : AreRelabeled ρ [] [] []
  | cons {labels rest : List Label} {f f' : Fragment} {fs fs' : List Fragment}
      (head : IsRelabeled ρ labels f f') (tail : AreRelabeled ρ rest fs fs') :
      AreRelabeled ρ (labels ++ rest) (f :: fs) (f' :: fs')

variable {ρ : Relabeling} {labels labels' : List Label} {f f' g g' : Fragment}
  {fs fs' gs gs' : List Fragment}

/-- A fragment without identifiers stays as it is. -/
theorem isRelabeled_of_names_eq_nil (h : f.names = []) : IsRelabeled ρ [] f f := ⟨h, h, rfl⟩

theorem isRelabeled_name (l : Label) :
    IsRelabeled ρ [l] [.name l.name] [.name (ρ.label l)] := ⟨rfl, rfl, rfl⟩

namespace IsRelabeled

theorem append (hf : IsRelabeled ρ labels f f') (hg : IsRelabeled ρ labels' g g') :
    IsRelabeled ρ (labels ++ labels') (f ++ g) (f' ++ g') where
  names := by
    have h := hf.names
    have h' := hg.names
    simp only [Fragment.names] at h h' ⊢
    rw [List.filterMap_append, h, h', List.map_append]
  names' := by
    have h := hf.names'
    have h' := hg.names'
    simp only [Fragment.names] at h h' ⊢
    rw [List.filterMap_append, h, h', List.map_append]
  unnamed := by
    have h := hf.unnamed
    have h' := hg.unnamed
    simp only [Fragment.unnamed] at h h' ⊢
    rw [List.map_append, List.map_append, h, h']

/-- A piece in front that is no identifier. -/
theorem cons {p : Piece} (hp : p.name? = none) (hf : IsRelabeled ρ labels f f') :
    IsRelabeled ρ labels (p :: f) (p :: f') := by
  have hone : IsRelabeled ρ [] [p] [p] :=
    isRelabeled_of_names_eq_nil (List.filterMap_cons_none hp)
  exact hone.append hf

theorem word (hf : IsRelabeled ρ labels f f') (t : String) :
    IsRelabeled ρ labels (.word t :: f) (.word t :: f') := hf.cons rfl

/-- Pieces behind that are no identifiers. -/
theorem closed (hf : IsRelabeled ρ labels f f') (hg : g.names = []) :
    IsRelabeled ρ labels (f ++ g) (f' ++ g) := by
  simpa using hf.append (isRelabeled_of_names_eq_nil (ρ := ρ) hg)

end IsRelabeled

namespace AreRelabeled

theorem append (h : AreRelabeled ρ labels fs fs') (h' : AreRelabeled ρ labels' gs gs') :
    AreRelabeled ρ (labels ++ labels') (fs ++ gs) (fs' ++ gs') := by
  induction h with
  | nil => exact h'
  | cons head _ ih =>
      rw [List.append_assoc]
      exact AreRelabeled.cons head ih

/-- Fragments that are written for things one by one. -/
theorem map {α : Type} (label : α → List Label) (write write' : α → Fragment) {xs : List α}
    (h : ∀ x ∈ xs, IsRelabeled ρ (label x) (write x) (write' x)) :
    AreRelabeled ρ (xs.flatMap label) (xs.map write) (xs.map write') := by
  induction xs with
  | nil => exact .nil
  | cons x rest ih =>
      obtain ⟨hx, hrest⟩ := List.forall_mem_cons.1 h
      exact .cons hx (ih hrest)

theorem joinWith (h : AreRelabeled ρ labels fs fs') (separator : String) :
    IsRelabeled ρ labels (joinWith separator fs) (joinWith separator fs') := by
  induction h with
  | nil => exact isRelabeled_of_names_eq_nil rfl
  | cons head tail ih =>
      cases tail with
      | nil => simpa [Fragment.joinWith] using head
      | cons next rest =>
          rw [joinWith_cons_cons, joinWith_cons_cons]
          exact head.append (ih.word separator)

/-- Conditions with a space before them. -/
theorem conjunction (h : AreRelabeled ρ labels fs fs') :
    IsRelabeled ρ labels (behindSpace (conjunction fs)) (behindSpace (conjunction fs')) := by
  have hjoined := ((h.joinWith " AND ").closed (g := [.word " )"]) rfl).word "WHERE ( "
  cases h with
  | nil => exact isRelabeled_of_names_eq_nil rfl
  | cons head tail => exact hjoined.word " "

end AreRelabeled

/-- The name of a table. -/
theorem isRelabeled_table (ρ : Relabeling) (s : Schema) :
    IsRelabeled ρ s.tableLabels (table s.identifier) (table (s.relabel ρ).identifier) := by
  have hsegment : ∀ t ∈ s.identifier,
      IsRelabeled ρ [Label.segment s t] [.name t] [.name (ρ.segment s t)] :=
    fun t _ => isRelabeled_name (.segment s t)
  have h := AreRelabeled.map (fun t => [Label.segment s t]) (fun t => [.name t])
    (fun t => [.name (ρ.segment s t)]) hsegment
  rw [← List.map_eq_flatMap] at h
  simpa [table, Schema.tableLabels, Function.comp_def] using h.joinWith "."

end Fragment

open Fragment

/-! ## Columns -/

/-- That two qualifiers differ in their identifiers only, as do the columns behind them. -/
def Qualifier.IsRelabeled (ρ : Relabeling) (front : List Label) (q q' : Qualifier) : Prop :=
  ∀ l : Label, Fragment.IsRelabeled ρ (front ++ [l]) (q.column l.name) (q'.column (ρ.label l))

variable {ρ : Relabeling} {front labels : List Label} {q q' : Qualifier}

namespace Qualifier

theorem isRelabeled_none : Qualifier.IsRelabeled ρ [] .none .none := isRelabeled_name

theorem isRelabeled_tableAlias (number : Nat) :
    Qualifier.IsRelabeled ρ [] (.tableAlias number) (.tableAlias number) := fun l =>
  ((isRelabeled_name l).word ".").cons rfl

theorem isRelabeled_table (s : Schema) :
    Qualifier.IsRelabeled ρ s.tableLabels (.table s.identifier)
      (.table (s.relabel ρ).identifier) := fun l =>
  (Fragment.isRelabeled_table ρ s).append ((isRelabeled_name l).word ".")

end Qualifier

/-- Columns in a row, with a word between neighbours. -/
theorem Qualifier.IsRelabeled.columns (hq : Qualifier.IsRelabeled ρ [] q q') (s : Schema)
    (columns : List Column) (separator : String) :
    Fragment.IsRelabeled ρ (s.columnLabels columns)
      (joinWith separator (columns.map fun c => q.column c.name))
      (joinWith separator ((columns.map (Column.relabel (ρ.column s))).map
        fun c => q'.column c.name)) := by
  have hcolumn : ∀ c ∈ columns, Fragment.IsRelabeled ρ [Label.column s c.name]
      (q.column c.name) (q'.column (ρ.column s c.name)) := fun c _ => hq (.column s c.name)
  have h := (AreRelabeled.map (fun c : Column => [Label.column s c.name])
    (fun c => q.column c.name) (fun c => q'.column (ρ.column s c.name)) hcolumn).joinWith separator
  rw [← List.map_eq_flatMap] at h
  simpa [Schema.columnLabels, Function.comp_def] using h

/-! ## The parts of a list of rows -/

/-- The end of a query with an order, and a space before it. -/
theorem Fragment.AreRelabeled.tail {fs fs' : List Fragment} (h : AreRelabeled ρ labels fs fs')
    (d : Dialect) (limit offset : Option Value) :
    Fragment.IsRelabeled ρ labels (behindSpace (tail d fs limit offset))
      (behindSpace (tail d fs' limit offset)) := by
  have hordering := (h.joinWith ", ").word "ORDER BY "
  cases h with
  | nil =>
      refine isRelabeled_of_names_eq_nil ?_
      unfold SqlCompose.tail
      cases (d.paging limit offset).filter fun t => !t.isEmpty with
      | none => rfl
      | some t => cases d.orderForPaging <;> rfl
  | cons head rest =>
      unfold SqlCompose.tail
      cases (d.paging limit offset).filter fun t => !t.isEmpty with
      | none => simpa [spaced, Fragment.joinWith, behindSpace] using hordering.word " "
      | some t =>
          have hwindow := hordering.closed (g := [.word " ", .word t]) rfl
          simpa [spaced, Fragment.joinWith, behindSpace] using hwindow.word " "

/-- The end of a query, with a space before it. -/
theorem Selection.isRelabeled_tail (hq : Qualifier.IsRelabeled ρ [] q q') (d : Dialect)
    (s : Selection Query) :
    Fragment.IsRelabeled ρ s.orderLabels (behindSpace (s.tail d q))
      (behindSpace ((s.relabel ρ).tail d q')) := by
  have hitem : ∀ o ∈ s.order, Fragment.IsRelabeled ρ [Label.column s.schema o.column]
      (o.fragment q) (OrderItem.fragment q' { o with column := ρ.column s.schema o.column }) :=
    fun o _ => (hq (.column s.schema o.column)).closed rfl
  have hitems := (AreRelabeled.map _ _ _ hitem).tail d (s.limit.map boundValue)
    (s.offset.map boundValue)
  rw [← List.map_eq_flatMap] at hitems
  simpa [Selection.tail, relabel, orderLabels, Function.comp_def] using hitems

namespace Fragment.IsRelabeled

variable {endings : List Label} {columns columns' outer outer' : Fragment}
  {condition condition' tail tail' : Option Fragment} {parts parts' : List Fragment}

/-- A list of rows. -/
theorem rowsFrom (hcolumns : IsRelabeled ρ front columns columns') (s : Schema) (number : Nat)
    (hcondition : IsRelabeled ρ labels (behindSpace condition) (behindSpace condition'))
    (htail : IsRelabeled ρ endings (behindSpace tail) (behindSpace tail')) :
    IsRelabeled ρ (front ++ (s.tableLabels ++ (labels ++ endings)))
      (rowsFrom columns s.identifier number condition tail)
      (rowsFrom columns' (s.relabel ρ).identifier number condition' tail') := by
  have htable := (isRelabeled_table ρ s).closed (g := [.word " ", .tableAlias number]) rfl
  have hhead := (hcolumns.append (htable.word " FROM ")).word "SELECT "
  have hrows := hhead.append (hcondition.append htail)
  rw [SqlCompose.rowsFrom, SqlCompose.rowsFrom, spaced_some_cons, spaced_some_cons]
  simpa using hrows

/-- The condition that there is a row in another table. -/
theorem existence (houter : IsRelabeled ρ front outer outer')
    (hparts : AreRelabeled ρ labels parts parts') (keyword : String) (s : Schema) (number : Nat)
    (innerColumn : String) :
    IsRelabeled ρ (.column s innerColumn :: (s.tableLabels ++
        (.column s innerColumn :: front ++ labels)))
      (existence keyword s.identifier number innerColumn outer parts)
      (existence keyword (s.relabel ρ).identifier number (ρ.column s innerColumn) outer'
        parts') := by
  have hinner := Qualifier.isRelabeled_tableAlias (ρ := ρ) number (.column s innerColumn)
  have hequal := hinner.append (houter.word " = ")
  have hwhere := ((AreRelabeled.cons hequal hparts).joinWith " AND ").closed
    (g := [.word " )"]) rfl
  have htable := (isRelabeled_table ρ s).append
    (((hwhere.word " WHERE ").cons (p := .tableAlias number) rfl).word " ")
  have hselect := (hinner.append (htable.word " FROM ")).word " ( SELECT "
  simpa [SqlCompose.existence, Label.name, Relabeling.label] using hselect.word keyword

/-- The condition that a column is among the rows of a list. -/
theorem membership (hcolumn : IsRelabeled ρ front columns columns')
    (hrows : IsRelabeled ρ labels outer outer') :
    IsRelabeled ρ (front ++ labels) (membership columns outer) (membership columns' outer') := by
  have h := hcolumn.append ((hrows.closed (g := [.word " )"]) rfl).word " IN ( ")
  simpa [SqlCompose.membership] using h

end Fragment.IsRelabeled

/-! ## Trees of conditions -/

/-- The first column of a key goes by its other name. -/
theorem Schema.firstKey_relabel {s : Schema} {c : Column} (h : s.uniqueColumn = .ok c) :
    (s.relabel ρ).firstKey = ρ.column s s.firstKey := by
  unfold uniqueColumn at h
  unfold firstKey
  rw [keyColumns_relabel]
  cases hkey : s.keyColumns with
  | nil =>
      rw [hkey] at h
      cases h
  | cons k rest => rfl

/--
That a clause and the clause by other names are written alike, with the same
values.  The numbers of sub-queries and of faults are the same as well.
-/
structure Clause.IsKept (ρ : Relabeling) (b : BuiltIn) (c : Clause Query) : Prop where
  values : ∀ s, (c.relabel ρ s).values = c.values
  templates : ∀ s, (c.relabel ρ s).templates = c.templates
  subqueries : ∀ s, (c.relabel ρ s).subqueries.length = c.subqueries.length
  faults : ∀ s, ((c.relabel ρ s).faults (.ofBuiltIn b)).length = (c.faults (.ofBuiltIn b)).length
  layout : c.faults (.ofBuiltIn b) = [] → ∀ s front q q', Qualifier.IsRelabeled ρ front q q' →
    ∀ issued aliases, Fragment.IsRelabeled ρ (c.labels s front)
      (c.layout (.ofBuiltIn b) q issued aliases)
      ((c.relabel ρ s).layout (.ofBuiltIn b) q' issued aliases)

/-- That the conditions of a query and those by other names are written alike. -/
structure Query.IsKept (ρ : Relabeling) (b : BuiltIn) (query : Query) : Prop where
  values : (query.relabel ρ).values = query.values
  templates : (query.relabel ρ).templates = query.templates
  subqueries : (query.relabel ρ).subqueries.length = query.subqueries.length
  faults : ((query.relabel ρ).faults (.ofBuiltIn b)).length =
    (query.faults (.ofBuiltIn b)).length
  layout : query.faults (.ofBuiltIn b) = [] → ∀ front q q', Qualifier.IsRelabeled ρ front q q' →
    ∀ issued aliases, AreRelabeled ρ (query.labels front)
      (query.layoutParts (.ofBuiltIn b) q issued aliases)
      ((query.relabel ρ).layoutParts (.ofBuiltIn b) q' issued aliases)

/-- That the clauses of a list and those by other names are written alike. -/
structure Clause.AreKept (ρ : Relabeling) (b : BuiltIn) (s : Schema) (cs : List (Clause Query)) :
    Prop where
  values : Clause.valuesAll (Clause.relabelAll ρ s cs) = Clause.valuesAll cs
  templates : Clause.templatesAll (Clause.relabelAll ρ s cs) = Clause.templatesAll cs
  subqueries : (Clause.subqueriesAll (Clause.relabelAll ρ s cs)).length =
    (Clause.subqueriesAll cs).length
  faults : (Clause.faultsAll (.ofBuiltIn b) (Clause.relabelAll ρ s cs)).length =
    (Clause.faultsAll (.ofBuiltIn b) cs).length
  layout : Clause.faultsAll (.ofBuiltIn b) cs = [] → ∀ front q q',
    Qualifier.IsRelabeled ρ front q q' → ∀ issued aliases,
      AreRelabeled ρ (Clause.labelsAll s front cs)
        (Clause.layoutAll (.ofBuiltIn b) q issued aliases cs)
        (Clause.layoutAll (.ofBuiltIn b) q' issued aliases (Clause.relabelAll ρ s cs))

/-- A clause that is a column and the same behind it by any name. -/
private theorem isKept_of_column {b : BuiltIn} {c : Clause Query} (column : String)
    (rest : Nat → Fragment) (hrest : ∀ issued, (rest issued).names = [])
    (hlabels : ∀ s front, c.labels s front = front ++ [.column s column])
    (hlayout : ∀ q issued aliases,
      c.layout (.ofBuiltIn b) q issued aliases = q.column column ++ rest issued)
    (hrelabel : ∀ s, (c.relabel ρ s).values = c.values ∧
      (c.relabel ρ s).templates = c.templates ∧ (c.relabel ρ s).subqueries = c.subqueries ∧
      (c.relabel ρ s).faults (.ofBuiltIn b) = c.faults (.ofBuiltIn b) ∧
      ∀ q issued aliases, (c.relabel ρ s).layout (.ofBuiltIn b) q issued aliases =
        q.column (ρ.column s column) ++ rest issued) : c.IsKept ρ b where
  values s := (hrelabel s).1
  templates s := (hrelabel s).2.1
  subqueries s := congrArg List.length (hrelabel s).2.2.1
  faults s := congrArg List.length (hrelabel s).2.2.2.1
  layout _ s front q q' hq issued aliases := by
    rw [hlabels, hlayout, (hrelabel s).2.2.2.2]
    exact (hq (.column s column)).closed (hrest issued)

/-- Manual fragments have no identifiers. -/
theorem Template.names_weave (literals : List String) (numbers : List Nat) :
    (weave literals (numbers.map .mark)).names = [] := by
  induction literals generalizing numbers with
  | nil =>
      rw [weave_nil]
      rfl
  | cons t rest ih =>
      cases numbers with
      | nil =>
          rw [List.map_nil, weave_cons_nil]
          exact ih []
      | cons n numbers =>
          rw [List.map_cons, weave_cons_cons]
          exact ih numbers

private theorem isKept_related {b : BuiltIn} {inner : Query} (ih : inner.IsKept ρ b)
    (column innerColumn : String) (negated : Bool) :
    (Clause.related column inner innerColumn negated).IsKept ρ b where
  values s := by
    rw [Clause.relabel]
    exact ih.values
  templates s := by
    rw [Clause.relabel]
    exact ih.templates
  subqueries s := by
    rw [Clause.relabel]
    exact congrArg (· + 1) ih.subqueries
  faults s := by
    rw [Clause.relabel]
    exact ih.faults
  layout hfaults s front q q' hq issued aliases := by
    have hparts := ih.layout hfaults [] _ _
      (Qualifier.isRelabeled_tableAlias (aliases + 1)) issued (aliases + 1)
    rw [Clause.labels, Clause.relabel, Clause.layout, Clause.layout, Query.selection_relabel]
    exact (hq (.column s column)).existence hparts _ _ _ _

private theorem isKept_among {b : BuiltIn} {query : Query} (ih : query.IsKept ρ b)
    (column : Option String) : (Clause.among query column).IsKept ρ b where
  values s := by
    rw [Clause.relabel]
    exact ih.values
  templates s := by
    rw [Clause.relabel]
    exact ih.templates
  subqueries s := by
    rw [Clause.relabel]
    exact congrArg (· + 1) ih.subqueries
  faults s := by
    rw [Clause.relabel]
    have hkeys := Schema.keyColumns_relabel ρ (s := query.selection.schema)
    have hown : ((Clause.among (query.relabel ρ) (column.map (ρ.column s))).ownFaults
        (.ofBuiltIn b)).length =
          ((Clause.among query column).ownFaults (.ofBuiltIn b)).length := by
      simp only [Clause.ownFaults, Query.selection_relabel, Selection.schema_relabel,
        Schema.uniqueColumn, hkeys]
      cases query.selection.schema.keyColumns <;> simp
    have hinner := ih.faults
    simp only [Query.faults] at hinner
    simp only [Clause.faults, Clause.gather, List.length_append, hown, hinner]
  layout hfaults s front q q' hq issued aliases := by
    obtain ⟨hown, hinner⟩ := List.append_eq_nil_iff.1 hfaults
    obtain ⟨c, hkey⟩ : ∃ c, query.selection.schema.uniqueColumn = .ok c := by
      cases hkey : query.selection.schema.uniqueColumn with
      | error e => simp [hkey] at hown
      | ok c => exact ⟨c, rfl⟩
    have hself := Qualifier.isRelabeled_tableAlias (ρ := ρ) (aliases + 1)
    have hparts := ih.layout hinner [] _ _ hself issued (aliases + 1)
    rw [Clause.labels, Clause.relabel, Clause.layout, Clause.layout, Query.selection_relabel,
      Selection.schema_relabel, Schema.firstKey_relabel hkey]
    exact (hq (.column _ _)).membership ((hself (.column _ _)).rowsFrom query.selection.schema
      (aliases + 1) hparts.conjunction (Selection.isRelabeled_tail hself _ query.selection))

private theorem areKept_of_forall {b : BuiltIn} {cs : List (Clause Query)}
    (h : ∀ c ∈ cs, c.IsKept ρ b) (s : Schema) : Clause.AreKept ρ b s cs := by
  induction cs with
  | nil =>
      constructor <;> rw [Clause.relabelAll]
      intro _ front q q' _ issued aliases
      exact .nil
  | cons c rest ih =>
      obtain ⟨hc, hrest⟩ := List.forall_mem_cons.1 h
      obtain ⟨hvalues, htemplates, hsubqueries, hfaults, hlayout⟩ := ih hrest
      constructor <;> rw [Clause.relabelAll]
      · rw [Clause.valuesAll_cons, Clause.valuesAll_cons, hc.values, hvalues]
      · rw [Clause.templatesAll_cons, Clause.templatesAll_cons, hc.templates, htemplates]
      · rw [Clause.subqueriesAll_cons, Clause.subqueriesAll_cons, List.length_append,
          List.length_append, hc.subqueries, hsubqueries]
      · have hown := hc.faults s
        simp only [Clause.faults, Clause.faultsAll] at hown hfaults
        simp only [Clause.faultsAll, Clause.gatherAll, List.length_append, hown, hfaults]
      · intro hnone front q q' hq issued aliases
        obtain ⟨hown, hothers⟩ := List.append_eq_nil_iff.1 hnone
        rw [Clause.labelsAll, Clause.layoutAll_cons, Clause.layoutAll_cons, hc.values,
          hc.subqueries]
        exact .cons (hc.layout hown s front q q' hq issued aliases)
          (hlayout hothers front q q' hq _ _)

private theorem isKept_hereditary (ρ : Relabeling) (b : BuiltIn) :
    Hereditary (Clause.IsKept ρ b) (Query.IsKept ρ b) where
  compare column op value negated table := by
    refine isKept_of_column column (fun issued => if value.isNull
      then [.word (if negated then " IS NOT NULL" else " IS NULL")]
      else [.word " ", .word ((Dialect.ofBuiltIn b).operator op.symbol), .word " ",
        .mark (issued + 1)]) (fun issued => ?_) (fun s front => by rw [Clause.labels])
        (fun q issued aliases => ?_) fun s => ?_
    · split <;> rfl
    · rw [Clause.layout]
      split <;> rfl
    · rw [Clause.relabel]
      refine ⟨rfl, rfl, rfl, rfl, fun q issued aliases => ?_⟩
      rw [Clause.layout]
      split <;> rfl
  assign column value table := by
    refine isKept_of_column column (fun issued => [.word "=", .mark (issued + 1)])
      (fun _ => rfl) (fun s front => by rw [Clause.labels])
      (fun q issued aliases => by rw [Clause.layout]) fun s => ?_
    rw [Clause.relabel]
    exact ⟨rfl, rfl, rfl, rfl, fun q issued aliases => by rw [Clause.layout]⟩
  assignNull column table := by
    refine isKept_of_column column (fun _ => [.word "=NULL"])
      (fun _ => rfl) (fun s front => by rw [Clause.labels])
      (fun q issued aliases => by rw [Clause.layout]) fun s => ?_
    rw [Clause.relabel]
    exact ⟨rfl, rfl, rfl, rfl, fun q issued aliases => by rw [Clause.layout]⟩
  manual column template table := by
    refine isKept_of_column column (fun issued =>
      Template.weave template.literals
        ((List.range' (issued + 1) template.values.length).map .mark))
      (fun _ => Template.names_weave _ _) (fun s front => by rw [Clause.labels])
      (fun q issued aliases => by rw [Clause.layout]) fun s => ?_
    rw [Clause.relabel]
    exact ⟨rfl, rfl, rfl, rfl, fun q issued aliases => by rw [Clause.layout]⟩
  related column inner innerColumn negated ih := isKept_related ih column innerColumn negated
  among query column ih := isKept_among ih column
  selection s hconditions hrelated := by
    obtain ⟨hvalues, htemplates, hsubqueries, hfaults, hlayout⟩ :=
      areKept_of_forall hconditions s.schema
    obtain ⟨hvalues', htemplates', hsubqueries', hfaults', hlayout'⟩ :=
      areKept_of_forall hrelated s.schema
    refine ⟨?_, ?_, ?_, ?_, fun hnone front q q' hq issued aliases => ?_⟩
    · rw [Query.relabel_mk, Query.values_mk, Query.values_mk]
      simp only [Selection.relabel, hvalues, hvalues']
    · rw [Query.relabel_mk, Query.templates_mk, Query.templates_mk]
      simp only [Selection.relabel, htemplates, htemplates']
    · rw [Query.relabel_mk, Query.subqueries_mk, Query.subqueries_mk, List.length_append,
        List.length_append]
      simp only [Selection.relabel, hsubqueries, hsubqueries']
    · simp only [Clause.faultsAll] at hfaults hfaults'
      rw [Query.relabel_mk, Query.faults, Query.gather_mk, Query.gather_mk,
        List.length_append, List.length_append]
      simp only [Selection.relabel, hfaults, hfaults']
    · rw [Query.faults, Query.gather_mk, List.append_eq_nil_iff] at hnone
      rw [Query.labels_mk, Query.relabel_mk, Query.layoutParts_mk, Query.layoutParts_mk]
      simp only [Selection.relabel, hvalues, hsubqueries]
      exact (hlayout hnone.1 front q q' hq _ _).append (hlayout' hnone.2 front q q' hq _ _)
  unwritable schema reason := by
    constructor <;> rw [Query.relabel]
    · rfl
    · rfl
    · rfl
    · rfl
    · intro hnone
      exact absurd hnone (List.cons_ne_nil _ _)

/-- Clauses by other names are written as the clauses are, and bind their values. -/
theorem Clause.areKept (ρ : Relabeling) (b : BuiltIn) (s : Schema) (cs : List (Clause Query)) :
    Clause.AreKept ρ b s cs :=
  areKept_of_forall (fun c _ => (isKept_hereditary ρ b).clause c) s

/-- A query by other names is written as the query is, and binds its values. -/
theorem Query.isKept (ρ : Relabeling) (b : BuiltIn) (query : Query) : query.IsKept ρ b :=
  (isKept_hereditary ρ b).query query

/-- A clause by other names is written as the clause is, and binds its values. -/
theorem Clause.isKept (ρ : Relabeling) (b : BuiltIn) (c : Clause Query) : c.IsKept ρ b :=
  (isKept_hereditary ρ b).clause c

end SqlCompose
