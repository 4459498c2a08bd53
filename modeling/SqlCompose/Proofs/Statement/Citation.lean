import SqlCompose.Proofs.Statement.Declaration
import SqlCompose.Proofs.Statement.Placeholder

/-!
# Tables and columns that a statement names

A statement names columns, each behind the alias of a list of rows, and the
tables that the aliases stand for.  `Fragment.sightings` reads these off what
is written: a column behind its alias, a table in front of its alias, and any
other name.  What the caller wrote himself is passed over, and so is what a
dialect chooses.

Which columns of which tables a tree names can also be said without reading
anything (`Clause.citations`).  That the two agree, where an alias is taken
for the table of the list that it was given to, is shown here for every tree.

## Main results

* `Query.areCited_layoutParts` — the conditions of a query are written with the
  columns and the tables that they cite.
* `Selection.cites_fetchLayout` — so is a query that is fetched.
-/

namespace SqlCompose

open Fragment

/-! ## Reading names -/

/-- What is seen of columns and tables in a statement. -/
inductive Sighting where
  /-- A column behind an alias. -/
  | column (number : Nat) (name : String)
  /-- A table in front of the alias that it is given. -/
  | table (identifier : List String) (number : Nat)
  /-- A name that is neither a column behind an alias nor of a table with one. -/
  | stray (name : String)
  deriving DecidableEq, Repr

namespace Fragment

/-- What is seen in a fragment, behind names which are a table's if an alias comes next. -/
def sightingsAfter (names : List String) : Fragment → List Sighting
  | [] => names.map .stray
  | .tableAlias n :: .word "." :: .name c :: rest =>
    names.map .stray ++ .column n c :: sightingsAfter [] rest
  | .word " " :: .tableAlias n :: rest => .table names n :: sightingsAfter [] rest
  -- A word behind a space is chosen by the dialect, or starts another part.
  | .word " " :: .word _ :: rest => names.map .stray ++ sightingsAfter [] rest
  | .word "." :: rest => sightingsAfter names rest
  | .name c :: rest => sightingsAfter (names ++ [c]) rest
  | _ :: rest => names.map .stray ++ sightingsAfter [] rest

/-- The columns and the tables that are seen in a fragment. -/
def sightings (f : Fragment) : List Sighting := sightingsAfter [] f

/-- Whether these columns and tables are seen in a fragment, whatever comes behind it. -/
def Shows (f : Fragment) (found : List Sighting) : Prop :=
  ∀ rest, sightingsAfter [] (f ++ rest) = found ++ sightingsAfter [] rest

namespace Shows

variable {f g : Fragment} {found found' : List Sighting}

theorem nil : Shows [] [] := fun _ => rfl

theorem append (hf : f.Shows found) (hg : g.Shows found') : (f ++ g).Shows (found ++ found') := by
  intro rest
  rw [List.append_assoc, hf, hg, List.append_assoc]

theorem word (t : String) (h : t ≠ " ") : Shows [.word t] [] := by
  intro rest
  rw [List.singleton_append, List.nil_append]
  conv => lhs; unfold sightingsAfter
  split <;> simp_all

theorem chosen (t : String) : Shows [.word " ", .word t] [] := fun _ => rfl

/-- A placeholder behind a space. -/
theorem spacedMark (n : Nat) : Shows [.word " ", .mark n] [] := fun _ => rfl

theorem verbatim (t : String) : Shows [.verbatim t] [] := fun _ => rfl

theorem mark (n : Nat) : Shows [.mark n] [] := fun _ => rfl

theorem column (n : Nat) (name : String) :
    Shows ((Qualifier.tableAlias n).column name) [.column n name] := fun _ => rfl

private theorem sightingsAfter_table (names identifier : List String) (rest : Fragment) :
    sightingsAfter names (Fragment.table identifier ++ rest) =
      sightingsAfter (names ++ identifier) rest := by
  induction identifier generalizing names with
  | nil => simp [Fragment.table, joinWith]
  | cons segment others ih =>
      cases others with
      | nil => rfl
      | cons segment' others =>
          have hsegments : Fragment.table (segment :: segment' :: others) =
              .name segment :: .word "." :: Fragment.table (segment' :: others) := rfl
          rw [hsegments]
          simp only [List.cons_append, sightingsAfter, ih, List.append_assoc, List.nil_append]

theorem table (identifier : List String) (n : Nat) :
    Shows (Fragment.table identifier ++ [.word " ", .tableAlias n]) [.table identifier n] := by
  intro rest
  rw [List.append_assoc, sightingsAfter_table]
  rfl

/-- What is shown is what is seen. -/
theorem sightings_eq (h : f.Shows found) : f.sightings = found := by
  have hall := h []
  rwa [List.append_nil, sightingsAfter, List.map_nil, List.append_nil] at hall

end Shows

end Fragment

/-! ## Citations -/

/-- A column or a table that a tree names. -/
inductive Citation where
  /-- A column in the place of one of the table. -/
  | column (schema : Schema) (name : String)
  | table (schema : Schema)

namespace Sighting

/-- What a sighting stands for, where `tables` says which table an alias does. -/
def denotation (tables : Nat → Option Schema) : Sighting → Option Citation
  | column n name => (tables n).map (.column · name)
  | table identifier n =>
    (tables n).bind fun s => if s.identifier = identifier then some (.table s) else none
  | stray _ => none

/-- The alias that a table is given. -/
def declared? : Sighting → Option Nat
  | table _ n => some n
  | _ => none

end Sighting

namespace Fragment

/--
Whether a fragment shows just these columns and tables, the aliases in it
taken for `tables`, and gives tables these aliases.
-/
def Cites (tables : Nat → Option Schema) (f : Fragment) (cited : List Citation)
    (numbers : List Nat) : Prop :=
  ∃ found, f.Shows found ∧ found.map (Sighting.denotation tables) = cited.map some ∧
    found.filterMap Sighting.declared? = numbers

/-- So it is with fragments one after the other. -/
inductive AreCited (tables : Nat → Option Schema) :
    List Fragment → List Citation → List Nat → Prop
  | nil : AreCited tables [] [] []
  | cons {f fs cited cited' numbers numbers'} : Cites tables f cited numbers →
      AreCited tables fs cited' numbers' →
      AreCited tables (f :: fs) (cited ++ cited') (numbers ++ numbers')

end Fragment

section Parts

variable {tables : Nat → Option Schema} {f g : Fragment} {fs gs : List Fragment}
  {cited cited' : List Citation} {numbers numbers' : List Nat}

namespace Fragment.Cites

theorem silent (h : f.Shows []) : Cites tables f [] [] := ⟨[], h, rfl, rfl⟩

theorem append (hf : Cites tables f cited numbers) (hg : Cites tables g cited' numbers') :
    Cites tables (f ++ g) (cited ++ cited') (numbers ++ numbers') := by
  obtain ⟨found, hshows, hdenote, hnumbers⟩ := hf
  obtain ⟨found', hshows', hdenote', hnumbers'⟩ := hg
  refine ⟨found ++ found', hshows.append hshows', ?_, ?_⟩
  · rw [List.map_append, List.map_append, hdenote, hdenote']
  · rw [List.filterMap_append, hnumbers, hnumbers']

/-- What names nothing may stand in front. -/
theorem behind (h : Shows g []) (hf : Cites tables f cited numbers) :
    Cites tables (g ++ f) cited numbers := (silent h).append hf

/-- What names nothing may stand behind. -/
theorem before (h : Shows g []) (hf : Cites tables f cited numbers) :
    Cites tables (f ++ g) cited numbers := by
  simpa using hf.append (silent h)

theorem column {n : Nat} {s : Schema} (h : tables n = some s) (name : String) :
    Cites tables ((Qualifier.tableAlias n).column name) [.column s name] [] :=
  ⟨[.column n name], .column n name, by simp [Sighting.denotation, h], rfl⟩

theorem table {n : Nat} {s : Schema} (h : tables n = some s) :
    Cites tables (Fragment.table s.identifier ++ [.word " ", .tableAlias n]) [.table s] [n] :=
  ⟨[.table s.identifier n], .table s.identifier n, by simp [Sighting.denotation, h], rfl⟩

end Fragment.Cites

namespace Fragment.AreCited

theorem append (hf : AreCited tables fs cited numbers) (hg : AreCited tables gs cited' numbers') :
    AreCited tables (fs ++ gs) (cited ++ cited') (numbers ++ numbers') := by
  induction hf with
  | nil => exact hg
  | cons h _ ih =>
      rw [List.append_assoc, List.append_assoc]
      exact .cons h ih

/-- With a word before each. -/
theorem behind (h : AreCited tables fs cited numbers) {separator : String}
    (hseparator : separator ≠ " ") :
    Cites tables (fs.flatMap fun g => .word separator :: g) cited numbers := by
  induction h with
  | nil => exact .silent .nil
  | cons h _ ih => exact (h.behind (.word _ hseparator)).append ih

/-- With a word between neighbours. -/
theorem join (h : AreCited tables fs cited numbers) {separator : String}
    (hseparator : separator ≠ " ") : Cites tables (joinWith separator fs) cited numbers := by
  cases h with
  | nil => exact .silent .nil
  | cons h hrest => exact h.append (hrest.behind hseparator)

end Fragment.AreCited

/-! ## Lists of rows -/

variable {s t : Schema} {own number : Nat}

theorem cites_existence (hown : tables own = some s) (hinner : tables number = some t)
    {keyword : String} (hkeyword : keyword ≠ " ") {parts : List Fragment}
    (h : AreCited tables parts cited numbers) (innerColumn column : String) :
    Cites tables (existence keyword t.identifier number innerColumn
        ((Qualifier.tableAlias own).column column) parts)
      (.column t innerColumn :: .table t :: .column t innerColumn :: .column s column :: cited)
      (number :: numbers) := by
  have hcolumn := Cites.column hinner innerColumn
  have hequal := (hcolumn.before (.word " = " (by decide))).append (.column hown column)
  have hand : " AND " ≠ " " := by decide
  have hconditions := (AreCited.cons hequal h).join hand
  have hselect := hcolumn.append ((Cites.table hinner).behind (.word " FROM " (by decide)))
  have hwhere := (hconditions.before (.word " )" (by decide))).behind
    (.word " WHERE " (by decide))
  have hall := ((hselect.append hwhere).behind (.word " ( SELECT " (by decide))).behind
    (.word _ hkeyword)
  simpa [existence] using hall

/-- What the caller wrote is passed over. -/
theorem shows_weave (literals : List String) (numbers : List Nat) :
    Shows (Template.weave literals (numbers.map .mark)) [] := by
  induction literals generalizing numbers with
  | nil =>
      rw [Template.weave_nil]
      exact .nil
  | cons t literals ih =>
      cases numbers with
      | nil =>
          rw [List.map_nil, Template.weave_cons_nil]
          exact (Shows.verbatim t).append (ih [])
      | cons n numbers =>
          rw [List.map_cons, Template.weave_cons_cons]
          exact (Shows.verbatim t).append ((Shows.mark n).append (ih numbers))

theorem cites_rowsFrom (h : tables number = some t) {columns : Fragment}
    {condition ending : Option Fragment} {cited cited' cited'' : List Citation}
    (hcolumns : Cites tables columns cited [])
    (hcondition : Cites tables (behindSpace condition) cited' numbers)
    (hending : Cites tables (behindSpace ending) cited'' []) :
    Cites tables (rowsFrom columns t.identifier number condition ending)
      (cited ++ .table t :: (cited' ++ cited'')) (number :: numbers) := by
  have htable := (Cites.table h).behind (.word " FROM " (by decide))
  have hselect := (hcolumns.append htable).behind (.word "SELECT " (by decide))
  have hall := hselect.append (hcondition.append hending)
  rw [rowsFrom, spaced_some_cons]
  simpa using hall

theorem cites_membership (hown : tables own = some s) {rows : Fragment} (key : String)
    (h : Cites tables rows cited numbers) :
    Cites tables (membership ((Qualifier.tableAlias own).column key) rows)
      (.column s key :: cited) numbers := by
  have hrows := (h.before (.word " )" (by decide))).behind (.word " IN ( " (by decide))
  simpa [membership] using (Cites.column hown key).append hrows

theorem cites_conjunction {parts : List Fragment} (h : AreCited tables parts cited numbers) :
    Cites tables (behindSpace (conjunction parts)) cited numbers := by
  cases h with
  | nil => exact .silent .nil
  | cons h hrest =>
      have hand : " AND " ≠ " " := by decide
      have hall := ((AreCited.cons h hrest).join hand).before (.word " )" (by decide))
      simpa [behindSpace, conjunction] using hall.behind (.chosen "WHERE ( ")

/-- The order and the window of a list of rows stand each behind a space. -/
theorem behindSpace_tail (d : Dialect) (order : List Fragment) (limit offset : Option Value) :
    behindSpace (tail d order limit offset) =
      behindSpace (ordering d order (window d limit offset).isSome) ++
        behindSpace ((window d limit offset).map fun t => [.word t]) := by
  unfold tail ordering window
  cases (d.paging limit offset).filter fun t => !t.isEmpty with
  | none => cases order <;> simp [behindSpace, spaced, joinWith]
  | some t =>
      cases order with
      | nil => cases d.orderForPaging <;> simp [behindSpace, spaced, joinWith]
      | cons item items => simp [behindSpace, spaced, joinWith]

/-- The end of a list of rows names the columns that it is ordered by. -/
theorem cites_tail {ρ : Type} (d : Dialect) (q : Selection ρ) (h : tables own = some s) :
    Cites tables (behindSpace (q.tail d (.tableAlias own)))
      (q.order.map fun o => .column s o.column) [] := by
  have hwindow : ∀ w : Option String,
      Cites tables (behindSpace (w.map fun t => [.word t])) [] [] := by
    intro w
    cases w with
    | none => exact .silent .nil
    | some t => exact .silent (.chosen t)
  have hitems : ∀ items : List OrderItem,
      AreCited tables (items.map (OrderItem.fragment (.tableAlias own)))
        (items.map fun o => .column s o.column) [] := by
    intro items
    induction items with
    | nil => exact .nil
    | cons o rest ih =>
        exact .cons ((Cites.column h o.column).before (.chosen o.direction.keyword)) ih
  have hordering : ∀ paged, Cites tables
      (behindSpace (ordering d (q.order.map (OrderItem.fragment (.tableAlias own))) paged))
      (q.order.map fun o => .column s o.column) [] := by
    intro paged
    cases q.order with
    | nil =>
        unfold ordering
        simp only [List.map_nil]
        split
        · exact .silent (.chosen _)
        · exact .silent .nil
    | cons o rest =>
        have hcomma : ", " ≠ " " := by decide
        have hall := ((hitems (o :: rest)).join hcomma).behind (.chosen "ORDER BY ")
        simpa [behindSpace, ordering] using hall
  rw [Selection.tail, behindSpace_tail]
  simpa using (hordering _).append (hwindow _)

end Parts

/-! ## Trees -/

mutual
/-- The columns and the tables that a clause on a table names, in the order of writing. -/
def Clause.citations (s : Schema) : Clause Query → List Citation
  | .compare column _ _ _ _ => [.column s column]
  | .assign column _ _ => [.column s column]
  | .assignNull column _ => [.column s column]
  | .manual column _ _ => [.column s column]
  | .related column inner innerColumn _ =>
    let t := inner.selection.schema
    .column t innerColumn :: .table t :: .column t innerColumn :: .column s column ::
      inner.citations
  | .among query _ =>
    let t := query.selection.schema
    .column s t.firstKey :: .column t t.firstKey :: .table t ::
      (query.citations ++ query.selection.order.map fun o => .column t o.column)

/-- The columns and the tables that clauses name, one after the other. -/
def Clause.citationsAll (s : Schema) : List (Clause Query) → List Citation
  | [] => []
  | c :: rest => c.citations s ++ Clause.citationsAll s rest

/-- The columns and the tables that the conditions of a query name. -/
def Query.citations : Query → List Citation
  | .unwritable .. => []
  | .mk ⟨schema, conditions, related, _, _, _⟩ =>
    Clause.citationsAll schema conditions ++ Clause.citationsAll schema related
end

theorem Query.citations_mk (s : Selection Query) :
    (mk s).citations =
      Clause.citationsAll s.schema s.conditions ++ Clause.citationsAll s.schema s.related := by
  rw [citations.eq_def]

/-- Whether the aliases from the next one on stand for these tables, in their order. -/
def StandFor (tables : Nat → Option Schema) (aliases : Nat) : List Schema → Prop
  | [] => True
  | s :: rest => tables (aliases + 1) = some s ∧ StandFor tables (aliases + 1) rest

theorem standFor_append {tables : Nat → Option Schema} {aliases : Nat} {ss ss' : List Schema} :
    StandFor tables aliases (ss ++ ss') ↔
      StandFor tables aliases ss ∧ StandFor tables (aliases + ss.length) ss' := by
  induction ss generalizing aliases with
  | nil => simp [StandFor]
  | cons s rest ih =>
      have hlength : aliases + 1 + rest.length = aliases + (rest.length + 1) := by omega
      simp [StandFor, ih, hlength, and_assoc]

/-- The tables of the queries in a list. -/
abbrev schemasOf (qs : List Query) : List Schema := qs.map fun q => q.selection.schema

section Trees

variable {d : Dialect} {tables : Nat → Option Schema}

private def Clause.IsCited (d : Dialect) (tables : Nat → Option Schema) (c : Clause Query) : Prop :=
  ∀ s own issued aliases, tables own = some s → StandFor tables aliases (schemasOf c.subqueries) →
    Cites tables (c.layout d (.tableAlias own) issued aliases) (c.citations s)
      (List.range' (aliases + 1) c.subqueries.length)

private def Query.IsCited (d : Dialect) (tables : Nat → Option Schema) (query : Query) : Prop :=
  ∀ own issued aliases, tables own = some query.selection.schema →
    StandFor tables aliases (schemasOf query.subqueries) →
    AreCited tables (query.layoutParts d (.tableAlias own) issued aliases) query.citations
      (List.range' (aliases + 1) query.subqueries.length)

private theorem areCited_of_forall {cs : List (Clause Query)} (h : ∀ c ∈ cs, c.IsCited d tables)
    {s : Schema} {own : Nat} (hown : tables own = some s) (issued : Nat) {aliases : Nat}
    (hstand : StandFor tables aliases (schemasOf (Clause.subqueriesAll cs))) :
    AreCited tables (Clause.layoutAll d (.tableAlias own) issued aliases cs)
      (Clause.citationsAll s cs) (List.range' (aliases + 1) (Clause.subqueriesAll cs).length) := by
  induction cs generalizing issued aliases with
  | nil => exact .nil
  | cons c rest ih =>
      rw [Clause.subqueriesAll_cons, schemasOf, List.map_append, standFor_append,
        List.length_map] at hstand
      have hc := h c List.mem_cons_self s own issued aliases hown hstand.1
      have hrest := ih (fun c' hc' => h c' (List.mem_cons_of_mem _ hc'))
        (issued + c.values.length) hstand.2
      rw [Clause.layoutAll_cons_of_visible (Qualifier.isVisible_tableAlias d own),
        Clause.citationsAll, Clause.subqueriesAll_cons, List.length_append, ← range'_append]
      exact .cons hc hrest

private theorem isCited_hereditary (d : Dialect) (tables : Nat → Option Schema) :
    Hereditary (Clause.IsCited d tables) (Query.IsCited d tables) where
  compare column op value negated table s own issued aliases hown _ := by
    rw [Clause.layout]
    split
    · exact (Cites.column hown column).before (.word _ (by cases negated <;> decide))
    · exact (Cites.column hown column).before
        ((Shows.chosen (d.operator op.symbol)).append (.spacedMark (issued + 1)))
  assign column value table s own issued aliases hown _ :=
    (Cites.column hown column).before ((Shows.word "=" (by decide)).append (.mark _))
  assignNull column table s own issued aliases hown _ :=
    (Cites.column hown column).before (.word "=NULL" (by decide))
  manual column template table s own issued aliases hown _ :=
    (Cites.column hown column).before (shows_weave template.literals _)
  related column inner innerColumn negated ih s own issued aliases hown hstand := by
    have hqueries : (Clause.related column inner innerColumn negated).subqueries =
        inner :: inner.subqueries := rfl
    rw [hqueries] at hstand ⊢
    have hparts := ih (aliases + 1) issued (aliases + 1) hstand.1 hstand.2
    rw [Clause.citations, List.length_cons, List.range'_succ]
    exact cites_existence hown hstand.1 (by cases negated <;> decide) hparts innerColumn column
  among query column ih s own issued aliases hown hstand := by
    have hqueries : (Clause.among query column).subqueries = query :: query.subqueries := rfl
    rw [hqueries] at hstand ⊢
    have hparts := ih (aliases + 1) issued (aliases + 1) hstand.1 hstand.2
    have hrows := cites_rowsFrom hstand.1 (Cites.column hstand.1 query.selection.schema.firstKey)
      (cites_conjunction hparts) (cites_tail d query.selection hstand.1)
    rw [Clause.citations, List.length_cons, List.range'_succ]
    exact cites_membership hown query.selection.schema.firstKey hrows
  selection s hconditions hrelated own issued aliases hown hstand := by
    rw [Query.subqueries_mk, schemasOf, List.map_append, standFor_append,
      List.length_map] at hstand
    have hfirst := areCited_of_forall hconditions hown issued hstand.1
    have hothers := areCited_of_forall hrelated hown
      (issued + (Clause.valuesAll s.conditions).length) hstand.2
    rw [Query.layoutParts_mk, Query.citations_mk, Query.subqueries_mk, List.length_append,
      ← range'_append]
    exact hfirst.append hothers
  unwritable schema reason own issued aliases _ _ := by
    rw [Query.layoutParts]
    exact .nil

variable {s : Schema} {own : Nat}

/-- The conditions of a query are written with the columns and the tables that they cite. -/
theorem Query.areCited_layoutParts (query : Query)
    (hown : tables own = some query.selection.schema) (issued aliases : Nat)
    (hstand : StandFor tables aliases (schemasOf query.subqueries)) :
    AreCited tables (query.layoutParts d (.tableAlias own) issued aliases) query.citations
      (List.range' (aliases + 1) query.subqueries.length) :=
  (isCited_hereditary d tables).query query own issued aliases hown hstand

end Trees

/-! ## Queries that are fetched -/

namespace Fragment.Cites

variable {tables : Nat → Option Schema} {f : Fragment} {cited : List Citation}
  {numbers : List Nat}

theorem map_denotation (h : Cites tables f cited numbers) :
    f.sightings.map (Sighting.denotation tables) = cited.map some := by
  obtain ⟨found, hshows, hdenote, -⟩ := h
  rw [hshows.sightings_eq, hdenote]

theorem filterMap_declared (h : Cites tables f cited numbers) :
    f.sightings.filterMap Sighting.declared? = numbers := by
  obtain ⟨found, hshows, -, hnumbers⟩ := h
  rw [hshows.sightings_eq, hnumbers]

/-- What is seen stands for something that is cited. -/
theorem exists_of_mem (h : Cites tables f cited numbers) {x : Sighting} (hx : x ∈ f.sightings) :
    ∃ c ∈ cited, x.denotation tables = some c := by
  have hmem := List.mem_map_of_mem (f := Sighting.denotation tables) hx
  rw [h.map_denotation] at hmem
  obtain ⟨c, hc, hdenote⟩ := List.mem_map.1 hmem
  exact ⟨c, hc, hdenote.symm⟩

/-- What is cited is seen. -/
theorem exists_of_cited (h : Cites tables f cited numbers) {c : Citation} (hc : c ∈ cited) :
    ∃ x ∈ f.sightings, x.denotation tables = some c := by
  have hmem := List.mem_map_of_mem (f := some) hc
  rw [← h.map_denotation] at hmem
  exact List.mem_map.1 hmem

end Fragment.Cites

namespace Selection

/-- The table that an alias stands for where a query is fetched. -/
def tableOf (s : Selection Query) (number : Nat) : Option Schema :=
  (schemasOf (.mk s :: (Query.mk s).subqueries))[number - 1]?

/-- The columns and the tables that are named where a query is fetched. -/
def citations (s : Selection Query) : List Citation :=
  s.schema.columns.map (fun c => .column s.schema c.name) ++
    .table s.schema :: ((Query.mk s).citations ++ s.order.map fun o => .column s.schema o.column)

private theorem standFor_drop (first ss : List Schema) :
    StandFor (fun n => (first ++ ss)[n - 1]?) first.length ss := by
  induction ss generalizing first with
  | nil => exact trivial
  | cons s rest ih =>
      refine ⟨by simp, ?_⟩
      have hrest := ih (first ++ [s])
      rwa [List.length_append, List.append_assoc] at hrest

/-- A query is fetched with the columns and the tables that it cites, under the first aliases. -/
theorem cites_fetchLayout (d : Dialect) (s : Selection Query) :
    Cites s.tableOf (s.fetchLayout d 0 0) s.citations
      (List.range' 1 (Request.fetch s).listCount) := by
  have hown : s.tableOf 1 = some s.schema := rfl
  have hstand : StandFor s.tableOf 1 (schemasOf (Query.mk s).subqueries) :=
    standFor_drop [s.schema] _
  have hcolumns : ∀ cs : List Column, AreCited s.tableOf
      (cs.map fun c => (Qualifier.tableAlias 1).column c.name)
      (cs.map fun c => .column s.schema c.name) [] := by
    intro cs
    induction cs with
    | nil => exact .nil
    | cons c rest ih => exact .cons (.column hown c.name) ih
  have hcomma : ", " ≠ " " := by decide
  have hparts := Query.areCited_layoutParts (d := d) (.mk s) hown 0 1 hstand
  rw [Request.listCount, List.range'_succ]
  exact cites_rowsFrom hown ((hcolumns s.schema.columns).join hcomma) (cites_conjunction hparts)
    (cites_tail d _ hown)

end Selection

end SqlCompose
