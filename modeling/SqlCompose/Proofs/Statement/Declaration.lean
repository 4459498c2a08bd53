import SqlCompose.Proofs.Statement.Request
import SqlCompose.Proofs.Statement.Scope

/-!
# Aliases are declared in order

Aliases are taken from a counter while a tree is written: for the list of a
condition before what is inside it, and for a list that is counted after that.
So they are declared in the order of their numbers, one for each list of rows,
and a column is written behind the alias of its own list, or of the list
around it where a row is related to it.  This holds in every dialect.

## Main results

* `Clause.isScoped_layout` — the columns of a clause are those of the list
  that it is written in, however deep it is.
* `Update.exists_reads_layout` — the columns of an update.
* `Request.aliases_of_compile` — the aliases of a statement on a query, and
  the columns behind them.
-/

namespace SqlCompose

open Fragment

/-! ## Trees of conditions -/

/-- The number of the list that a clause relates to its own table, if it does. -/
def Clause.relatedNumbers (aliases : Nat) : Clause Query → List Nat
  | .related .. => [aliases + 1]
  | _ => []

/-- The numbers of the lists that clauses relate to their table, one after the other. -/
def Clause.relatedNumbersAll (aliases : Nat) : List (Clause Query) → List Nat
  | [] => []
  | c :: rest => c.relatedNumbers aliases ++ relatedNumbersAll (aliases + c.subqueries.length) rest

/-- The numbers of the lists that the conditions of a query relate to its table. -/
def Query.relatedNumbers (aliases : Nat) : Query → List Nat
  | .unwritable .. => []
  | .mk s => Clause.relatedNumbersAll aliases s.conditions ++
      Clause.relatedNumbersAll (aliases + (Clause.subqueriesAll s.conditions).length) s.related

/-- A clause that comes out empty has no list of rows in it. -/
theorem Clause.eq_nil_of_isBlank {d : Dialect} {c : Clause Query} {q : Qualifier}
    {issued aliases : Nat} (h : (c.layout d q issued aliases).isBlank d = true) :
    c.subqueries = [] ∧ c.relatedNumbers aliases = [] := by
  have hword : ∀ t : String, t.isEmpty = false → .word t ∉ c.layout d q issued aliases := by
    intro t ht hmem
    have hempty := List.all_eq_true.1 h _ hmem
    rw [Piece.text, ht] at hempty
    cases hempty
  cases c with
  | related column inner innerColumn negated =>
      cases negated with
      | false => exact absurd (by simp [layout, existence]) (hword "EXISTS" (by decide))
      | true => exact absurd (by simp [layout, existence]) (hword "NOT EXISTS" (by decide))
  | among query column =>
      exact absurd (by simp [layout, membership]) (hword " IN ( " (by decide))
  | compare => exact ⟨rfl, rfl⟩
  | assign => exact ⟨rfl, rfl⟩
  | assignNull => exact ⟨rfl, rfl⟩
  | manual => exact ⟨rfl, rfl⟩

section Trees

variable {d : Dialect}

private def Clause.IsHome (d : Dialect) (c : Clause Query) : Prop :=
  ∀ scopes q issued aliases, IsScoped scopes q (c.relatedNumbers aliases)
    (c.layout d q issued aliases) (List.range' (aliases + 1) c.subqueries.length)

private def Query.IsHome (d : Dialect) (query : Query) : Prop :=
  ∀ scopes q issued aliases, AreScoped scopes q (query.relatedNumbers aliases)
    (query.layoutParts d q issued aliases) (List.range' (aliases + 1) query.subqueries.length)

private theorem areScoped_of_forall {cs : List (Clause Query)} (h : ∀ c ∈ cs, c.IsHome d)
    (scopes : List Nat) (q : Qualifier) (issued aliases : Nat) :
    AreScoped scopes q (Clause.relatedNumbersAll aliases cs)
      (Clause.layoutAll d q issued aliases cs)
      (List.range' (aliases + 1) (Clause.subqueriesAll cs).length) := by
  induction cs generalizing issued aliases with
  | nil => exact .nil
  | cons c rest ih =>
      have hc := h c List.mem_cons_self scopes q issued aliases
      have hrest := ih (fun c' hc' => h c' (List.mem_cons_of_mem _ hc'))
        (issued + c.values.length) (aliases + c.subqueries.length)
      have hrange : List.range' (aliases + 1) (Clause.subqueriesAll (c :: rest)).length =
          List.range' (aliases + 1) c.subqueries.length ++
            List.range' (aliases + c.subqueries.length + 1)
              (Clause.subqueriesAll rest).length := by
        rw [Clause.subqueriesAll_cons, List.length_append, ← List.range'_append_1,
          Nat.add_right_comm]
      rw [Clause.layoutAll, Clause.relatedNumbersAll, hrange]
      split
      · rename_i hblank
        obtain ⟨hnone, hnumbers⟩ := Clause.eq_nil_of_isBlank hblank
        rw [hnone] at hrest ⊢
        rw [hnumbers]
        exact hrest
      · exact .cons hc hrest

private theorem isHome_hereditary (d : Dialect) :
    Hereditary (Clause.IsHome d) (Query.IsHome d) where
  compare column op value negated table scopes q issued aliases := by
    rw [Clause.layout]
    split
    · exact (IsScoped.column column).append (.inert (by cases negated <;> decide))
    · exact (IsScoped.column column).append ((IsScoped.chosen _).append
        ((IsScoped.inert (by decide)).append (.inert rfl)))
  assign column value table scopes q issued aliases :=
    (IsScoped.column column).append ((IsScoped.inert (by decide)).append (.inert rfl))
  assignNull column table scopes q issued aliases :=
    (IsScoped.column column).append (.inert (by decide))
  manual column template table scopes q issued aliases :=
    (IsScoped.column column).append (isScoped_weave template.literals _)
  related column inner innerColumn negated ih scopes q issued aliases := by
    have hinner := ih ((aliases + 1) :: scopes) (.tableAlias (aliases + 1)) issued (aliases + 1)
    have hcount : (Clause.related column inner innerColumn negated).subqueries.length =
        inner.subqueries.length + 1 := by
      simp [Clause.subqueries, Query.subqueries]
    rw [hcount, List.range'_succ]
    exact isScoped_existence hinner (by cases negated <;> decide) _ _ _
  among query column ih scopes q issued aliases := by
    have hinner := ih ((aliases + 1) :: scopes) (.tableAlias (aliases + 1)) issued (aliases + 1)
    have hcount : (Clause.among query column).subqueries.length =
        query.subqueries.length + 1 := by
      simp [Clause.subqueries, Query.subqueries]
    rw [hcount, List.range'_succ]
    exact isScoped_membership _ (exists_reads_rowsFrom (.column _) (isScoped_conjunction hinner)
      (isScoped_tail d query.selection) _)
  selection s hconditions hrelated scopes q issued aliases := by
    have hown := areScoped_of_forall hconditions scopes q issued aliases
    have hothers := areScoped_of_forall hrelated scopes q
      (issued + (Clause.valuesAll s.conditions).length)
      (aliases + (Clause.subqueriesAll s.conditions).length)
    have hrange : List.range' (aliases + 1) (Query.mk s).subqueries.length =
        List.range' (aliases + 1) (Clause.subqueriesAll s.conditions).length ++
          List.range' (aliases + (Clause.subqueriesAll s.conditions).length + 1)
            (Clause.subqueriesAll s.related).length := by
      rw [Query.subqueries_mk, List.length_append, ← List.range'_append_1, Nat.add_right_comm]
    rw [Query.layoutParts_mk, hrange]
    exact hown.append hothers
  unwritable schema reason scopes q issued aliases := by
    rw [Query.layoutParts]
    exact .nil

/-- The columns of a clause are those of the list that it is written in, however deep it is. -/
theorem Clause.isScoped_layout (c : Clause Query) (scopes : List Nat) (q : Qualifier)
    (issued aliases : Nat) :
    IsScoped scopes q (c.relatedNumbers aliases) (c.layout d q issued aliases)
      (List.range' (aliases + 1) c.subqueries.length) :=
  (isHome_hereditary d).clause c scopes q issued aliases

theorem Clause.areScoped_layoutAll (cs : List (Clause Query)) (scopes : List Nat) (q : Qualifier)
    (issued aliases : Nat) :
    AreScoped scopes q (relatedNumbersAll aliases cs) (layoutAll d q issued aliases cs)
      (List.range' (aliases + 1) (subqueriesAll cs).length) :=
  areScoped_of_forall (fun c _ => (isHome_hereditary d).clause c) scopes q issued aliases

/-- So it is with the conditions of a query. -/
theorem Query.areScoped_layoutParts (query : Query) (scopes : List Nat) (q : Qualifier)
    (issued aliases : Nat) :
    AreScoped scopes q (query.relatedNumbers aliases) (query.layoutParts d q issued aliases)
      (List.range' (aliases + 1) query.subqueries.length) :=
  (isHome_hereditary d).query query scopes q issued aliases

end Trees

/-! ## Statements -/

/-- How many lists of rows a statement on a query has. -/
def Request.listCount : Request → Nat
  | fetch s => (Query.mk s).subqueries.length + 1
  | count s => (Query.mk s).subqueries.length + if s.isPaged then 2 else 1
  | update u => u.aliasCount
  | _ => 0

namespace Selection

theorem exists_reads_rowsLayout (d : Dialect) (s : Selection Query) {columns : Fragment}
    (order : List OrderItem) {scopes : List Nat} {aliases : Nat}
    (hcolumns : IsScoped ((aliases + 1) :: scopes) (.tableAlias (aliases + 1)) [] columns [])
    (issued : Nat) :
    ∃ found, Reads .rows scopes (s.rowsLayout d columns order issued aliases)
      (List.range' (aliases + 1) ((Query.mk s).subqueries.length + 1)) found ∧
        ∀ r ∈ found, r.IsInner := by
  have hparts := Query.areScoped_layoutParts (d := d) (.mk s) ((aliases + 1) :: scopes)
    (.tableAlias (aliases + 1)) issued (aliases + 1)
  rw [List.range'_succ]
  exact exists_reads_rowsFrom hcolumns (isScoped_conjunction hparts) (isScoped_tail d _) _

theorem exists_reads_fetchLayout (d : Dialect) (s : Selection Query) :
    ∃ found, Reads .statement [] (s.fetchLayout d 0 0)
      (List.range' 1 (Request.fetch s).listCount) found ∧ ∀ r ∈ found, r.IsInner := by
  have hcolumns : AreScoped [1] (.tableAlias 1) []
      (s.schema.columns.map fun c => (Qualifier.tableAlias 1).column c.name) [] := by
    induction s.schema.columns with
    | nil => exact .nil
    | cons c rest ih => exact .cons (.column c.name) ih
  have hcomma : (Piece.word ", ").isInert = true := by decide
  obtain ⟨found, hreads, hinner⟩ := s.exists_reads_rowsLayout d s.order (hcolumns.join hcomma) 0
  exact ⟨found, hreads.fetch, hinner⟩

/-- The list of a window is counted under the alias after those in it. -/
theorem exists_reads_countLayout (d : Dialect) (s : Selection Query) :
    ∃ found, Reads .statement [] (s.countLayout d 0 0)
      (List.range' 1 (Request.count s).listCount) found ∧ ∀ r ∈ found, r.IsInner := by
  have hcount : (Piece.word countWords).isInert = true := by decide
  rw [countLayout, Request.listCount]
  split
  · obtain ⟨found, hreads, hinner⟩ := s.exists_reads_rowsLayout d s.order
      (.column (listingName s.schema)) 0
    have hlast : List.range' 1 ((Query.mk s).subqueries.length + 2) =
        List.range' 1 ((Query.mk s).subqueries.length + 1) ++
          [0 + (Query.mk s).subqueries.length + 2] := by
      have hnumber : 0 + (Query.mk s).subqueries.length + 2 =
          1 + 1 * ((Query.mk s).subqueries.length + 1) := by omega
      rw [hnumber, ← List.range'_concat]
    rw [hlast]
    exact ⟨[] ++ found, Reads.count _ (.inert hcount) hreads, hinner⟩
  · obtain ⟨found, hreads, hinner⟩ := s.exists_reads_rowsLayout d [] (.inert hcount) 0
    exact ⟨found, hreads.fetch, hinner⟩

end Selection

namespace Update

/-- The numbers of the lists that the conditions of an update relate to the updated table. -/
def relatedNumbers (u : Update) : List Nat :=
  if u.query.isPaged then []
  else (Query.mk u.query).relatedNumbers (Clause.subqueriesAll u.assignments).length

theorem isScoped_conditionLayout (d : Dialect) (u : Update) (issued : Nat) :
    IsScoped [] (.table u.query.schema.identifier) u.relatedNumbers
      (behindSpace (u.conditionLayout d issued (Clause.subqueriesAll u.assignments).length))
      (List.range' ((Clause.subqueriesAll u.assignments).length + 1)
        ((Query.mk u.query).subqueries.length + if u.query.isPaged then 1 else 0)) := by
  rw [conditionLayout, relatedNumbers]
  refine isScoped_conjunction ?_
  split
  · have hmember := u.member.isScoped_layout (d := d) [] (.table u.query.schema.identifier) issued
      (Clause.subqueriesAll u.assignments).length
    have hcount : u.member.subqueries.length = (Query.mk u.query).subqueries.length + 1 := by
      simp [member, Clause.subqueries, Query.subqueries]
    have hnone : u.member.relatedNumbers (Clause.subqueriesAll u.assignments).length = [] := rfl
    rw [hcount, hnone] at hmember
    simpa using AreScoped.cons hmember .nil
  · exact Query.areScoped_layoutParts _ _ _ _ _

/--
An update has columns of its own without a qualifier, those of the updated
table, also where lists of rows are related to it, and those inside the lists.
-/
theorem exists_reads_layout (d : Dialect) (u : Update) :
    ∃ found, Reads .statement [] (u.layout d 0 0)
        (List.range' 1 (Request.update u).listCount) found ∧
      (∀ r ∈ found, r.qualifier = .none ∨
        r = ⟨.table u.query.schema.identifier, [], false⟩ ∨
        (∃ n ∈ u.relatedNumbers, r = ⟨.table u.query.schema.identifier, [n], true⟩) ∨
        r.IsInner) ∧
      ∀ n ∈ u.relatedNumbers, ⟨.table u.query.schema.identifier, [n], true⟩ ∈ found := by
  have hcomma : (Piece.word ", ").isInert = true := by decide
  obtain ⟨found, hreads, hown, -⟩ := (Clause.areScoped_layoutAll (d := d) u.assignments [] .none
    0 0).join hcomma
  obtain ⟨found', hreads', hown', houter⟩ := u.isScoped_conditionLayout d
    (0 + (Clause.valuesAll u.assignments).length)
  have hrange : List.range' 1 (Request.update u).listCount =
      List.range' 1 (Clause.subqueriesAll u.assignments).length ++
        List.range' ((Clause.subqueriesAll u.assignments).length + 1)
          ((Query.mk u.query).subqueries.length + if u.query.isPaged then 1 else 0) := by
    rw [Request.listCount, aliasCount, Nat.add_assoc, ← List.range'_append_1, Nat.add_comm 1]
  refine ⟨found ++ found', ?_, ?_, fun n hn => List.mem_append_right _ (houter n hn)⟩
  · have hupdate := (hreads.append hreads').update u.query.schema.identifier
    rw [hrange, layout, spaced_some_cons]
    simpa using hupdate
  · intro r hr
    rcases List.mem_append.1 hr with hr | hr
    · rcases hown r hr with rfl | ⟨n, -, rfl⟩ | h
      · exact .inl rfl
      · exact .inl rfl
      · exact .inr (.inr (.inr h))
    · exact .inr (hown' r hr)

end Update

namespace Request

/--
The aliases of a compiled statement on a query are numbered in the order in
which they are declared, one for each list of rows, and a column is written
behind the alias of its own list, or of the one around it where a row is
related to it.
-/
theorem aliases_of_compile {request : Request} {s : Selection Query}
    (hs : request.query? = some s) {settings : Except Error Settings} {d : Dialect}
    {statement : Statement} {events : List Event}
    (h : request.compile settings d = .ok (some (statement, events))) :
    ∃ w f draft found, request.blueprint = .ok (some w) ∧
      Writing.outcome (w d) {} = (.ok f, draft) ∧ statement.sql = f.text d ∧
      Reads .statement [] f (List.range' 1 request.listCount) found ∧
      f.numbers false = List.range' 1 request.listCount ∧
      ((f.numbers false).map aliasText).Nodup ∧
      f.numbers true = found.filterMap (fun r => r.qualifier.alias?) ∧
      ∀ r ∈ found, ∀ n, r.qualifier = .tableAlias n → r.home = some n := by
  obtain ⟨w, hw, hcompile⟩ := exists_blueprint_of_compile h
  obtain ⟨f, draft, hok, hsql, -⟩ := Blueprint.exists_of_compile hcompile
  obtain ⟨hlayout, -⟩ := exists_of_written hw hok
  have hread : ∃ found, Reads .statement [] f (List.range' 1 request.listCount) found ∧
      ∀ r ∈ found, ∀ n, r.qualifier = .tableAlias n → r.home = some n := by
    have hproper : ∀ r : Mention, r.IsInner → ∀ n, r.qualifier = .tableAlias n →
        r.home = some n := by
      rintro r ⟨m, hm, hhome⟩ n hn
      rw [hm] at hn
      cases hn
      exact hhome
    cases request with
    | fetch s' =>
        cases hlayout
        obtain ⟨found, hreads, hinner⟩ := s'.exists_reads_fetchLayout d
        exact ⟨found, hreads, fun r hr => hproper r (hinner r hr)⟩
    | count s' =>
        cases hlayout
        obtain ⟨found, hreads, hinner⟩ := s'.exists_reads_countLayout d
        exact ⟨found, hreads, fun r hr => hproper r (hinner r hr)⟩
    | update u =>
        cases hlayout
        obtain ⟨found, hreads, hown, -⟩ := u.exists_reads_layout d
        refine ⟨found, hreads, fun r hr n hn => ?_⟩
        rcases hown r hr with h | rfl | ⟨m, -, rfl⟩ | h
        · rw [h] at hn
          cases hn
        · cases hn
        · cases hn
        · exact hproper r h n hn
    | updateRow r s' => cases hs
    | deleteRow r s' => cases hs
    | insertRow r s' => cases hs
  obtain ⟨found, hreads, hhome⟩ := hread
  obtain ⟨hdeclared, hcolumns⟩ := hreads.numbers_eq
  refine ⟨w, f, draft, found, hw, hok, hsql, hreads, hdeclared, ?_, hcolumns, hhome⟩
  rw [hdeclared]
  exact List.Pairwise.map aliasText (fun m n hne h => hne (aliasText_inj.1 h)) List.nodup_range'

/-- What people answer to each other. -/
def answers : Schema where
  identifier := ["answers"]
  columns := [{ name := "id", type := "int" }, { name := "parent", type := "int" }]
  primaryKeys := ["id"]

/-- The answers of anyone. -/
def anyAnswer : Query := .mk { schema := answers }

/-- A few answers to which there is one, with an answer to it in turn, besides one to none. -/
def threads : Selection Query where
  schema := answers
  related := [
    .related "id" (.mk { schema := answers, related := [.related "id" anyAnswer "parent" false] })
      "parent" false,
    .related "parent" anyAnswer "id" true]
  limit := some 5

set_option maxRecDepth 4000 in
/-- One table five times: the query, what is nested in it, what is beside that, and the whole. -/
theorem aliases_threads :
    (count threads).query? = some threads ∧ ∃ statement events,
      (count threads).compile (.ok {}) .postgres = .ok (some (statement, events)) ∧
        statement.sql = "SELECT COUNT(*) FROM ( SELECT t1.\"id\" FROM \"answers\" t1 " ++
          "WHERE ( EXISTS ( SELECT t2.\"parent\" FROM \"answers\" t2 " ++
          "WHERE t2.\"parent\" = t1.\"id\" AND EXISTS ( SELECT t3.\"parent\" " ++
          "FROM \"answers\" t3 WHERE t3.\"parent\" = t2.\"id\" ) ) " ++
          "AND NOT EXISTS ( SELECT t4.\"id\" FROM \"answers\" t4 " ++
          "WHERE t4.\"id\" = t1.\"parent\" ) ) LIMIT 5 ) t5" ∧
        ∃ f found, statement.sql = f.text .postgres ∧
          Reads .statement [] f [1, 2, 3, 4, 5] found ∧
          ∀ m ∈ found, ∀ n, m.qualifier = .tableAlias n → m.home = some n := by
  have hquery : (count threads).query? = some threads := rfl
  obtain ⟨statement, events, hcompile⟩ : ∃ statement events,
      (count threads).compile (.ok {}) .postgres = .ok (some (statement, events)) := ⟨_, _, rfl⟩
  obtain ⟨_, f, _, found, -, -, hsql, hreads, -, -, -, hhome⟩ := aliases_of_compile hquery hcompile
  refine ⟨hquery, statement, events, hcompile, ?_, f, found, hsql, hreads, hhome⟩
  cases hcompile
  rfl

end Request

end SqlCompose
