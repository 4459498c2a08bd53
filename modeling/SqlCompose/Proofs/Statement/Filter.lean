import SqlCompose.Proofs.Statement.Renaming

/-!
# One filter in all statements

The conditions of a query are written into three kinds of statements: where
its rows are fetched, where its rows are updated, and where another query asks
for such a row to exist.  They are written by one writer but never from the
same place: other values were bound and other aliases were taken before them,
and the columns of the query stand behind its alias or behind the name of its
table.

What is written is taken from one place to another by a map of pieces
(`Piece.moved`): the query's own alias becomes what its columns stand behind
there, and the other numbers move by a constant.  So the conditions of the
three statements are the same list, with the same values, and where one of the
statements cannot be written for its conditions, neither can the others.

## Main results

* `renames_moved` — the map from the place where a query is fetched to any
  other.
* `Selection.filter_of_fetch` — the conditions and the values that a query
  brings into each of the three.
-/

namespace SqlCompose

open Fragment Writing

/-! ## From the query that is fetched to the others -/

/-- What stands before the point of a column. -/
def Qualifier.fragment : Qualifier → Fragment
  | none => []
  | tableAlias n => [.tableAlias n]
  | table identifier => Fragment.table identifier
  | text t => [.verbatim t]

/--
What a piece of the conditions of a fetched query is where its columns stand
behind `own`, `bound` placeholders were given out and `taken` aliases were
taken.  Where the query is fetched its own alias is the first one, and those
of its sub-queries are the others.
-/
def Piece.moved (own : Fragment) (bound taken : Nat) : Piece → Fragment
  | .tableAlias 1 => own
  | .tableAlias (n + 2) => [.tableAlias (n + 1 + taken)]
  | .mark n => [.mark (n + bound)]
  | p => [p]

/-- A condition that is written in another place. -/
def Fragment.moved (own : Fragment) (bound taken : Nat) (f : Fragment) : Fragment :=
  f.flatMap (Piece.moved own bound taken)

/-- Behind the name of its table a column is written in every dialect. -/
theorem Qualifier.isVisible_table (d : Dialect) (identifier : List String) :
    (Qualifier.table identifier).IsVisible d := by
  intro name
  have hpoint : (Piece.word ".").text d ≠ "" := (by decide : "." ≠ "")
  exact isBlank_eq_false (p := .word ".") (by simp [Qualifier.column]) hpoint

/-- The map goes from the place where a query is fetched to that with the given numbers. -/
theorem renames_moved {d : Dialect} {q : Qualifier} (hq : q.IsVisible d)
    (hcolumn : ∀ name, q.column name = q.fragment ++ [.word ".", .name name]) (bound taken : Nat) :
    Renames d (Piece.moved q.fragment bound taken) (.tableAlias 1) q 0 bound 1 taken where
  word _ := rfl
  verbatim _ := rfl
  name _ := rfl
  column name := by
    rw [hcolumn]
    rfl
  mark i := by
    rw [Piece.moved, show 0 + 1 + i + bound = bound + 1 + i by omega]
  tableAlias i := by
    rw [show 1 + 1 + i = i + 2 by omega, Piece.moved,
      show i + 1 + taken = taken + 1 + i by omega]
  visible := Qualifier.isVisible_tableAlias d 1
  visible' := hq

namespace Selection

/-- The order and the window of a query have no part in its conditions. -/
theorem layoutParts_window (d : Dialect) (q : Qualifier) (issued aliases : Nat)
    (s : Selection Query) (order : List OrderItem) (limit offset : Option Nat) :
    Query.layoutParts d q issued aliases (.mk { s with order, limit, offset }) =
      Query.layoutParts d q issued aliases (.mk s) := by
  rw [Query.layoutParts_mk, Query.layoutParts_mk]

/-- Nor have they a part in what is gathered from them. -/
theorem gather_window {α : Type} (own : Clause Query → List α) (halt : Error → List α)
    (s : Selection Query) (order : List OrderItem) (limit offset : Option Nat) :
    Query.gather own halt (.mk { s with order, limit, offset }) = Query.gather own halt (.mk s) := by
  rw [Query.gather_mk, Query.gather_mk]

/-! ## The three statements -/

/-- The conditions of a query as they are where its rows are fetched. -/
def fetchParts (d : Dialect) (s : Selection Query) : List Fragment :=
  Query.layoutParts d (.tableAlias 1) 0 1 (.mk s)

/--
Where a row of a query has to exist, its conditions are those of the query
that is fetched, behind the next alias, whatever its order and window are.
-/
theorem spec_related (d : Dialect) (s : Selection Query) (column innerColumn : String)
    (negated : Bool) (q : Qualifier) (order : List OrderItem) (limit offset : Option Nat) :
    Spec (Clause.write d q
        (.related column (.mk { s with order, limit, offset }) innerColumn negated))
      ((Query.mk s).faults d) (Query.mk s).values ((Query.mk s).subqueries.length + 1)
      fun issued aliases =>
        existence (if negated then "NOT EXISTS" else "EXISTS") s.schema.identifier (aliases + 1)
          innerColumn (q.column column)
          ((s.fetchParts d).map (Fragment.moved [.tableAlias (aliases + 1)] issued
            (aliases + 1))) := by
  have h := Clause.spec_write d q
    (.related column (.mk { s with order, limit, offset }) innerColumn negated)
  have hmoved : ∀ issued aliases,
      Query.layoutParts d (.tableAlias (aliases + 1)) issued (aliases + 1) (.mk s) =
        (s.fetchParts d).map (Fragment.moved [.tableAlias (aliases + 1)] issued (aliases + 1)) :=
    fun issued aliases => (Query.layoutParts_rename (renames_moved
      (Qualifier.isVisible_tableAlias d (aliases + 1)) (fun _ => rfl) issued (aliases + 1)) _).symm
  simp only [Clause.layout, layoutParts_window, hmoved] at h
  simpa [Clause.faults, Clause.values, Clause.subqueries, gather_window, Query.faults,
    Query.values, Query.subqueries] using h

/--
Where the rows of a query without a window are updated, its conditions are
those of the query that is fetched, behind the name of the table.
-/
theorem outcome_update (d : Dialect) {s : Selection Query} {assignments : List (Clause Query)}
    {sets : List Fragment} {draft : Draft} (hpaged : s.isPaged = false)
    (hassign : outcome (Clause.writeAll d .none assignments) {} = (.ok sets, draft))
    (hfaults : (Query.mk s).faults d = []) :
    outcome (Update.write ⟨s, assignments⟩ d) {} =
      (.ok (spaced [
        some (.word "UPDATE " :: table s.schema.identifier ++ .word " SET " ::
          joinWith ", " sets),
        conjunction ((s.fetchParts d).map (Fragment.moved (table s.schema.identifier)
          draft.issued draft.aliases))]),
        draft.advance (Query.mk s).values (Query.mk s).subqueries.length) := by
  obtain ⟨hsets, hlayout, hdraft⟩ := (Clause.spec_writeAll d .none assignments).of_ok hassign
  have hmoved := Query.layoutParts_rename (renames_moved
    (Qualifier.isVisible_table d s.schema.identifier) (fun _ => rfl) draft.issued draft.aliases)
      (Query.mk s)
  have hcondition := (s.spec_filter d (.table s.schema.identifier)).writes hfaults draft
  rw [← hmoved] at hcondition
  have hwrite : Update.write ⟨s, assignments⟩ d = (do
      let sets ← Clause.writeAll d .none assignments
      let condition ← s.filter d (.table s.schema.identifier)
      return spaced [some (.word "UPDATE " :: table s.schema.identifier ++ .word " SET " ::
        joinWith ", " sets), condition]) := by
    simp [Update.write, hpaged]
  rw [hwrite, outcome_andThen, hassign]
  simp only
  rw [outcome_andThen, hcondition]
  rfl

/--
The conditions of a query, wherever it is used.  Either there is a reason for
which none of the statements can be written, or there are the conditions and
the values of the query as they are where its rows are fetched, and

* where a row of the query has to exist, from whatever draft the condition is
  written and whatever the order and the window of the query are, the same
  conditions stand behind the next alias, after the values and the aliases of
  the draft;
* where its rows are updated without a window, the same conditions stand
  behind the name of the table, after the values and the aliases of the
  assignments.

In each of them the values are bound in the same order.
-/
theorem filter_of_fetch (d : Dialect) (s : Selection Query) :
    (∃ e, (outcome (s.fetch d) {}).1 = .error e ∧
      (∀ column innerColumn negated q order limit offset draft,
        (outcome (Clause.write d q
          (.related column (.mk { s with order, limit, offset }) innerColumn negated)) draft).1 =
            .error e) ∧
      ∀ assignments sets draft, s.isPaged = false →
        outcome (Clause.writeAll d .none assignments) {} = (.ok sets, draft) →
        (outcome (Update.write ⟨s, assignments⟩ d) {}).1 = .error e) ∨
    ∃ (parts : List Fragment) (values : List Value) (nested : Nat),
      outcome (s.fetch d) {} =
        (.ok (rowsFrom (allColumns (.tableAlias 1) s.schema) s.schema.identifier 1
          (conjunction parts) (s.tail d (.tableAlias 1))), Draft.advance {} values (nested + 1)) ∧
      (∀ column innerColumn negated q order limit offset draft,
        outcome (Clause.write d q
          (.related column (.mk { s with order, limit, offset }) innerColumn negated)) draft =
          (.ok (existence (if negated then "NOT EXISTS" else "EXISTS") s.schema.identifier
            (draft.aliases + 1) innerColumn (q.column column)
            (parts.map (Fragment.moved [.tableAlias (draft.aliases + 1)] draft.issued
              (draft.aliases + 1)))), draft.advance values (nested + 1))) ∧
      ∀ assignments sets draft, s.isPaged = false →
        outcome (Clause.writeAll d .none assignments) {} = (.ok sets, draft) →
        outcome (Update.write ⟨s, assignments⟩ d) {} =
          (.ok (spaced [
            some (.word "UPDATE " :: table s.schema.identifier ++ .word " SET " ::
              joinWith ", " sets),
            conjunction (parts.map (Fragment.moved (table s.schema.identifier) draft.issued
              draft.aliases))]), draft.advance values nested) := by
  cases hfaults : (Query.mk s).faults d with
  | cons e rest =>
      refine .inl ⟨e, ?_, ?_, ?_⟩
      · exact (s.spec_fetch d).fails e (by simp [hfaults]) {}
      · intro column innerColumn negated q order limit offset draft
        exact (s.spec_related d column innerColumn negated q order limit offset).fails e
          (by simp [hfaults]) draft
      · intro assignments sets draft hpaged hassign
        obtain ⟨hsets, -, -⟩ := (Clause.spec_writeAll d .none assignments).of_ok hassign
        refine (Update.spec_write d ⟨s, assignments⟩).fails e ?_ {}
        simp [Update.faults, hsets, hpaged, hfaults]
  | nil =>
      refine .inr ⟨s.fetchParts d, (Query.mk s).values, (Query.mk s).subqueries.length, ?_, ?_, ?_⟩
      · rw [(s.spec_fetch d).writes hfaults {}]
        rfl
      · intro column innerColumn negated q order limit offset draft
        exact (s.spec_related d column innerColumn negated q order limit offset).writes hfaults
          draft
      · intro assignments sets draft hpaged hassign
        exact s.outcome_update d hpaged hassign hfaults

end Selection

end SqlCompose
