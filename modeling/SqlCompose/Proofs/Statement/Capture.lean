import SqlCompose.Proofs.Statement.Declaration

/-!
# Columns of the updated table

A row that is updated has no alias: its columns stand behind the name of the
table.  In a list of rows that is related to it, the alias of the list is in
view as well, and comes first where both go by the same name.  The column that
the list is related to is then taken for one of the list, and the condition is
not about the row.

Which aliases there are does not depend on the names of the tables, so it can
come to this, and it does so just for tables that are called like the alias of
a list that is related to them.

## Main results

* `Request.captured_iff_of_compile` — when a column of the updated table is
  taken for one of a list of rows.
* `Request.captured_answered` — an update where it is.
-/

namespace SqlCompose

open Fragment

/--
Whether a column that is written behind the name of its table stands in a list
of rows whose alias the name denotes.  How names are compared is the dialect's.
-/
def Mention.IsCaptured (denotes : List String → String → Prop) (m : Mention) : Prop :=
  ∃ identifier, m.qualifier = .table identifier ∧ ∃ n ∈ m.scopes, denotes identifier (aliasText n)

namespace Update

/-- What is captured of an update are the columns that lists are related to. -/
theorem exists_captured_iff {u : Update} {found : List Mention}
    (hown : ∀ m ∈ found, m.qualifier = .none ∨
      m = ⟨.table u.query.schema.identifier, [], false⟩ ∨
      (∃ n ∈ u.relatedNumbers, m = ⟨.table u.query.schema.identifier, [n], true⟩) ∨ m.IsInner)
    (houter : ∀ n ∈ u.relatedNumbers, ⟨.table u.query.schema.identifier, [n], true⟩ ∈ found)
    (denotes : List String → String → Prop) :
    (∃ m ∈ found, m.IsCaptured denotes) ↔
      ∃ n ∈ u.relatedNumbers, denotes u.query.schema.identifier (aliasText n) := by
  constructor
  · rintro ⟨m, hm, identifier, hqualifier, n, hn, hdenotes⟩
    rcases hown m hm with h | rfl | ⟨n', hn', rfl⟩ | ⟨n', h, -⟩
    · rw [h] at hqualifier
      cases hqualifier
    · cases hn
    · obtain rfl := List.mem_singleton.1 hn
      cases hqualifier
      exact ⟨n, hn', hdenotes⟩
    · rw [h] at hqualifier
      cases hqualifier
  · rintro ⟨n, hn, hdenotes⟩
    exact ⟨_, houter n hn, _, rfl, n, List.mem_singleton.2 rfl, hdenotes⟩

end Update

namespace Request

/--
In a compiled update the columns behind the name of the updated table are
those of the updated row, and those that a list of rows is related to.  The
former stand in no list.  The latter stand in that list only, so they are
taken for columns of the list just if the name denotes its alias.
-/
theorem captured_iff_of_compile {u : Update} {settings : Except Error Settings} {d : Dialect}
    {statement : Statement} {events : List Event}
    (h : (update u).compile settings d = .ok (some (statement, events)))
    (denotes : List String → String → Prop) :
    ∃ w f draft found, (update u).blueprint = .ok (some w) ∧
      Writing.outcome (w d) {} = (.ok f, draft) ∧ statement.sql = f.text d ∧
      Reads .statement [] f (List.range' 1 (update u).listCount) found ∧
      (∀ m ∈ found, ∀ identifier, m.qualifier = .table identifier →
        identifier = u.query.schema.identifier ∧ (m.isOuter = false ∧ m.scopes = [] ∨
          m.isOuter = true ∧ ∃ n ∈ u.relatedNumbers, m.scopes = [n])) ∧
      (∀ n ∈ u.relatedNumbers, ⟨.table u.query.schema.identifier, [n], true⟩ ∈ found) ∧
      ((∃ m ∈ found, m.IsCaptured denotes) ↔
        ∃ n ∈ u.relatedNumbers, denotes u.query.schema.identifier (aliasText n)) := by
  obtain ⟨w, hw, hcompile⟩ := exists_blueprint_of_compile h
  obtain ⟨f, draft, hok, hsql, -⟩ := Blueprint.exists_of_compile hcompile
  obtain ⟨hlayout, -⟩ := exists_of_written hw hok
  cases hlayout
  obtain ⟨found, hreads, hown, houter⟩ := u.exists_reads_layout d
  refine ⟨w, _, draft, found, hw, hok, hsql, hreads, fun m hm identifier hqualifier => ?_, houter,
    Update.exists_captured_iff hown houter denotes⟩
  rcases hown m hm with h | rfl | ⟨n, hn, rfl⟩ | ⟨n, h, -⟩
  · rw [h] at hqualifier
    cases hqualifier
  · cases hqualifier
    exact ⟨rfl, .inl ⟨rfl, rfl⟩⟩
  · cases hqualifier
    exact ⟨rfl, .inr ⟨rfl, n, hn, rfl⟩⟩
  · rw [h] at hqualifier
    cases hqualifier

/-- A name of one segment denotes an alias with the same text. -/
def sameName (identifier : List String) (name : String) : Prop := identifier = [name]

/-- Marks what has an answer, in a table with the given name. -/
def answered (name : String) : Update where
  query := {
    schema := { answers with identifier := [name] }
    related := [.related "id" anyAnswer "parent" false] }
  assignments := [.assign "parent" (.int 0) none]

set_option maxRecDepth 4000 in
/-- What is in view under the alias of the list is not what goes by the name of the table. -/
theorem captured_iff_answered :
    ∃ statement events,
      (update (answered "answers")).compile (.ok {}) .postgres = .ok (some (statement, events)) ∧
        statement.sql = "UPDATE \"answers\" SET \"parent\"=$1 WHERE ( EXISTS ( " ++
          "SELECT t1.\"parent\" FROM \"answers\" t1 " ++
          "WHERE t1.\"parent\" = \"answers\".\"id\" ) )" ∧
        ∃ f found, statement.sql = f.text .postgres ∧ Reads .statement [] f [1] found ∧
          ⟨.table ["answers"], [1], true⟩ ∈ found ∧ ¬ ∃ m ∈ found, m.IsCaptured sameName := by
  obtain ⟨statement, events, hcompile⟩ : ∃ statement events,
      (update (answered "answers")).compile (.ok {}) .postgres =
        .ok (some (statement, events)) := ⟨_, _, rfl⟩
  obtain ⟨_, f, _, found, -, -, hsql, hreads, -, houter, hcaptured⟩ :=
    captured_iff_of_compile hcompile sameName
  have hnumbers : (answered "answers").relatedNumbers = [1] := rfl
  rw [hnumbers] at houter hcaptured
  refine ⟨statement, events, hcompile, ?_, f, found, hsql, hreads, houter 1 (by simp), ?_⟩
  · cases hcompile
    rfl
  · rw [hcaptured]
    rintro ⟨n, hn, hname⟩
    obtain rfl := List.mem_singleton.1 hn
    revert hname
    unfold sameName
    decide

set_option maxRecDepth 4000 in
/--
The answers to an answer are looked for in a table that is called like their
alias, so that each is compared with itself and the updated row with nothing.
-/
theorem captured_answered :
    ∃ statement events,
      (update (answered "t1")).compile (.ok {}) .postgres = .ok (some (statement, events)) ∧
        statement.sql = "UPDATE \"t1\" SET \"parent\"=$1 WHERE ( EXISTS ( " ++
          "SELECT t1.\"parent\" FROM \"answers\" t1 WHERE t1.\"parent\" = \"t1\".\"id\" ) )" ∧
        ∃ f found, statement.sql = f.text .postgres ∧ Reads .statement [] f [1] found ∧
          ∃ m ∈ found, m.isOuter = true ∧ m.IsCaptured sameName := by
  obtain ⟨found, hreads, -, houter⟩ := (answered "t1").exists_reads_layout .postgres
  refine ⟨_, _, rfl, rfl, _, found, rfl, hreads, _, houter 1 (List.mem_singleton.2 rfl), rfl,
    ["t1"], rfl, 1, List.mem_singleton.2 rfl, ?_⟩
  unfold sameName
  decide

end Request

end SqlCompose
