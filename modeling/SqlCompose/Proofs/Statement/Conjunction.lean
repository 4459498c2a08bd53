import SqlCompose.Proofs.Statement.Factor
import SqlCompose.Proofs.Statement.Occurrence

/-!
# Conditions that all have to hold

The conditions of a query are meant to hold all together.  They are written
with `AND` between them and with no brackets of their own, so that what they
come to depends on how each of them is read.  Those that the library writes
are one factor each, nested to any depth.  A manual fragment is what its
author makes of it, and may have an `OR`: then the conditions next to it
belong to one of its alternatives only, and a row can pass that does not meet
them.

## Main results

* `Query.exists_readings` — the conditions of a query are read, if its manual
  fragments are.
* `Clause.isExistence_of_write` — what is written for a sub-query: one factor
  relates its row to the one outside, and its conditions stand next to that.
* `Request.conjunction_of_compile` — where the conditions of a query and of
  its sub-queries stand in a statement, and what the whole is read as
  (`Fragment.AreJoined`).
* `Request.holds_lenientReviews` — a row that passes without meeting the
  first condition.
-/

namespace SqlCompose

open Fragment Writing

variable {b : BuiltIn}

/-! ## Conditions of the library -/

/-- Whether a manual fragment is a condition wherever it is written. -/
def Template.IsCondition (b : BuiltIn) (template : Template) : Prop :=
  ∀ q : Qualifier, q.isOwn = true → ∀ column issued, ∃ e,
    reading b (q.column column ++ Template.weave template.literals
      ((List.range' (issued + 1) template.values.length).map .mark)) = some e

/-- Whether a clause is a manual fragment itself. -/
def Clause.isManual : Clause Query → Bool
  | .manual .. => true
  | _ => false

/-! ## Clauses -/

private def Clause.IsRead (b : BuiltIn) (c : Clause Query) : Prop :=
  (∀ t ∈ c.templates, t.IsCondition b) → ∀ q : Qualifier, q.isOwn = true → ∀ issued aliases,
    (c.isManual = false → b.lexis.IsFactor ((c.layout (.ofBuiltIn b) q issued aliases).text
      (.ofBuiltIn b))) ∧
    ∃ e, (c.layout (.ofBuiltIn b) q issued aliases).reading b = some e

private def Query.IsRead (b : BuiltIn) (query : Query) : Prop :=
  (∀ t ∈ query.templates, t.IsCondition b) → ∀ q : Qualifier, q.isOwn = true → ∀ issued aliases,
    ∃ es : List Chain,
      (query.layoutParts (.ofBuiltIn b) q issued aliases).map (reading b) = es.map some

private theorem isRead_of_isFactor {f : Fragment} {manual : Bool}
    (h : b.lexis.IsFactor (f.text (.ofBuiltIn b))) :
    (manual = false → b.lexis.IsFactor (f.text (.ofBuiltIn b))) ∧ ∃ e, f.reading b = some e := by
  obtain ⟨k, hk⟩ := h.exists_read
  exact ⟨fun _ => h, _, hk⟩

/-- The condition that relates a row to one of another table is a factor. -/
theorem exists_reading_correlation (b : BuiltIn) {q q' : Qualifier} (hq : q.isOwn = true)
    (hq' : q'.isOwn = true) (column column' : String) :
    ∃ k, reading b (q.column column ++ .word " = " :: q'.column column') = some (.last k) := by
  have hequals : " = " = " " ++ "=" ++ " " := by decide
  have hsign : b.lexis.IsPart "=" := Lexis.isPart_of_check (by cases b <;> decide)
  have hleft := Qualifier.isFactor_column (b := b) hq column
  have hright := Qualifier.isFactor_column (b := b) hq' column'
  have hwhole := (hleft.space b.isStandard hsign).space b.isStandard hright.isPart
  unfold reading
  rw [text_append, text_cons, Piece.text, hequals]
  simpa only [String.append_assoc] using hwhole.exists_read

private theorem exists_readings_of_forall {cs : List (Clause Query)} (hcs : ∀ c ∈ cs, c.IsRead b)
    (h : ∀ t ∈ Clause.templatesAll cs, t.IsCondition b) {q : Qualifier} (hq : q.isOwn = true)
    (issued aliases : Nat) :
    ∃ es : List Chain,
      (Clause.layoutAll (.ofBuiltIn b) q issued aliases cs).map (reading b) = es.map some := by
  induction cs generalizing issued aliases with
  | nil => exact ⟨[], by simp [Clause.layoutAll]⟩
  | cons c rest ih =>
      rw [Clause.templatesAll_cons, List.forall_mem_append] at h
      obtain ⟨-, e, he⟩ := hcs c List.mem_cons_self h.1 q hq issued aliases
      obtain ⟨es, hes⟩ := ih (fun c' hc' => hcs c' (List.mem_cons_of_mem _ hc')) h.2
        (issued + c.values.length) (aliases + c.subqueries.length)
      exact ⟨e :: es, by rw [Clause.layoutAll_cons, List.map_cons, he, hes, List.map_cons]⟩

private theorem isRead_hereditary (b : BuiltIn) :
    Hereditary (Clause.IsRead b) (Query.IsRead b) where
  compare column op value negated table _ q hq issued aliases := by
    rw [Clause.layout]
    split
    · exact isRead_of_isFactor (isFactor_null hq column negated)
    · exact isRead_of_isFactor (isFactor_comparison hq column op (issued + 1))
  assign column value table _ q hq issued aliases := by
    obtain ⟨c, rest, m, htext, hc, hpasses, hopen, hpending⟩ :=
      exists_passes_placeholder b (issued + 1)
    have hequals : ("=" ++ (Dialect.ofBuiltIn b).placeholder (toString (issued + 1))).toList =
        '=' :: c :: rest := by
      rw [String.toList_append, htext]
      rfl
    have hfactor := isFactor_assignment hq column hequals hc hpasses hopen hpending
    refine isRead_of_isFactor ?_
    simpa [Clause.layout, text_append, text_cons, Piece.text] using hfactor
  assignNull column table _ q hq issued aliases := by
    have hpasses := b.passes_word (show ['N', 'U', 'L', 'L'] ≠ [] by decide) (by decide)
    have hplain : b.lexis.IsPlain (.word ['N', 'U', 'L', 'L']) := by cases b <;> exact ⟨rfl, rfl⟩
    have hfactor := isFactor_assignment (t := "=NULL") hq column (by decide) (by decide) hpasses rfl
      (by simpa [Mode.pending] using hplain)
    refine isRead_of_isFactor ?_
    simpa [Clause.layout, text_append, text_cons, Piece.text] using hfactor
  manual column template table h q hq issued aliases := by
    refine ⟨fun hmanual => (by cases hmanual), ?_⟩
    have ht := h template (by simp [Clause.templates])
    exact ht q hq column issued
  related column inner innerColumn negated ih h q hq issued aliases := by
    obtain ⟨es, hes⟩ := ih h (.tableAlias (aliases + 1)) rfl issued (aliases + 1)
    obtain ⟨k, hk⟩ := exists_reading_correlation b (q := .tableAlias (aliases + 1)) rfl hq
      innerColumn column
    have hparts : (((Qualifier.tableAlias (aliases + 1)).column innerColumn ++
        .word " = " :: q.column column) :: inner.layoutParts (.ofBuiltIn b)
          (.tableAlias (aliases + 1)) issued (aliases + 1)).map (reading b) =
        (.last k :: es).map some := by
      rw [List.map_cons, hk, hes, List.map_cons]
    exact isRead_of_isFactor (isFactor_existence negated (read_joinWith hparts))
  among query column ih h q hq issued aliases := by
    obtain ⟨es, hes⟩ := ih h (.tableAlias (aliases + 1)) rfl issued (aliases + 1)
    have hown : (Qualifier.tableAlias (aliases + 1)).isOwn = true := rfl
    have hkey := Qualifier.isFactor_column (b := b) hown query.selection.schema.firstKey
    have hrows := isPart_rowsFrom hkey.isPart (isPart_conjunction hes)
      (isPart_tail hown query.selection) query.selection.schema.identifier (aliases + 1)
    exact isRead_of_isFactor (isFactor_membership (Qualifier.isFactor_column hq _) hrows)
  selection s hconditions hrelated h q hq issued aliases := by
    rw [Query.templates_mk, List.forall_mem_append] at h
    obtain ⟨es, hes⟩ := exists_readings_of_forall hconditions h.1 hq issued aliases
    obtain ⟨es', hes'⟩ := exists_readings_of_forall hrelated h.2 hq
      (issued + (Clause.valuesAll s.conditions).length)
      (aliases + (Clause.subqueriesAll s.conditions).length)
    exact ⟨es ++ es', by rw [Query.layoutParts_mk, List.map_append, hes, hes', List.map_append]⟩
  unwritable schema reason _ q hq issued aliases := ⟨[], by simp [Query.layoutParts]⟩

/-- The conditions of a query are read, if its manual fragments are. -/
theorem Query.exists_readings {query : Query} (h : ∀ t ∈ query.templates, t.IsCondition b)
    {q : Qualifier} (hq : q.isOwn = true) (issued aliases : Nat) :
    ∃ es : List Chain,
      (query.layoutParts (.ofBuiltIn b) q issued aliases).map (reading b) = es.map some :=
  (isRead_hereditary b).query query h q hq issued aliases

/-! ## Statements -/

/--
How the text of a fragment is read that was put together from conditions with
`AND` between them.  It is their conjunction if there is only one or if none
has an `OR` outside of brackets, and is not otherwise.
-/
structure Fragment.IsJoin (b : BuiltIn) (f : Fragment) (e : Chain) (es : List Chain) : Prop where
  reading : f.reading b = some (.joinAll e es)
  conjunction_iff : f.reading b = some (.conjunction e es) ↔
    es = [] ∨ ∀ e' ∈ e :: es, e'.hasOr = false
  holds : (es = [] ∨ ∀ e' ∈ e :: es, e'.hasOr = false) →
    ∀ v, (Chain.joinAll e es).Holds v ↔ ∀ e' ∈ e :: es, e'.Holds v

theorem isJoin_joinWith {f : Fragment} {rest : List Fragment} {e : Chain} {es : List Chain}
    (h : (f :: rest).map (reading b) = (e :: es).map some) :
    (joinWith " AND " (f :: rest)).IsJoin b e es where
  reading := read_joinWith h
  conjunction_iff := by
    rw [read_joinWith h, Option.some.injEq]
    exact Chain.joinAll_eq_conjunction_iff e es
  holds := by
    rintro (rfl | hor) v
    · simp [Chain.joinAll]
    · exact Chain.holds_joinAll hor

/--
How the given conditions are read with `AND` between them.  They are
conditions by themselves if the given manual fragments are, and where they are,
the whole is their join.
-/
structure Fragment.AreJoined (b : BuiltIn) (parts : List Fragment) (templates : List Template) :
    Prop where
  read : (∀ t ∈ templates, t.IsCondition b) →
    ∃ es : List Chain, parts.map (Fragment.reading b) = es.map some
  join : ∀ e es, parts.map (Fragment.reading b) = (e :: es).map some →
    (joinWith " AND " parts).IsJoin b e es

theorem areJoined_of_exists {parts : List Fragment} {templates : List Template}
    (h : (∀ t ∈ templates, t.IsCondition b) →
      ∃ es : List Chain, parts.map (reading b) = es.map some) :
    AreJoined b parts templates where
  read := h
  join e es hes := by
    cases parts with
    | nil => cases hes
    | cons f rest => exact isJoin_joinWith hes

/--
What asks for a row of a sub-query.  Behind `WHERE` there are the condition
that relates the row to one outside, which is a factor, and what the writer
answers with for the sub-query.
-/
def Fragment.IsExistence (b : BuiltIn) (f : Fragment) (q : Qualifier) (column : String)
    (inner : Query) (innerColumn : String) (negated : Bool) : Prop :=
  let d := Dialect.ofBuiltIn b
  ∃ (number : Nat) (draft : Draft) (parts : List Fragment),
    let own := (Qualifier.tableAlias number).column innerColumn
    let correlation := own ++ .word " = " :: q.column column
    (outcome (Query.writeParts d (.tableAlias number) inner) draft).1 = .ok parts ∧
    parts.length = inner.selection.conditions.length + inner.selection.related.length ∧
    f.text d = (if negated then "NOT EXISTS" else "EXISTS") ++ " ( SELECT " ++ own.text d ++
      " FROM " ++ (table inner.selection.schema.identifier).text d ++ " " ++ aliasText number ++
      " WHERE " ++ (joinWith " AND " (correlation :: parts)).text d ++ " )" ∧
    (∃ k, correlation.reading b = some (.last k)) ∧
    AreJoined b (correlation :: parts) inner.templates

/-- The conditions of a query that has no fault are written as their layout. -/
private theorem writes_layoutParts {query : Query} {d : Dialect} (h : query.faults d = [])
    (q : Qualifier) (issued aliases : Nat) :
    (outcome (Query.writeParts d q query) ⟨#[], issued, aliases⟩).1 =
      .ok (query.layoutParts d q issued aliases) := by
  rw [(query.spec_writeParts d q).writes h]

theorem Clause.isExistence_of_write {q : Qualifier} (hq : q.isOwn = true) {column : String}
    {inner : Query} {innerColumn : String} {negated : Bool} {draft : Draft} {f : Fragment}
    (h : (outcome (Clause.write (.ofBuiltIn b) q (.related column inner innerColumn negated))
      draft).1 = .ok f) :
    f.IsExistence b q column inner innerColumn negated := by
  rcases hout : outcome (Clause.write (.ofBuiltIn b) q
    (.related column inner innerColumn negated)) draft with ⟨written, next⟩
  rw [hout] at h
  cases h
  obtain ⟨hfaults, rfl, -⟩ := (Clause.spec_write (.ofBuiltIn b) q
    (.related column inner innerColumn negated)).of_ok hout
  have hinner : inner.faults (.ofBuiltIn b) = [] := hfaults
  obtain ⟨k, hk⟩ := exists_reading_correlation b (q := .tableAlias (draft.aliases + 1)) rfl hq
    innerColumn column
  refine ⟨draft.aliases + 1, ⟨#[], draft.issued, draft.aliases + 1⟩, _,
    writes_layoutParts hinner _ _ _, Query.length_layoutParts inner _ _ _, ?_, ⟨k, hk⟩,
    areJoined_of_exists fun hconditions => ?_⟩
  · rw [Clause.layout, existence]
    simp only [List.cons_append, text_cons, text_append, text_nil, Piece.text,
      String.append_assoc, String.append_empty]
  · obtain ⟨es, hes⟩ := Query.exists_readings hconditions
      (q := .tableAlias (draft.aliases + 1)) rfl draft.issued (draft.aliases + 1)
    exact ⟨.last k :: es, by rw [List.map_cons, hk, hes, List.map_cons]⟩

namespace Request

/--
The conditions of a compiled statement on a query are what the writer answers
with for the query, one for each clause, and they stand behind `WHERE` in
brackets with `AND` between them.  Every sub-query, however deep it is, is
asked for a row in a part of the statement, and wherever that is written it is
written so that its conditions have `AND` between them as well.
-/
theorem conjunction_of_compile {request : Request} {s : Selection Query}
    (hs : request.query? = some s) {b : BuiltIn} {settings : Except Error Settings}
    {statement : Statement} {events : List Event}
    (h : request.compile settings (.ofBuiltIn b) = .ok (some (statement, events))) :
    let d := Dialect.ofBuiltIn b
    (∃ (q : Qualifier) (draft : Draft) (parts : List Fragment),
      (outcome (Query.writeParts d q (.mk s)) draft).1 = .ok parts ∧
      parts.length = s.conditions.length + s.related.length ∧
      (parts ≠ [] → ∃ head rest,
        statement.sql = head ++ " WHERE ( " ++ (joinWith " AND " parts).text d ++ " )" ++ rest) ∧
      AreJoined b parts (Query.mk s).templates) ∧
    ∀ column inner innerColumn negated,
      .related column inner innerColumn negated ∈ (Query.mk s).clauses →
      (∃ (q : Qualifier) (draft : Draft) (f : Fragment), q.isOwn = true ∧
        (outcome (Clause.write d q (.related column inner innerColumn negated)) draft).1 = .ok f ∧
        ∃ head rest, statement.sql = head ++ f.text d ++ rest) ∧
      ∀ (q : Qualifier) (draft : Draft) (f : Fragment), q.isOwn = true →
        (outcome (Clause.write d q (.related column inner innerColumn negated)) draft).1 = .ok f →
        f.IsExistence b q column inner innerColumn negated := by
  intro d
  have hfaults := faults_of_compile hs h
  obtain ⟨f, -, hlayout, -, hsql, -⟩ := exists_of_compile h
  obtain ⟨q, issued, aliases, hq, hinfix⟩ := exists_infix_of_layout hs hlayout
  refine ⟨⟨q, ⟨#[], issued, aliases⟩, _, writes_layoutParts hfaults q issued aliases,
    Query.length_layoutParts (.mk s) q issued aliases, ?_,
    areJoined_of_exists fun hconditions => Query.exists_readings hconditions hq issued aliases⟩,
    fun column inner innerColumn negated hmem => ⟨?_, fun q' draft f' hq' =>
      Clause.isExistence_of_write hq'⟩⟩
  · intro hne
    obtain ⟨g, rest, hparts⟩ := List.exists_cons_of_ne_nil hne
    obtain ⟨before, after, htext⟩ := exists_text_of_infix hinfix d
    refine ⟨before, after, ?_⟩
    have hwhere : " WHERE ( " = " " ++ "WHERE ( " := by decide
    rw [hsql, htext, hparts, hwhere]
    simp only [conjunction, behindSpace, text_cons, text_append, text_nil, Piece.text,
      String.append_assoc, String.append_empty, d]
  · obtain ⟨f', hf', q', issued', aliases', hq', hclause⟩ :=
      Query.exists_infix_of_mem (b := b) hmem hq issued aliases
    obtain ⟨before, after, htext⟩ :=
      exists_text_of_infix (hclause.trans ((infix_conjunction hf').trans hinfix)) d
    have hinner : (Clause.related column inner innerColumn negated).faults d = [] :=
      Query.faults_of_mem hfaults hmem
    have hwrite := congrArg Prod.fst ((Clause.spec_write d q'
      (.related column inner innerColumn negated)).writes hinner ⟨#[], issued', aliases'⟩)
    exact ⟨q', _, _, hq', hwrite, before, after, by rw [hsql, htext]⟩

/-- What customers say about products. -/
def reviews : Schema where
  identifier := ["reviews"]
  columns := [{ name := "review_id", type := "int" }, { name := "product_id", type := "int" },
    { name := "rating", type := "int" }, { name := "body", type := "text" }]
  primaryKeys := ["review_id"]

/-- Reviews with a low rating. -/
def badReviews : Query :=
  .mk { schema := reviews, conditions := [.compare "rating" .lt (.int 2) false none] }

/-- The good reviews of a product that has no bad one. -/
def goodReviews : Selection Query where
  schema := reviews
  conditions := [.compare "product_id" .eq (.int 7) false none,
    .manual "rating" ⟨" > ?", [.int 3], by rfl⟩ none]
  related := [.related "product_id" badReviews "product_id" true]

private theorem isCondition_goodReviews :
    ∀ t ∈ (Query.mk goodReviews).templates, t.IsCondition .postgres := by
  intro t ht q hq column issued
  obtain rfl : t = ⟨" > ?", [.int 3], by rfl⟩ := List.mem_singleton.1 ht
  obtain ⟨k, hk⟩ := (isFactor_comparison (b := .postgres) hq column .gt (issued + 1)).exists_read
  have hliterals : Template.literals ⟨" > ?", [.int 3], by rfl⟩ = [" > ", ""] := by decide
  have hwords : " > " = " " ++ (">" ++ " ") := by decide
  have hop : (Dialect.ofBuiltIn .postgres).operator Operator.gt.symbol = ">" := by decide
  refine ⟨.last k, ?_⟩
  rw [hop] at hk
  rw [← hk, hliterals, reading, List.length_singleton, List.range'_one, List.map_singleton,
    Template.weave_cons_cons, Template.weave_cons_nil, Template.weave_nil]
  simp only [text_append, text_cons, text_nil, Piece.text, hwords, String.append_assoc,
    String.append_empty]

set_option maxRecDepth 4000 in
/-- Three conditions are read as the conjunction of what they are, and the last has a sub-query. -/
theorem conjunction_goodReviews :
    (fetch goodReviews).query? = some goodReviews ∧ ∃ statement events,
      (fetch goodReviews).compile (.ok {}) (.ofBuiltIn .postgres) =
          .ok (some (statement, events)) ∧
        (∃ (body : Fragment) (e : Chain) (es : List Chain), es.length = 2 ∧
          (∃ head rest, statement.sql =
            head ++ " WHERE ( " ++ body.text .postgres ++ " )" ++ rest) ∧
          body.IsJoin .postgres e es) ∧
        ∃ (q : Qualifier) (f : Fragment),
          (∃ head rest, statement.sql = head ++ f.text .postgres ++ rest) ∧
          f.IsExistence .postgres q "product_id" badReviews "product_id" true := by
  obtain ⟨statement, events, hcompile⟩ : ∃ statement events,
      (fetch goodReviews).compile (.ok {}) (.ofBuiltIn .postgres) =
        .ok (some (statement, events)) := ⟨_, _, rfl⟩
  have hquery : (fetch goodReviews).query? = some goodReviews := rfl
  obtain ⟨⟨q, draft, parts, -, hlength, hwhere, hjoined⟩, hrelated⟩ :=
    conjunction_of_compile hquery hcompile
  refine ⟨hquery, statement, events, hcompile, ?_, ?_⟩
  · obtain ⟨es, hes⟩ := hjoined.read isCondition_goodReviews
    have hlengths := congrArg List.length hes
    rw [List.length_map, List.length_map, hlength] at hlengths
    obtain ⟨e, es, rfl⟩ := List.exists_cons_of_length_pos (l := es) (by rw [← hlengths]; decide)
    refine ⟨_, e, es, Nat.succ.inj hlengths.symm, hwhere ?_, hjoined.join e es hes⟩
    rintro hnil
    rw [hnil] at hlength
    cases hlength
  · have hclauses : (Query.mk goodReviews).clauses = goodReviews.conditions ++
        goodReviews.related ++ [.compare "rating" .lt (.int 2) false none] := rfl
    have hmem : Clause.related "product_id" badReviews "product_id" true ∈
        (Query.mk goodReviews).clauses := by
      rw [hclauses]
      simp [goodReviews]
    obtain ⟨⟨q', draft', f, hq', hwrite, hinside⟩, hexistence⟩ := hrelated _ _ _ _ hmem
    exact ⟨q', f, hinside, hexistence q' draft' f hq' hwrite⟩

/-- The reviews of a product that are good ones, by their rating or by what they say. -/
def lenientReviews : Selection Query where
  schema := reviews
  conditions := [.compare "product_id" .eq (.int 7) false none,
    .manual "rating" ⟨" > ? OR body LIKE ?", [.int 3, .text "%good%"], by rfl⟩ none]

/-- The factor that asks for the product. -/
def productTest : List Item := [.lexeme (.word ['t', '1']), .lexeme (.sign '.'),
  .lexeme (.quoted "product_id".toList), .lexeme (.operator ['=']), .lexeme (.word ['$', '1'])]

/-- The factor that asks for the rating. -/
def ratingTest : List Item := [.lexeme (.word ['t', '1']), .lexeme (.sign '.'),
  .lexeme (.quoted "rating".toList), .lexeme (.operator ['>']), .lexeme (.word ['$', '2'])]

/-- The factor that asks for the text. -/
def bodyTest : List Item := [.lexeme (.word "body".toList), .lexeme (.word "LIKE".toList),
  .lexeme (.word ['$', '3'])]

set_option maxRecDepth 4000 in
/--
A review passes for what it says, whatever product it is about: each of the
two conditions is read, but what is between the brackets is not their
conjunction.
-/
theorem holds_lenientReviews :
    ∃ statement events,
      (fetch lenientReviews).compile (.ok {}) (.ofBuiltIn .postgres) =
          .ok (some (statement, events)) ∧
        statement.sql = "SELECT t1.\"review_id\", t1.\"product_id\", t1.\"rating\", " ++
          "t1.\"body\" FROM \"reviews\" t1 " ++
          "WHERE ( t1.\"product_id\" = $1 AND t1.\"rating\" > $2 OR body LIKE $3 )" ∧
        ∃ product opinion whole : Chain,
          BuiltIn.postgres.lexis.read "t1.\"product_id\" = $1" = some product ∧
          BuiltIn.postgres.lexis.read "t1.\"rating\" > $2 OR body LIKE $3" = some opinion ∧
          BuiltIn.postgres.lexis.read
            "t1.\"product_id\" = $1 AND t1.\"rating\" > $2 OR body LIKE $3" = some whole ∧
          whole ≠ .conjunction product [opinion] ∧
          ∃ v : List Item → Prop, whole.Holds v ∧ ¬ product.Holds v := by
  refine ⟨_, _, rfl, rfl, .last productTest, .link ratingTest .or (.last bodyTest),
    .link productTest .and (.link ratingTest .or (.last bodyTest)), rfl, rfl, rfl, ?_,
    fun k => k = bodyTest, ?_, ?_⟩
  · intro h
    have hjoin := Chain.joinAll_eq_conjunction_iff (.last productTest)
      [.link ratingTest .or (.last bodyTest)]
    rcases hjoin.1 h with hnil | hor
    · cases hnil
    · cases hor (.link ratingTest .or (.last bodyTest)) (by simp)
  · simp [Chain.Holds, Chain.alternatives]
  · simp [Chain.Holds, Chain.alternatives, productTest, bodyTest]

end Request

end SqlCompose
