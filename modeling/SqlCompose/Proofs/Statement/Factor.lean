import SqlCompose.Proofs.Statement.Word

/-!
# Conditions of the library are factors

Each condition that the library writes is one factor for those who read it:
the `AND` between the conditions of a sub-query is in brackets, and so is
whatever a manual fragment has there, as long as it is read at all.

## Main results

* `isFactor_comparison`, `isFactor_null`, `isFactor_assignment` — what is
  written behind a column.
* `isPart_rowsFrom` — a list of rows, with its order and its window.
* `read_joinWith` — conditions with `AND` between them are read as the join of
  what they are read as.
* `isFactor_existence`, `isFactor_membership` — conditions with a sub-query.
-/

namespace SqlCompose

open Fragment

variable {b : BuiltIn}

/-! ## Tests of a column -/

/-- The test that a column has a value, or has none, is a factor. -/
theorem isFactor_null {q : Qualifier} (hq : q.isOwn = true) (column : String) (negated : Bool) :
    b.lexis.IsFactor (text (.ofBuiltIn b)
      (q.column column ++ [.word (if negated then " IS NOT NULL" else " IS NULL")])) := by
  have hcolumn := Qualifier.isFactor_column (b := b) hq column
  have hwords : ∀ w ∈ ["IS NOT NULL", "IS NULL"], b.lexis.checkFactor w = true := by
    cases b <;> decide
  have hnull : ∀ w ∈ ["IS NOT NULL", "IS NULL"],
      b.lexis.IsFactor ((q.column column).text (.ofBuiltIn b) ++ " " ++ w) :=
    fun w hw => hcolumn.space b.isStandard (Lexis.isFactor_of_check (hwords w hw)).isPart
  rw [text_append, text_cons, text_nil, String.append_empty]
  cases negated
  · have := hnull "IS NULL" (by simp)
    rwa [String.append_assoc] at this
  · have := hnull "IS NOT NULL" (by simp)
    rwa [String.append_assoc] at this

/-- A comparison is a factor. -/
theorem isFactor_comparison {q : Qualifier} (hq : q.isOwn = true) (column : String)
    (op : Operator) (n : Nat) :
    b.lexis.IsFactor (text (.ofBuiltIn b) (q.column column ++
      [.word " ", .word ((Dialect.ofBuiltIn b).operator op.symbol), .word " ", .mark n])) := by
  have hcolumn := Qualifier.isFactor_column (b := b) hq column
  have hop : b.lexis.IsFactor ((Dialect.ofBuiltIn b).operator op.symbol) := by
    refine Lexis.isFactor_of_check ?_
    cases b <;> cases op <;> decide
  have hwhole := (hcolumn.space b.isStandard hop.isPart).space b.isStandard
    (isPart_placeholder b n)
  simpa [text_append, text_cons, Piece.text, String.append_assoc] using hwhole

/-- An assignment is a factor for those who read conditions. -/
theorem isFactor_assignment {q : Qualifier} (hq : q.isOwn = true) (column : String) {t : String}
    {c : Char} {rest : List Char} {m : Mode} (ht : t.toList = '=' :: c :: rest)
    (hc : CharClass.of c ≠ .operator) (h : b.lexis.Passes .ground (c :: rest) m)
    (hopen : m.isOpen = false) (hpending : ∀ l ∈ m.pending, b.lexis.IsPlain l) :
    b.lexis.IsFactor ((q.column column).text (.ofBuiltIn b) ++ t) := by
  have hcolumn := Qualifier.passes_column (b := b) hq column
  have hwhole := hcolumn.append (b.passes_equals hc h)
  rw [← ht, ← String.toList_append] at hwhole
  refine hwhole.isFactor hopen hpending ?_
  -- The name of the column is one lexeme at least, which the equals sign ends.
  rw [String.toList_append, ht, Lexis.run_append, hcolumn.1, Lexis.run, b.step_equals]
  simp

/-! ## Lists of rows -/

/-- The order of a list of rows is a part of a factor. -/
theorem isPart_orderItems {q : Qualifier} (hq : q.isOwn = true) (items : List OrderItem) :
    b.lexis.IsPart
      ((joinWith ", " (items.map (OrderItem.fragment q))).text (.ofBuiltIn b)) := by
  have hword : ∀ direction : Direction, ∀ w ∈ [direction.keyword, direction.keyword ++ ","],
      b.lexis.checkFactor w = true := by
    cases b <;> rintro (_ | _) <;> decide
  have hitem : ∀ o : OrderItem, ∀ w ∈ [o.direction.keyword, o.direction.keyword ++ ","],
      b.lexis.IsPart ((q.column o.column).text (.ofBuiltIn b) ++ " " ++ w) :=
    fun o w hw => (Qualifier.isFactor_column hq o.column).isPart.space b.isStandard
      (Lexis.isPart_of_check (hword o.direction w hw))
  induction items with
  | nil => exact (Lexis.passes_nil _).isPart rfl (by simp [Mode.pending])
  | cons o rest ih =>
      cases rest with
      | nil =>
          have hone := hitem o o.direction.keyword (by simp)
          simpa [joinWith, OrderItem.fragment, text_append, text_cons, Piece.text,
            String.append_assoc] using hone
      | cons o' rest =>
          have hcomma : ", " = "," ++ " " := by decide
          have hmore := (hitem o (o.direction.keyword ++ ",") (by simp)).space b.isStandard ih
          rw [List.map_cons, List.map_cons, joinWith_cons_cons, text_append, text_cons, Piece.text,
            hcomma]
          simpa [OrderItem.fragment, text_append, text_cons, Piece.text,
            String.append_assoc] using hmore

/-- A window is a part of a factor. -/
theorem IsWindowText.isPart {t : String} (h : IsWindowText t) : b.lexis.IsPart t := by
  have hwords : ∀ w ∈ pagingWords, b.lexis.checkFactor w = true := by cases b <;> decide
  induction h with
  | word hw => exact Lexis.isPart_of_check (hwords _ hw)
  | number n => exact (isFactor_toString b n).isPart
  | space _ _ iht ihu => exact iht.space b.isStandard ihu

/-- Parts with spaces between them are a part. -/
theorem isPart_spaced {parts : List (Option Fragment)}
    (h : ∀ part ∈ parts, ∀ f ∈ part, b.lexis.IsPart (f.text (.ofBuiltIn b))) :
    b.lexis.IsPart ((spaced parts).text (.ofBuiltIn b)) := by
  have hfs : ∀ f ∈ parts.filterMap id, b.lexis.IsPart (f.text (.ofBuiltIn b)) := by
    intro f hf
    obtain ⟨part, hpart, hf⟩ := List.mem_filterMap.1 hf
    exact h part hpart f hf
  rw [spaced]
  generalize parts.filterMap id = fs at hfs ⊢
  induction fs with
  | nil => exact (Lexis.passes_nil _).isPart rfl (by simp [Mode.pending])
  | cons f rest ih =>
      have hf := hfs f List.mem_cons_self
      have hrest := ih fun g hg => hfs g (List.mem_cons_of_mem _ hg)
      cases rest with
      | nil => simpa [joinWith] using hf
      | cons g rest =>
          rw [joinWith_cons_cons, text_append, text_cons, ← String.append_assoc]
          exact hf.space b.isStandard hrest

/-- The end of a list of rows is a part of a factor. -/
theorem isPart_tail {ρ : Type} {q : Qualifier} (hq : q.isOwn = true) (s : Selection ρ) :
    ∀ f ∈ s.tail (.ofBuiltIn b) q, b.lexis.IsPart (f.text (.ofBuiltIn b)) := by
  intro f hf
  have hwords : "ORDER BY " = "ORDER BY" ++ " " := by decide
  have hnull : b.lexis.IsPart "ORDER BY (SELECT NULL)" :=
    Lexis.isPart_of_check (by cases b <;> decide)
  have hitems : b.lexis.IsPart ("ORDER BY" ++ " " ++
      (joinWith ", " (s.order.map (OrderItem.fragment q))).text (.ofBuiltIn b)) :=
    (Lexis.isPart_of_check (by cases b <;> decide)).space b.isStandard
      (isPart_orderItems hq s.order)
  have hf' : f = (s.tail (.ofBuiltIn b) q).getD [] := by
    rw [hf]
    rfl
  rw [hf', Selection.tail, getD_tail]
  refine isPart_spaced fun part hpart g hg => ?_
  rcases List.mem_cons.1 hpart with rfl | hpart
  · unfold ordering at hg
    split at hg
    · split at hg
      · cases hg
        simpa [text_cons, Piece.text] using hnull
      · cases hg
    · cases hg
      rw [text_cons, Piece.text, hwords]
      exact hitems
  · obtain rfl := List.mem_singleton.1 hpart
    obtain ⟨t, ht, rfl⟩ := Option.map_eq_some_iff.1 hg
    simpa [text_cons, Piece.text] using (IsWindowText.of_window ht).isPart

/-- The head of a list of rows is a part of a factor. -/
theorem isPart_head {columns : String} (hcolumns : b.lexis.IsPart columns)
    (identifier : List String) (number : Nat) :
    b.lexis.IsPart ("SELECT " ++ columns ++ " FROM " ++ (table identifier).text (.ofBuiltIn b) ++
      " " ++ aliasText number) := by
  have hselect : "SELECT " = "SELECT" ++ " " := by decide
  have hfrom : " FROM " = " " ++ ("FROM" ++ " ") := by decide
  have hwords : ∀ w ∈ ["SELECT", "FROM"], b.lexis.checkFactor w = true := by
    cases b <;> decide
  have hcolumns' := (Lexis.isPart_of_check (hwords "SELECT" (by simp))).space b.isStandard hcolumns
  have htable := ((Lexis.isPart_of_check (hwords "FROM" (by simp))).space b.isStandard
    (isPart_table b identifier)).space b.isStandard (isFactor_alias b number).isPart
  have hwhole := hcolumns'.space b.isStandard htable
  rw [hselect, hfrom]
  simpa only [String.append_assoc] using hwhole

/-- A list of rows has its brackets closed. -/
theorem isPart_rowsFrom {columns : Fragment} {condition ending : Option Fragment}
    (hcolumns : b.lexis.IsPart (columns.text (.ofBuiltIn b)))
    (hcondition : ∀ f ∈ condition, b.lexis.IsPart (f.text (.ofBuiltIn b)))
    (hending : ∀ f ∈ ending, b.lexis.IsPart (f.text (.ofBuiltIn b))) (identifier : List String)
    (number : Nat) :
    b.lexis.IsPart
      ((rowsFrom columns identifier number condition ending).text (.ofBuiltIn b)) := by
  have hhead := isPart_head hcolumns identifier number
  refine isPart_spaced fun part hpart f hf => ?_
  simp only [List.mem_cons, List.not_mem_nil, or_false] at hpart
  rcases hpart with rfl | rfl | rfl
  · cases hf
    simpa only [List.cons_append, text_append, text_cons, text_nil, Piece.text,
      String.append_assoc, String.append_empty] using hhead
  · exact hcondition f hf
  · exact hending f hf

/-! ## Conditions in a row -/

/-- The condition that a fragment is read as. -/
def Fragment.reading (b : BuiltIn) (f : Fragment) : Option Chain :=
  b.lexis.read (f.text (.ofBuiltIn b))

/-- Conditions with `AND` between them are read as their join. -/
theorem read_joinWith {f : Fragment} {rest : List Fragment} {e : Chain} {es : List Chain}
    (h : (f :: rest).map (reading b) = (e :: es).map some) :
    (joinWith " AND " (f :: rest)).reading b = some (.joinAll e es) := by
  induction rest generalizing f e es with
  | nil =>
      obtain ⟨hf, hrest⟩ := List.cons.inj h
      obtain rfl := List.map_eq_nil_iff.1 hrest.symm
      simpa [joinWith, Chain.joinAll] using hf
  | cons g rest ih =>
      cases es with
      | nil => simp at h
      | cons e' es =>
          obtain ⟨hf, hrest⟩ := List.cons.inj h
          have hjoin := Lexis.read_and b.isStandard hf (ih hrest)
          unfold reading
          rw [joinWith_cons_cons, text_append, text_cons, ← String.append_assoc]
          exact hjoin

/-- What is read of a condition has its brackets closed. -/
theorem exists_items_of_reading {f : Fragment} {e : Chain} (h : f.reading b = some e) :
    ∃ is, b.lexis.items (f.text (.ofBuiltIn b)) = some is := by
  obtain ⟨is, his, -, -⟩ := Lexis.read_eq_some.1 h
  exact ⟨is, his⟩

/-- Conditions of a list of rows stand in brackets. -/
theorem isPart_conjunction {parts : List Fragment} {es : List Chain}
    (h : parts.map (reading b) = es.map some) :
    ∀ f ∈ conjunction parts, b.lexis.IsPart (f.text (.ofBuiltIn b)) := by
  intro f hf
  cases parts with
  | nil => cases hf
  | cons g rest =>
      cases es with
      | nil => simp at h
      | cons e es =>
          have hwhere : "WHERE ( " = "WHERE" ++ " " ++ "( " := by decide
          obtain ⟨is, his⟩ := exists_items_of_reading (read_joinWith h)
          have hbody := (Lexis.isFactor_bracketed b.isStandard his).isPart
          have hword : b.lexis.IsPart "WHERE" := Lexis.isPart_of_check (by cases b <;> decide)
          cases hf
          have := hword.space b.isStandard hbody
          rw [text_append, text_cons, text_cons, text_nil, Piece.text, Piece.text, hwhere]
          simpa only [String.append_assoc, String.append_empty] using this

/-- The test that a row exists is a factor. -/
theorem isFactor_existence {outer : Fragment} {parts : List Fragment} {e : Chain}
    {identifier : List String} {number : Nat} {innerColumn : String} (negated : Bool)
    (h : (joinWith " AND " (((Qualifier.tableAlias number).column innerColumn ++
      .word " = " :: outer) :: parts)).reading b = some e) :
    b.lexis.IsFactor ((existence (if negated then "NOT EXISTS" else "EXISTS") identifier number
      innerColumn outer parts).text (.ofBuiltIn b)) := by
  have hwords : ∀ w ∈ ["NOT EXISTS", "EXISTS", "WHERE"], b.lexis.checkFactor w = true := by
    cases b <;> decide
  have hselect : " ( SELECT " = " " ++ ("( " ++ "SELECT ") := by decide
  have hwhere : " WHERE " = " " ++ ("WHERE" ++ " ") := by decide
  have hcolumn := Qualifier.isFactor_column (b := b) (q := .tableAlias number) rfl innerColumn
  obtain ⟨is, hbody⟩ := exists_items_of_reading h
  obtain ⟨before, hbefore, -⟩ := (isPart_head hcolumn.isPart identifier number).space b.isStandard
    (Lexis.isPart_of_check (hwords "WHERE" (by simp)))
  have hinside := Lexis.isFactor_bracketed b.isStandard
    (Lexis.items_space b.isStandard hbefore hbody)
  have hkeyword : b.lexis.IsFactor (if negated then "NOT EXISTS" else "EXISTS") := by
    cases negated
    · exact Lexis.isFactor_of_check (hwords "EXISTS" (by simp))
    · exact Lexis.isFactor_of_check (hwords "NOT EXISTS" (by simp))
  have hwhole := hkeyword.space b.isStandard hinside.isPart
  rw [existence]
  simp only [List.cons_append, text_append, text_cons, text_nil, Piece.text, hselect, hwhere]
  simpa only [text_append, text_cons, Piece.text, String.append_assoc,
    String.append_empty] using hwhole

/-- The test that a column is among those of a list of rows is a factor. -/
theorem isFactor_membership {column rows : Fragment}
    (hcolumn : b.lexis.IsFactor (column.text (.ofBuiltIn b)))
    (hrows : b.lexis.IsPart (rows.text (.ofBuiltIn b))) :
    b.lexis.IsFactor ((membership column rows).text (.ofBuiltIn b)) := by
  have hin : " IN ( " = " " ++ ("IN" ++ " ") ++ "( " := by decide
  obtain ⟨is, his, -⟩ := hrows
  have hword : b.lexis.IsPart "IN" := Lexis.isPart_of_check (by cases b <;> decide)
  have hlist := hword.space b.isStandard (Lexis.isFactor_bracketed b.isStandard his).isPart
  have hwhole := hcolumn.space b.isStandard hlist
  rw [membership]
  simp only [text_append, text_cons, text_nil, Piece.text, hin]
  simpa only [String.append_assoc, String.append_empty] using hwhole

end SqlCompose
