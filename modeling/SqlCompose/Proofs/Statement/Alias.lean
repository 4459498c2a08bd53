import SqlCompose.Proofs.Statement.Fragment
import SqlCompose.Proofs.Statement.Select

/-!
# Table aliases in statements

Aliases are numbered as they are taken, one for each list of rows.  In what
is written for a tree there is no alias beyond those that had been taken
before it and those that it takes itself (`Query.aliases_layoutParts_le`), one
for each sub-query, so the next number is that of an alias that is not in it.
Aliases with different numbers have different texts (`aliasText_inj`).
-/

namespace SqlCompose

/-- Aliases are told apart by their texts. -/
theorem aliasText_inj {m n : Nat} : aliasText m = aliasText n ↔ m = n := by
  constructor
  · intro h
    have hlist := congrArg String.toList h
    simp only [aliasText, String.toList_append, List.append_cancel_left_eq] at hlist
    have hdigits : Nat.toDigits 10 m = Nat.toDigits 10 n := by
      rw [← Nat.toList_repr, ← Nat.toList_repr]
      exact hlist
    rw [← Nat.ofDigitChars_ten_toDigits (n := m), hdigits, Nat.ofDigitChars_ten_toDigits]
  · rintro rfl
    rfl

/-- The number of the alias that a piece is. -/
def Piece.alias? : Piece → Option Nat
  | tableAlias n => some n
  | _ => none

theorem skipsText_alias : SkipsText Piece.alias? where
  word _ := rfl
  name _ := rfl

/-- The number of the alias that columns are written behind. -/
def Qualifier.alias? : Qualifier → Option Nat
  | .tableAlias n => some n
  | _ => Option.none

namespace Fragment

/-- The numbers of the aliases in a fragment, in their order. -/
def aliases (f : Fragment) : List Nat := f.filterMap Piece.alias?

theorem mem_aliases {f : Fragment} {n : Nat} : n ∈ f.aliases ↔ .tableAlias n ∈ f := by
  rw [aliases, List.mem_filterMap]
  constructor
  · rintro ⟨p, hp, hn⟩
    cases p <;> cases hn
    exact hp
  · exact fun h => ⟨_, h, rfl⟩

@[simp] theorem aliases_nil : aliases [] = [] := rfl

@[simp] theorem aliases_cons (p : Piece) (f : Fragment) :
    aliases (p :: f) = p.alias?.toList ++ aliases f := by
  cases p <;> rfl

@[simp] theorem aliases_append (f g : Fragment) : (f ++ g).aliases = f.aliases ++ g.aliases := by
  simp [aliases]

@[simp] theorem aliases_table (identifier : List String) : (table identifier).aliases = [] :=
  skipsText_alias.filterMap_table identifier

@[simp] theorem aliases_behindSpace (part : Option Fragment) :
    (behindSpace part).aliases = aliases (part.getD []) := by
  cases part <;> rfl

@[simp] theorem aliases_column (q : Qualifier) (name : String) :
    (q.column name).aliases = q.alias?.toList := by
  cases q with
  | none => rfl
  | tableAlias n => rfl
  | table identifier => exact skipsText_alias.filterMap_column_table identifier name
  | text t => rfl

@[simp] theorem aliases_weave (literals : List String) (numbers : List Nat) :
    (Template.weave literals (numbers.map .mark)).aliases = [] := by
  induction literals generalizing numbers with
  | nil =>
      rw [Template.weave_nil]
      rfl
  | cons t literals ih =>
      cases numbers with
      | nil =>
          rw [List.map_nil, Template.weave_cons_nil]
          exact ih []
      | cons n numbers =>
          rw [List.map_cons, Template.weave_cons_cons]
          exact ih numbers

end Fragment

/-- Before a column there is no alias beyond that of its table. -/
theorem aliases_column_le {q : Qualifier} {m : Nat} (hq : ∀ n ∈ q.alias?, n ≤ m)
    (name : String) : ∀ n ∈ (q.column name).aliases, n ≤ m := by
  intro n hn
  rw [Fragment.aliases_column, Option.mem_toList] at hn
  exact hq n hn

/-! ## Lists of rows -/

/-- The aliases at the end of a list of rows are those of its columns. -/
theorem aliases_tail_le {ρ : Type} {d : Dialect} {q : Qualifier} {m : Nat}
    (hq : ∀ n ∈ q.alias?, n ≤ m) (s : Selection ρ) :
    ∀ n ∈ Fragment.aliases ((s.tail d q).getD []), n ≤ m := by
  intro n hn
  rw [Fragment.aliases, skipsText_alias.filterMap_tail, List.mem_flatMap] at hn
  obtain ⟨o, -, hn⟩ := hn
  exact aliases_column_le hq o.column n hn

theorem aliases_conjunction_le {parts : List Fragment} {m : Nat}
    (h : ∀ f ∈ parts, ∀ n ∈ f.aliases, n ≤ m) :
    ∀ n ∈ Fragment.aliases ((conjunction parts).getD []), n ≤ m := by
  intro n hn
  rw [Fragment.aliases, skipsText_alias.filterMap_conjunction, List.mem_flatMap] at hn
  obtain ⟨f, hf, hn⟩ := hn
  exact h f hf n hn

/-- In a list of rows there is no alias beyond the greatest of its own and its parts. -/
theorem aliases_rowsFrom_le {columns : Fragment} {condition ending : Option Fragment}
    {number m : Nat} (hnumber : number ≤ m) (hcolumns : ∀ n ∈ columns.aliases, n ≤ m)
    (hcondition : ∀ n ∈ Fragment.aliases (condition.getD []), n ≤ m)
    (hending : ∀ n ∈ Fragment.aliases (ending.getD []), n ≤ m) (identifier : List String) :
    ∀ n ∈ (rowsFrom columns identifier number condition ending).aliases, n ≤ m := by
  intro n hn
  have hrows := skipsText_alias.filterMap_rowsFrom columns identifier number condition ending
  rw [Fragment.aliases, hrows] at hn
  simp only [List.mem_append, Option.mem_toList] at hn
  rcases hn with hn | hn | hn | hn
  · exact hcolumns n hn
  · cases hn
    exact hnumber
  · exact hcondition n hn
  · exact hending n hn

/-! ## Trees of conditions -/

section Trees

variable {d : Dialect} {q : Qualifier}

private def Clause.IsBounded (d : Dialect) (c : Clause Query) : Prop :=
  ∀ (q : Qualifier) (issued aliases : Nat), (∀ n ∈ q.alias?, n ≤ aliases) →
    ∀ n ∈ (c.layout d q issued aliases).aliases, n ≤ aliases + c.subqueries.length

private def Query.IsBounded (d : Dialect) (query : Query) : Prop :=
  ∀ (q : Qualifier) (issued aliases : Nat), (∀ n ∈ q.alias?, n ≤ aliases) →
    ∀ f ∈ query.layoutParts d q issued aliases, ∀ n ∈ f.aliases,
      n ≤ aliases + query.subqueries.length

private theorem aliases_layoutAll_of_forall {cs : List (Clause Query)}
    (h : ∀ c ∈ cs, c.IsBounded d) {aliases : Nat} (hq : ∀ n ∈ q.alias?, n ≤ aliases)
    (issued : Nat) :
    ∀ f ∈ Clause.layoutAll d q issued aliases cs, ∀ n ∈ f.aliases,
      n ≤ aliases + (Clause.subqueriesAll cs).length := by
  induction cs generalizing issued aliases with
  | nil => simp [Clause.layoutAll]
  | cons c rest ih =>
      have hc := h c List.mem_cons_self q issued aliases hq
      -- The rest is numbered from where the first clause has stopped.
      have hq' : ∀ n ∈ q.alias?, n ≤ aliases + c.subqueries.length :=
        fun n hn => Nat.le_add_right_of_le (hq n hn)
      have hrest := ih (fun c' hc' => h c' (List.mem_cons_of_mem _ hc')) hq'
        (issued + c.values.length)
      have hfirst : ∀ n ∈ (c.layout d q issued aliases).aliases,
          n ≤ aliases + (c.subqueries.length + (Clause.subqueriesAll rest).length) := by
        intro n hn
        have := hc n hn
        omega
      have hothers : ∀ f ∈ Clause.layoutAll d q (issued + c.values.length)
          (aliases + c.subqueries.length) rest, ∀ n ∈ f.aliases,
          n ≤ aliases + (c.subqueries.length + (Clause.subqueriesAll rest).length) := by
        intro f hf n hn
        have := hrest f hf n hn
        omega
      rw [Clause.layoutAll, Clause.subqueriesAll_cons, List.length_append]
      split
      · exact hothers
      · exact List.forall_mem_cons.2 ⟨hfirst, hothers⟩

private theorem isBounded_hereditary (d : Dialect) :
    Hereditary (Clause.IsBounded d) (Query.IsBounded d) where
  compare column op value negated table q issued aliases hq n hn := by
    have hcolumn : n ∈ q.alias? := by
      rw [Clause.layout] at hn
      split at hn <;> simpa [Piece.alias?] using hn
    exact Nat.le_add_right_of_le (hq n hcolumn)
  assign column value table q issued aliases hq n hn := by
    have hcolumn : n ∈ q.alias? := by
      simpa [Clause.layout, Piece.alias?] using hn
    exact Nat.le_add_right_of_le (hq n hcolumn)
  assignNull column table q issued aliases hq n hn := by
    have hcolumn : n ∈ q.alias? := by
      simpa [Clause.layout, Piece.alias?] using hn
    exact Nat.le_add_right_of_le (hq n hcolumn)
  manual column template table q issued aliases hq n hn := by
    have hcolumn : n ∈ q.alias? := by
      simpa [Clause.layout] using hn
    exact Nat.le_add_right_of_le (hq n hcolumn)
  related column inner innerColumn negated ih q issued aliases hq n hn := by
    have hcount : (Clause.related column inner innerColumn negated).subqueries.length =
        inner.subqueries.length + 1 := by
      simp [Clause.subqueries, Query.subqueries]
    have hinner := ih (.tableAlias (aliases + 1)) issued (aliases + 1)
      (fun n hn => by cases hn; exact Nat.le_refl _)
    rw [Clause.layout, Fragment.aliases, skipsText_alias.filterMap_existence] at hn
    simp only [List.mem_append, Option.mem_toList, List.mem_flatMap, Piece.alias?] at hn
    rw [hcount]
    rcases hn with hn | hn | hn | hn | ⟨f, hf, hn⟩
    · cases hn
      omega
    · cases hn
      omega
    · cases hn
      omega
    · have := aliases_column_le hq column n hn
      omega
    · have := hinner f hf n hn
      omega
  among query column ih q issued aliases hq n hn := by
    have hcount : (Clause.among query column).subqueries.length =
        query.subqueries.length + 1 := by
      simp [Clause.subqueries, Query.subqueries]
    have hself : ∀ n ∈ (Qualifier.tableAlias (aliases + 1)).alias?,
        n ≤ aliases + (query.subqueries.length + 1) := by
      intro n hn
      cases hn
      omega
    have hparts : ∀ f ∈ query.layoutParts d (.tableAlias (aliases + 1)) issued (aliases + 1),
        ∀ n ∈ f.aliases, n ≤ aliases + (query.subqueries.length + 1) := by
      intro f hf n hn
      have := ih (.tableAlias (aliases + 1)) issued (aliases + 1)
        (fun n hn => by cases hn; exact Nat.le_refl _) f hf n hn
      omega
    have hnumber : aliases + 1 ≤ aliases + (query.subqueries.length + 1) := by omega
    have hrows := aliases_rowsFrom_le hnumber
      (aliases_column_le hself query.selection.schema.firstKey) (aliases_conjunction_le hparts)
      (aliases_tail_le (d := d) hself query.selection) query.selection.schema.identifier
    rw [Clause.layout, Fragment.aliases, skipsText_alias.filterMap_membership,
      List.mem_append] at hn
    rw [hcount]
    rcases hn with hn | hn
    · have := aliases_column_le hq _ n hn
      omega
    · exact hrows n hn
  selection s hconditions hrelated q issued aliases hq f hf n hn := by
    rw [Query.layoutParts_mk, List.mem_append] at hf
    rw [Query.subqueries_mk, List.length_append]
    rcases hf with hf | hf
    · have := aliases_layoutAll_of_forall hconditions hq _ f hf n hn
      omega
    · have hq' : ∀ n ∈ q.alias?, n ≤ aliases + (Clause.subqueriesAll s.conditions).length :=
        fun n hn => Nat.le_add_right_of_le (hq n hn)
      have := aliases_layoutAll_of_forall hrelated hq' _ f hf n hn
      omega
  unwritable schema reason q issued aliases hq f hf := by
    rw [Query.layoutParts] at hf
    cases hf

/-- Conditions take one alias for each sub-query in them, and none beyond these is in them. -/
theorem Query.aliases_layoutParts_le (d : Dialect) {q : Qualifier} {aliases : Nat}
    (hq : ∀ n ∈ q.alias?, n ≤ aliases) (issued : Nat) (query : Query) :
    ∀ f ∈ query.layoutParts d q issued aliases, ∀ n ∈ f.aliases,
      n ≤ aliases + query.subqueries.length :=
  (isBounded_hereditary d).query query q issued aliases hq

end Trees

end SqlCompose
