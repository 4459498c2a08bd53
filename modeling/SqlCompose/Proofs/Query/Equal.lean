import Mathlib.Data.List.Forall2
import SqlCompose.Proofs.Query.Edit
import SqlCompose.Proofs.Query.Traversal
import SqlCompose.Proofs.Query.Tree

/-!
# Equal clauses

Two clauses are equal if they are of one kind and what they say themselves is
equal (`Clause.Matches`); the table that they were made for and the query that
they hold do not count.  Where the queries count as well they have to be over
one table, with conditions that are equal one by one and hold such queries in
their turn (`Query.Alike`).

## Main results

* `Value.Equals.isNull_eq` — only NULL is equal to NULL, and only what was left
  open to what was left open.
* `Clause.Equals.matches` — what equality comes to, one case for each kind.
* `Clause.Matches.follow` — equality does not depend on where references lead.
* `Clause.Matches.heldAlike` — equal clauses that refer to one query hold
  queries that are alike.
-/

namespace SqlCompose

/-! ## Values -/

namespace Value

/-- Whether two values are equal: one and the same, or known to stand for the same. -/
def Equals (v w : Value) : Prop := v = w ∨ v.same w = true

variable {v w : Value}

theorem Equals.refl (v : Value) : v.Equals v := .inl rfl

/-- Nothing else is known to be the same as NULL or as what was left open. -/
theorem isNull_eq_of_same (h : v.same w = true) : v.isNull = w.isNull := by
  rw [same, beq_iff_eq] at h
  cases v <;> cases w <;> first | rfl | simp [equal?, number?] at h

theorem Equals.isNull_eq (h : v.Equals w) : v.isNull = w.isNull := by
  rcases h with rfl | h
  · rfl
  · exact isNull_eq_of_same h

/-- A driver is handed equal values for equal ones. -/
theorem Equals.toBind (h : v.Equals w) : v.toBind.Equals w.toBind := by
  cases hv : v.isNull with
  | true =>
      have hw : w.isNull = true := h.isNull_eq.symm.trans hv
      rw [(toBind_eq_null_iff v).2 hv, (toBind_eq_null_iff w).2 hw]
      exact .refl _
  | false =>
      have hw : w.isNull = false := h.isNull_eq.symm.trans hv
      rw [toBind_eq_self hv, toBind_eq_self hw]
      exact h

/-- Rows of values that are equal are so value by value. -/
theorem forall₂_equals {vs ws : List Value} (h : equalAll? vs ws = some true) :
    List.Forall₂ Equals vs ws := by
  induction vs generalizing ws with
  | nil =>
      cases ws with
      | nil => exact .nil
      | cons w ws => simp [equalAll?] at h
  | cons v vs ih =>
      cases ws with
      | nil => simp [equalAll?] at h
      | cons w ws =>
          rw [equalAll?] at h
          split at h
          next hvw => exact .cons (.inr (by rw [same, hvw]; rfl)) (ih h)
          next hother => exact absurd h hother

end Value

/-! ## Clauses -/

namespace Clause

variable {ρ σ : Type}

/-- Whether two clauses are equal: one and the same, or known to be equal. -/
def Equals (a b : Clause ρ) : Prop := a = b ∨ a.same b = true

/-- What equality comes to.  The tables and the queries on both sides can be any. -/
inductive Matches : Clause ρ → Clause ρ → Prop where
  | compare (column : String) (op : Operator) {v w : Value} (negated : Bool)
      (table table' : Option String) (value : v.Equals w) :
    Matches (.compare column op v negated table) (.compare column op w negated table')
  | assign (column : String) {v w : Value} (table table' : Option String) (value : v.Equals w) :
    Matches (.assign column v table) (.assign column w table')
  | assignNull (column : String) (table table' : Option String) :
    Matches (.assignNull column table) (.assignNull column table')
  | manual (column : String) {t t' : Template} (table table' : Option String)
      (text : t.text = t'.text) (values : List.Forall₂ Value.Equals t.values t'.values) :
    Matches (.manual column t table) (.manual column t' table')
  | related (column : String) (inner inner' : ρ) (innerColumn : String) (negated : Bool) :
    Matches (.related column inner innerColumn negated) (.related column inner' innerColumn negated)
  | among (query query' : ρ) (column : Option String) :
    Matches (.among query column) (.among query' column)

variable {a b : Clause ρ}

theorem Matches.refl (a : Clause ρ) : a.Matches a := by
  cases a with
  | compare => exact .compare _ _ _ _ _ (.refl _)
  | assign => exact .assign _ _ _ (.refl _)
  | assignNull => exact .assignNull _ _ _
  | manual => exact .manual _ _ _ rfl (List.forall₂_same.2 fun v _ => .refl v)
  | related => exact .related _ _ _ _ _
  | among => exact .among _ _ _

/-- Clauses that are known to be equal are of one kind and say the same themselves. -/
theorem matches_of_same (h : a.same b = true) : a.Matches b := by
  rw [same, beq_iff_eq] at h
  cases a <;> cases b <;> first | cases h | rw [equal?] at h
  case compare.compare column op v negated table column' op' w negated' table' =>
      split at h
      next hown =>
          obtain ⟨rfl, rfl⟩ := hown
          obtain ⟨equal, hvalue, hboth⟩ := Option.map_eq_some_iff.1 h
          rw [Bool.and_eq_true, beq_iff_eq] at hboth
          obtain ⟨rfl, rfl⟩ := hboth
          exact .compare _ _ _ _ _ (.inr (by rw [Value.same, hvalue]; rfl))
      next => cases h
  case assign.assign column v table column' w table' =>
      split at h
      next hcolumn =>
          subst hcolumn
          exact .assign _ _ _ (.inr (by rw [Value.same, h]; rfl))
      next => cases h
  case assignNull.assignNull column table column' table' =>
      rw [Option.some_inj, beq_iff_eq] at h
      subst h
      exact .assignNull _ _ _
  case manual.manual column t table column' t' table' =>
      split at h
      next hown =>
          obtain ⟨rfl, htext⟩ := hown
          exact .manual _ _ _ htext (Value.forall₂_equals h)
      next => cases h
  case related.related column inner innerColumn negated column' inner' innerColumn' negated' =>
      rw [Option.some_inj, Bool.and_eq_true, Bool.and_eq_true, beq_iff_eq, beq_iff_eq,
        beq_iff_eq] at h
      obtain ⟨⟨rfl, rfl⟩, rfl⟩ := h
      exact .related _ _ _ _ _
  case among.among query column query' column' =>
      rw [Option.some_inj, beq_iff_eq] at h
      subst h
      exact .among _ _ _

theorem Equals.matches (h : a.Equals b) : a.Matches b := by
  rcases h with rfl | h
  · exact .refl a
  · exact matches_of_same h

/-- Clauses that are equal are so wherever their references lead. -/
theorem Matches.follow (h : a.Matches b) {f g : ρ → Except Error σ} {a' b' : Clause σ}
    (ha : a.follow f = .ok a') (hb : b.follow g = .ok b') : a'.Matches b' := by
  cases h with
  | compare column op negated table table' value =>
      cases ha
      cases hb
      exact .compare _ _ _ _ _ value
  | assign column table table' value =>
      cases ha
      cases hb
      exact .assign _ _ _ value
  | assignNull column table table' =>
      cases ha
      cases hb
      exact .assignNull _ _ _
  | manual column table table' text values =>
      cases ha
      cases hb
      exact .manual _ _ _ text values
  | related column inner inner' innerColumn negated =>
      obtain ⟨q, -, hq⟩ := exists_of_bind ha
      obtain ⟨q', -, hq'⟩ := exists_of_bind hb
      cases hq
      cases hq'
      exact .related _ _ _ _ _
  | among query query' column =>
      obtain ⟨q, -, hq⟩ := exists_of_bind ha
      obtain ⟨q', -, hq'⟩ := exists_of_bind hb
      cases hq
      cases hq'
      exact .among _ _ _

end Clause

/-! ## The queries in clauses -/

/--
Whether two queries list as many of their rows, in the same order, by the same
column of their keys.
-/
structure Selection.SameList (s s' : Selection Query) : Prop where
  key : s.schema.uniqueColumn = s'.schema.uniqueColumn
  order : s.order = s'.order
  limit : s.limit = s'.limit
  offset : s.offset = s'.offset

mutual
/--
Whether the queries that two clauses hold are alike.  Where their rows are
listed they have to be listed alike besides.
-/
def Clause.HeldAlike : Clause Query → Clause Query → Prop
  | .related _ inner _ _, .related _ inner' _ _ => Query.Alike inner inner'
  | .among query _, .among query' _ =>
    query.selection.SameList query'.selection ∧ Query.Alike query query'
  | _, _ => True

/-- Whether clauses are equal one by one, and the queries that they hold alike. -/
def Clause.AllAlike : List (Clause Query) → List (Clause Query) → Prop
  | [], [] => True
  | c :: rest, c' :: rest' =>
    c.Equals c' ∧ Clause.HeldAlike c c' ∧ Clause.AllAlike rest rest'
  | _, _ => False

/-- Whether two queries are over one table with conditions that are equal all the way down. -/
def Query.Alike : Query → Query → Prop
  | .mk ⟨schema, conditions, related, _, _, _⟩, .mk ⟨schema', conditions', related', _, _, _⟩ =>
    schema.identifier = schema'.identifier ∧ Clause.AllAlike conditions conditions' ∧
      Clause.AllAlike related related'
  | .unwritable schema reason, .unwritable schema' reason' =>
    schema.identifier = schema'.identifier ∧ reason = reason'
  | _, _ => False
end

theorem Selection.SameList.refl (s : Selection Query) : s.SameList s := ⟨rfl, rfl, rfl, rfl⟩

theorem Query.alike_mk_iff (s s' : Selection Query) :
    (Query.mk s).Alike (.mk s') ↔ s.schema.identifier = s'.schema.identifier ∧
      Clause.AllAlike s.conditions s'.conditions ∧ Clause.AllAlike s.related s'.related := by
  rw [Query.Alike.eq_def]

/-- Queries that are alike are over one table. -/
theorem Query.identifier_eq_of_alike {query query' : Query} (h : query.Alike query') :
    query.selection.schema.identifier = query'.selection.schema.identifier := by
  cases query <;> cases query' <;> rw [Query.Alike.eq_def] at h
  case mk.mk => exact h.1
  case unwritable.unwritable => exact h.1
  all_goals exact h.elim

theorem Clause.allAlike_refl {cs : List (Clause Query)} (h : ∀ c ∈ cs, c.HeldAlike c) :
    AllAlike cs cs := by
  induction cs with
  | nil => rw [AllAlike.eq_def]; trivial
  | cons c rest ih =>
      rw [AllAlike]
      exact ⟨.inl rfl, h c List.mem_cons_self, ih fun c' hc' => h c' (List.mem_cons_of_mem _ hc')⟩

private theorem alike_hereditary : Hereditary (fun c => c.HeldAlike c) (fun q => q.Alike q) where
  compare column op value negated table := by
    rw [Clause.HeldAlike.eq_def]
    trivial
  assign column value table := by
    rw [Clause.HeldAlike.eq_def]
    trivial
  assignNull column table := by
    rw [Clause.HeldAlike.eq_def]
    trivial
  manual column template table := by
    rw [Clause.HeldAlike.eq_def]
    trivial
  related column inner innerColumn negated ih := by
    rw [Clause.HeldAlike]
    exact ih
  among query column ih := by
    rw [Clause.HeldAlike]
    exact ⟨.refl _, ih⟩
  selection s hconditions hrelated := by
    rw [Query.alike_mk_iff]
    exact ⟨rfl, Clause.allAlike_refl hconditions, Clause.allAlike_refl hrelated⟩
  unwritable schema reason := by
    rw [Query.Alike]
    exact ⟨rfl, rfl⟩

/-- The query in a clause is alike to itself. -/
theorem Clause.heldAlike_refl (c : Clause Query) : c.HeldAlike c := alike_hereditary.clause c

/-- Equal clauses that refer to one query hold queries that are alike. -/
theorem Clause.Matches.heldAlike {ρ : Type} {a b : Clause ρ} (h : a.Matches b)
    (hreferences : a.references = b.references) {f : ρ → Except Error Query} {a' b' : Clause Query}
    (ha : a.follow f = .ok a') (hb : b.follow f = .ok b') : a'.HeldAlike b' := by
  cases h with
  | related column inner inner' innerColumn negated =>
      have hinner : inner = inner' := List.head_eq_of_cons_eq hreferences
      subst hinner
      cases ha.symm.trans hb
      exact heldAlike_refl a'
  | among query query' column =>
      have hquery : query = query' := List.head_eq_of_cons_eq hreferences
      subst hquery
      cases ha.symm.trans hb
      exact heldAlike_refl a'
  | _ =>
      cases ha
      cases hb
      rw [HeldAlike.eq_def]
      trivial

end SqlCompose
