import SqlCompose.Proofs.Query.Equal
import SqlCompose.Proofs.Statement.Writing
import SqlCompose.Statement.Condition

/-!
# Equal clauses in a statement

Two steps of writing agree if from drafts that have come equally far they
answer alike, or fail alike, and leave drafts that have come equally far again
by binding values that are equal one by one (`Writing.Agrees`).  Steps that
agree can be put together, so that a clause is followed part by part: its own
columns, operators, values and texts are equal where the clause is, and what
is inside the query that it holds was followed before.

Equality says nothing about the query that a clause holds, and two clauses that
are equal can ask for rows of different tables (`Store.write_ne_of_same`).

## Main results

* `Writing.Agrees.andThen` — steps that agree put together agree.
* `Clause.Matches.agrees` — equal clauses with queries that are alike are
  written by steps that agree.
* `Store.write_of_equals`, `Store.write_of_references` — such clauses as they
  stand in a store, and equal ones that refer to one query.
-/

namespace SqlCompose

/-! ## Steps that agree -/

/--
Whether two drafts that were gone on with have come equally far, by values
that are equal one by one.
-/
structure Draft.GrowAlike (start next start' next' : Draft) : Prop where
  issued : next.issued = next'.issued
  aliases : next.aliases = next'.aliases
  args : ∃ vs vs' : List Value, next.args = start.args ++ vs.toArray ∧
    next'.args = start'.args ++ vs'.toArray ∧ List.Forall₂ Value.Equals vs vs'

namespace Draft.GrowAlike

variable {draft draft' next next' last last' : Draft}

/-- Drafts that have come equally far have done so with nothing bound. -/
theorem refl (hissued : draft.issued = draft'.issued) (haliases : draft.aliases = draft'.aliases) :
    GrowAlike draft draft draft' draft' where
  issued := hissued
  aliases := haliases
  args := ⟨[], [], by simp, by simp, .nil⟩

theorem trans (h : GrowAlike draft next draft' next') (h' : GrowAlike next last next' last') :
    GrowAlike draft last draft' last' where
  issued := h'.issued
  aliases := h'.aliases
  args := by
    obtain ⟨vs, vs', hargs, hargs', hvalues⟩ := h.args
    obtain ⟨ws, ws', hmore, hmore', hvalues'⟩ := h'.args
    refine ⟨vs ++ ws, vs' ++ ws', ?_, ?_, List.rel_append hvalues hvalues'⟩
    · simp [hmore, hargs]
    · simp [hmore', hargs']

end Draft.GrowAlike

namespace Writing

variable {α β : Type}

/--
Whether two steps answer alike from drafts that have come equally far, and
bind values that are equal.
-/
def Agrees (w w' : Writing α) : Prop :=
  ∀ draft draft' : Draft, draft.issued = draft'.issued → draft.aliases = draft'.aliases →
    (w.outcome draft).1 = (w'.outcome draft').1 ∧
      Draft.GrowAlike draft (w.outcome draft).2 draft' (w'.outcome draft').2

theorem agrees_pure (a : α) : Agrees (pure a) (pure a) :=
  fun _ _ hissued haliases => ⟨rfl, .refl hissued haliases⟩

theorem agrees_throw (e : Error) : Agrees (throw e : Writing α) (throw e) :=
  fun _ _ hissued haliases => ⟨rfl, .refl hissued haliases⟩

theorem agrees_ofExcept (e : Except Error α) : Agrees (ofExcept e) (ofExcept e) := by
  cases e with
  | ok a => exact agrees_pure a
  | error e => exact agrees_throw e

theorem agrees_nextAlias : Agrees nextAlias nextAlias := by
  intro draft draft' hissued haliases
  rw [outcome_nextAlias, outcome_nextAlias, haliases]
  exact ⟨rfl, hissued, rfl, [], [], by simp, by simp, .nil⟩

theorem agrees_bind {v w : Value} (h : v.Equals w) : Agrees (bind v) (bind w) := by
  intro draft draft' hissued haliases
  rw [outcome_bind, outcome_bind, hissued]
  exact ⟨rfl, rfl, haliases, [v.toBind], [w.toBind], by simp, by simp, .cons h.toBind .nil⟩

theorem agrees_bindAll {vs ws : List Value} (h : List.Forall₂ Value.Equals vs ws) :
    Agrees (bindAll vs) (bindAll ws) := by
  intro draft draft' hissued haliases
  have hbound : List.Forall₂ Value.Equals (vs.map Value.toBind) (ws.map Value.toBind) :=
    List.rel_map (fun _ _ hvw => hvw.toBind) h
  rw [outcome_bindAll, outcome_bindAll, hissued, h.length_eq]
  exact ⟨rfl, rfl, haliases, _, _, rfl, rfl, hbound⟩

/-- What agrees put together agrees; after a failure nothing more is written on either side. -/
theorem Agrees.andThen {w w' : Writing α} {k k' : α → Writing β} (hw : Agrees w w')
    (hk : ∀ a, Agrees (k a) (k' a)) : Agrees (w >>= k) (w' >>= k') := by
  intro draft draft' hissued haliases
  obtain ⟨hanswer, hgrow⟩ := hw draft draft' hissued haliases
  rw [outcome_andThen, outcome_andThen]
  rcases hout : w.outcome draft with ⟨_ | a, next⟩ <;>
    rcases hout' : w'.outcome draft' with ⟨_ | a', next'⟩ <;>
      rw [hout, hout'] at hanswer hgrow <;> cases hanswer
  · exact ⟨rfl, hgrow⟩
  · obtain ⟨hlast, hmore⟩ := hk a next next' hgrow.issued hgrow.aliases
    exact ⟨hlast, hgrow.trans hmore⟩

end Writing

/-! ## Clauses that agree -/

namespace Clause

/-- Clauses that are equal one by one are written by steps that agree. -/
theorem agrees_writeAll {cs cs' : List (Clause Query)}
    (h : ∀ c ∈ cs, ∀ c', c.Matches c' → c.HeldAlike c' → ∀ d q,
      Writing.Agrees (c.write d q) (c'.write d q))
    (halike : AllAlike cs cs') (d : Dialect) (q : Qualifier) :
    Writing.Agrees (writeAll d q cs) (writeAll d q cs') := by
  induction cs generalizing cs' with
  | nil =>
      cases cs' with
      | nil => exact Writing.agrees_pure []
      | cons c' rest' => simp [AllAlike] at halike
  | cons c rest ih =>
      cases cs' with
      | nil => simp [AllAlike] at halike
      | cons c' rest' =>
          rw [AllAlike] at halike
          obtain ⟨hequal, hheld, hrest⟩ := halike
          rw [writeAll, writeAll]
          refine (h c List.mem_cons_self c' hequal.matches hheld d q).andThen fun f => ?_
          refine (ih (fun c₁ hc₁ => h c₁ (List.mem_cons_of_mem _ hc₁)) hrest).andThen fun fs => ?_
          exact Writing.agrees_pure _

end Clause

/--
Equal clauses agree where the queries that they hold are alike, and so do
queries that are alike.
-/
private theorem agrees_hereditary :
    Hereditary
      (fun a => ∀ b, a.Matches b → a.HeldAlike b → ∀ d q,
        Writing.Agrees (a.write d q) (b.write d q))
      (fun query => ∀ query', query.Alike query' → ∀ d q,
        Writing.Agrees (query.writeParts d q) (query'.writeParts d q)) where
  compare column op value negated table b hmatches _ d q := by
    cases hmatches with
    | compare _ _ _ _ table' hvalue =>
        rw [Clause.write, Clause.write, hvalue.isNull_eq]
        split
        · exact Writing.agrees_pure _
        · exact (Writing.agrees_bind hvalue).andThen fun mark => Writing.agrees_pure _
  assign column value table b hmatches _ d q := by
    cases hmatches with
    | assign _ _ table' hvalue =>
        rw [Clause.write, Clause.write]
        exact (Writing.agrees_bind hvalue).andThen fun mark => Writing.agrees_pure _
  assignNull column table b hmatches _ d q := by
    cases hmatches with
    | assignNull _ _ table' =>
        rw [Clause.write, Clause.write]
        exact Writing.agrees_pure _
  manual column template table b hmatches _ d q := by
    cases hmatches with
    | manual _ _ table' htext hvalues =>
        rw [Clause.write, Clause.write, Template.literals, Template.literals, htext]
        exact (Writing.agrees_bindAll hvalues).andThen fun marks => Writing.agrees_pure _
  related column inner innerColumn negated ih b hmatches hheld d q := by
    cases hmatches with
    | related _ _ inner' _ _ =>
        rw [Clause.HeldAlike] at hheld
        rw [Clause.write, Clause.write, Query.identifier_eq_of_alike hheld]
        refine Writing.agrees_nextAlias.andThen fun number => ?_
        refine (ih inner' hheld d _).andThen fun parts => ?_
        exact Writing.agrees_pure _
  among query column ih b hmatches hheld d q := by
    cases hmatches with
    | among _ query' _ =>
        rw [Clause.HeldAlike] at hheld
        obtain ⟨hlist, halike⟩ := hheld
        rw [Clause.write, Clause.write, Query.identifier_eq_of_alike halike, hlist.key]
        simp only [Selection.tail, hlist.order, hlist.limit, hlist.offset]
        refine (Writing.agrees_ofExcept _).andThen fun key => ?_
        -- A dialect without limits in sub-queries writes no list at all.
        split
        · exact Writing.agrees_throw _
        · refine Writing.agrees_nextAlias.andThen fun number => ?_
          refine (ih query' halike d _).andThen fun parts => ?_
          exact Writing.agrees_pure _
  selection s hconditions hrelated query' halike d q := by
    cases query' with
    | mk s' =>
        rw [Query.alike_mk_iff] at halike
        obtain ⟨-, hown, hothers⟩ := halike
        rw [Query.writeParts.eq_def, Query.writeParts.eq_def]
        refine (Clause.agrees_writeAll hconditions hown d q).andThen fun own => ?_
        refine (Clause.agrees_writeAll hrelated hothers d q).andThen fun others => ?_
        exact Writing.agrees_pure _
    | unwritable schema' reason' =>
        rw [Query.Alike.eq_def] at halike
        exact halike.elim
  unwritable schema reason query' halike d q := by
    cases query' with
    | mk s' =>
        rw [Query.Alike.eq_def] at halike
        exact halike.elim
    | unwritable schema' reason' =>
        rw [Query.Alike] at halike
        obtain ⟨-, rfl⟩ := halike
        exact Writing.agrees_throw reason

/-- Equal clauses with queries that are alike are written by steps that agree. -/
theorem Clause.Matches.agrees {a b : Clause Query} (h : a.Matches b) (hheld : a.HeldAlike b)
    (d : Dialect) (q : Qualifier) : Writing.Agrees (a.write d q) (b.write d q) :=
  agrees_hereditary.clause a b h hheld d q

/-! ## Clauses in a store -/

namespace Store

/--
Two clauses that are equal, written as they stand in a store behind the same
qualifier: if the queries that they hold are alike, both fail with the same
error or both give the same fragment, and the values that they bind are equal
one by one.  This is so in every dialect and from all drafts that have given
out as many placeholders and taken as many aliases.
-/
theorem write_of_equals {st : Store} {a b : Clause QueryRef} {a' b' : Clause Query}
    (hequal : a.Equals b) (ha : st.settleClause a = .ok a') (hb : st.settleClause b = .ok b')
    (hheld : a'.HeldAlike b') (d : Dialect) (q : Qualifier) {draft draft' : Draft}
    (hissued : draft.issued = draft'.issued) (haliases : draft.aliases = draft'.aliases) :
    ((a'.write d q).outcome draft).1 = ((b'.write d q).outcome draft').1 ∧
      Draft.GrowAlike draft ((a'.write d q).outcome draft).2
        draft' ((b'.write d q).outcome draft').2 := by
  have hmatches : a'.Matches b' := hequal.matches.follow ha hb
  exact hmatches.agrees hheld d q draft draft' hissued haliases

/-- Equal clauses that refer to one query are written alike without more ado. -/
theorem write_of_references {st : Store} {a b : Clause QueryRef} {a' b' : Clause Query}
    (hequal : a.Equals b) (hreferences : a.references = b.references)
    (ha : st.settleClause a = .ok a') (hb : st.settleClause b = .ok b') (d : Dialect)
    (q : Qualifier) {draft draft' : Draft} (hissued : draft.issued = draft'.issued)
    (haliases : draft.aliases = draft'.aliases) :
    ((a'.write d q).outcome draft).1 = ((b'.write d q).outcome draft').1 ∧
      Draft.GrowAlike draft ((a'.write d q).outcome draft).2
        draft' ((b'.write d q).outcome draft').2 := by
  have hheld : a'.HeldAlike b' := hequal.matches.heldAlike hreferences ha hb
  exact (hequal.matches.follow ha hb).agrees hheld d q draft draft' hissued haliases

/-- A table of payments or the like, each for one order. -/
def ledger (name : String) : Schema where
  identifier := [name]
  columns := [{ name := "order_id", type := "int" }, { name := "settled", type := "bool" }]
  primaryKeys := []

section

variable {ρ : Type}

/-- The payments that are settled, or as many of them as there are within a limit. -/
def settledPayments (settled : Value) (limit : Option Nat) : Selection ρ where
  schema := ledger "payments"
  conditions := [.compare "settled" .eq settled false none]
  limit := limit

/-- The condition that an order is among those that a query has a row for. -/
def entered (inner : ρ) : Clause ρ := .related "id" inner "order_id" false

end

/-- The payments that are settled, the first one of them, and all refunds. -/
def ledgers : Store where
  queries := #[settledPayments (.bool true) none, settledPayments (.int 1) (some 1),
    .ofSchema (ledger "refunds")]

/-- A truth value is equal to a number, and no window is asked for. -/
theorem write_entered :
    ∃ a b, (entered (⟨0, false⟩ : QueryRef)).Equals (entered ⟨1, false⟩) ∧
      ledgers.settleClause (entered ⟨0, false⟩) = .ok a ∧
      ledgers.settleClause (entered ⟨1, false⟩) = .ok b ∧ a.HeldAlike b ∧
      ((a.write .postgres .none).outcome {}).1 = ((b.write .postgres .none).outcome {}).1 ∧
      Draft.GrowAlike {} ((a.write .postgres .none).outcome {}).2
        {} ((b.write .postgres .none).outcome {}).2 := by
  have hequal : (entered (⟨0, false⟩ : QueryRef)).Equals (entered ⟨1, false⟩) := .inr rfl
  have ha : ledgers.settleClause (entered ⟨0, false⟩) =
      .ok (entered (.mk (settledPayments (.bool true) none))) := rfl
  have hb : ledgers.settleClause (entered ⟨1, false⟩) =
      .ok (entered (.mk (settledPayments (.int 1) (some 1)))) := rfl
  have hvalue : (Clause.compare "settled" .eq (.bool true) false none : Clause Query).Equals
      (.compare "settled" .eq (.int 1) false none) := .inr (by decide +kernel)
  have hheld : (entered (.mk (settledPayments (.bool true) none)) : Clause Query).HeldAlike
      (entered (.mk (settledPayments (.int 1) (some 1)))) := by
    simp [entered, settledPayments, Clause.HeldAlike, Query.Alike, Clause.AllAlike, hvalue]
  exact ⟨_, _, hequal, ha, hb, hheld,
    write_of_equals hequal ha hb hheld .postgres .none rfl rfl⟩

/-- Two clauses that are equal ask for rows of different tables. -/
theorem write_ne_of_same :
    (entered (⟨0, false⟩ : QueryRef)).same (entered ⟨2, false⟩) = true ∧
      ∃ a b f g, ledgers.settleClause (entered ⟨0, false⟩) = .ok a ∧
        ledgers.settleClause (entered ⟨2, false⟩) = .ok b ∧
        ((a.write .postgres .none).outcome {}).1 = .ok f ∧
        ((b.write .postgres .none).outcome {}).1 = .ok g ∧
        f.text .postgres ≠ g.text .postgres := by
  refine ⟨rfl, _, _, _, _, rfl, rfl, rfl, rfl, ?_⟩
  decide +kernel

end Store

end SqlCompose
