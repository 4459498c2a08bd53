import Mathlib.Data.List.Forall2
import SqlCompose.Proofs.Query.Frame
import SqlCompose.Proofs.Query.Reach
import SqlCompose.Statement.Select
import SqlCompose.Statement.Update

/-!
# What an edit leaves unwritten

Two queries are written alike inside a condition on their rows if they have
the same table and the same conditions are written for them
(`Query.SameParts`).  Where their rows are listed they need the same order and
the same window besides (`Query.SameRows`).

What a builder is settled to is written as before if what changed in the store
is not reached from it, or is reached by conditions on rows of another table
alone and has kept its filter (`Store.Undisturbed`).  The induction is on how
deep references are followed, so that it does not matter whether they lead
back to where they come from.

## Main results

* `Selection.fetch_congr`, `Selection.count_congr`, `Update.write_congr` — what
  is written for queries with the same rows is the same.
* `Store.Undisturbed.exists_settle`, `Store.Undisturbed.exists_settleUpdate` —
  what is not disturbed is settled to the same rows.
* `Edit.Spares.undisturbed` — which edits disturb a builder, and which do not.
-/

namespace SqlCompose

/-! ## Written alike -/

/-- Whether two clauses are written alike, in every dialect and behind every qualifier. -/
def Clause.WritesAs (c c' : Clause Query) : Prop := ∀ d q, c.write d q = c'.write d q

/-- Whether the same conditions on the same table are written for two queries. -/
structure Query.SameParts (q q' : Query) : Prop where
  schema : q.selection.schema = q'.selection.schema
  parts : ∀ d n, q.writeParts d n = q'.writeParts d n

/-- Whether the rows of two queries are listed alike. -/
structure Query.SameRows (q q' : Query) : Prop extends q.SameParts q' where
  order : q.selection.order = q'.selection.order
  limit : q.selection.limit = q'.selection.limit
  offset : q.selection.offset = q'.selection.offset

namespace Clause

theorem WritesAs.refl (c : Clause Query) : c.WritesAs c := fun _ _ => rfl

/-- What is asked of the rows of another table does not depend on their order or window. -/
theorem writesAs_related {q q' : Query} (h : q.SameParts q') (column innerColumn : String)
    (negated : Bool) :
    (related column q innerColumn negated).WritesAs (related column q' innerColumn negated) := by
  intro d n
  simp only [write, h.schema, h.parts]

theorem writesAs_among {q q' : Query} (h : q.SameRows q') (column : Option String) :
    (among q column).WritesAs (among q' column) := by
  intro d n
  simp only [write, Selection.tail, h.schema, h.parts, h.order, h.limit, h.offset]

theorem writeAll_congr {cs cs' : List (Clause Query)} (h : List.Forall₂ WritesAs cs cs')
    (d : Dialect) (q : Qualifier) : writeAll d q cs = writeAll d q cs' := by
  induction h with
  | nil => rfl
  | cons hc _ ih => rw [writeAll, writeAll, hc d q, ih]

end Clause

/-- Queries over one table are written alike if their conditions are, one by one. -/
theorem Query.sameParts_mk {s s' : Selection Query} (hschema : s.schema = s'.schema)
    (hconditions : List.Forall₂ Clause.WritesAs s.conditions s'.conditions)
    (hrelated : List.Forall₂ Clause.WritesAs s.related s'.related) :
    (Query.mk s).SameParts (.mk s') where
  schema := hschema
  parts d n := by
    rw [Query.writeParts, Query.writeParts, Clause.writeAll_congr hconditions,
      Clause.writeAll_congr hrelated]

theorem Query.sameRows_unwritable {schema schema' : Schema} (h : schema = schema')
    (reason : Error) : (unwritable schema reason).SameRows (unwritable schema' reason) := by
  subst h
  exact ⟨⟨rfl, fun _ _ => rfl⟩, rfl, rfl, rfl⟩

/-! ## Statements -/

namespace Selection

variable {s s' : Selection Query}

theorem rows_congr (h : (Query.mk s).SameRows (.mk s')) (d : Dialect)
    (columns : Qualifier → Except Error Fragment) (order : List OrderItem) :
    s.rows d columns order = s'.rows d columns order := by
  obtain ⟨⟨hschema, hparts⟩, -, hlimit, hoffset⟩ := h
  simp only [Query.selection_mk] at hschema hlimit hoffset
  simp only [rows, filter, tail, hschema, hparts, hlimit, hoffset]

theorem isPaged_congr (h : (Query.mk s).SameRows (.mk s')) : s.isPaged = s'.isPaged := by
  have hlimit : s.limit = s'.limit := h.limit
  have hoffset : s.offset = s'.offset := h.offset
  rw [isPaged, isPaged, hlimit, hoffset]

theorem fetch_congr (h : (Query.mk s).SameRows (.mk s')) : s.fetch = s'.fetch := by
  have hschema : s.schema = s'.schema := h.schema
  have horder : s.order = s'.order := h.order
  funext d
  rw [fetch, fetch, rows_congr h, hschema, horder]

theorem count_congr (h : (Query.mk s).SameRows (.mk s')) : s.count = s'.count := by
  have hschema : s.schema = s'.schema := h.schema
  have horder : s.order = s'.order := h.order
  funext d
  simp only [count, rows_congr h, isPaged_congr h, hschema, horder]

end Selection

theorem Update.write_congr {s s' : Selection Query} (h : (Query.mk s).SameRows (.mk s'))
    (assignments : List (Clause Query)) :
    (⟨s, assignments⟩ : Update).write = (⟨s', assignments⟩ : Update).write := by
  have hschema : s.schema = s'.schema := h.schema
  funext d
  simp only [Update.write, Selection.filter, hschema, Selection.isPaged_congr h, h.parts,
    Clause.writesAs_among h none d]

/-! ## Following references -/

/-- Queries with the same filter are followed to queries with the same parts. -/
theorem Selection.sameParts_of_follow {f g : QueryRef → Except Error Query}
    {s s' : Selection QueryRef} (hfilter : s.SameFilter s')
    (hclauses : ∀ c ∈ s.clauses, ∃ c₁ c₂, c.follow f = .ok c₁ ∧ c.follow g = .ok c₂ ∧
      c₁.WritesAs c₂) :
    ∃ t t', s.follow f = .ok t ∧ s'.follow g = .ok t' ∧ (Query.mk t).SameParts (.mk t') ∧
      (s' = s → (Query.mk t).SameRows (.mk t')) := by
  obtain ⟨conditions, conditions', hconditions, hconditions', hwritten⟩ :=
    forall₂_of_mapM fun c hc => hclauses c (List.mem_append_left _ hc)
  obtain ⟨related, related', hrelated, hrelated', hwritten'⟩ :=
    forall₂_of_mapM fun c hc => hclauses c (List.mem_append_right _ hc)
  have hparts : (Query.mk ⟨s.schema, conditions, related, s.order, s.limit, s.offset⟩).SameParts
      (.mk ⟨s'.schema, conditions', related', s'.order, s'.limit, s'.offset⟩) :=
    Query.sameParts_mk hfilter.schema.symm hwritten hwritten'
  refine ⟨_, _, ?_, ?_, hparts, ?_⟩
  · rw [follow, hconditions, hrelated]
    rfl
  · rw [follow, hfilter.conditions, hfilter.related, hconditions', hrelated']
    rfl
  · rintro rfl
    exact ⟨hparts, rfl, rfl, rfl⟩

/-! ## What is not disturbed -/

namespace Store

/--
Whether a change in a store is of no matter to a builder: what changed is not
reached from it, or only by conditions on rows of another table, and has kept
its filter.
-/
structure Undisturbed (changed : Option Builder) (x : Builder) (st st' : Store) : Prop
    extends AgreesBut changed st st' where
  closed : st.IsClosed
  apart : changed ≠ some x
  links : ∀ link a b, changed = some b → st.Reaches x a → st.Refers link a b → link = .inner
  filter : ∀ r s, changed = some (.query r) → st.Reaches x (.query r) → st.query r = .ok s →
    ∃ s', st'.query r = .ok s' ∧ s.SameFilter s'

namespace Undisturbed

variable {changed : Option Builder} {x : Builder} {st st' : Store}

/-- A query that is reached has its filter, and is as it was unless it is what changed. -/
theorem exists_query (h : Undisturbed changed x st st') {r : QueryRef} (hin : r.IsIn st)
    (hr : st.Reaches x (.query r)) :
    ∃ s s', st.query r = .ok s ∧ st'.query r = .ok s' ∧ s.SameFilter s' ∧
      (changed ≠ some (.query r) → s' = s) := by
  obtain ⟨s, hs, -⟩ := hin.exists_query
  by_cases hchanged : changed = some (.query r)
  · obtain ⟨s', hs', hfilter⟩ := h.filter r s hchanged hr hs
    exact ⟨s, s', hs, hs', hfilter, fun hother => absurd hchanged hother⟩
  · exact ⟨s, s, hs, (h.queries r hin hchanged).trans hs, .refl s, fun _ => rfl⟩

/-- A clause of a query that is reached is written alike if what it refers to is. -/
theorem exists_follow (h : Undisturbed changed x st st') {r : QueryRef}
    (hr : st.Reaches x (.query r)) {s : Selection QueryRef} (hs : st.query r = .ok s)
    {f g : QueryRef → Except Error Query}
    (hf : ∀ link r', st.Refers link (.query r) (.query r') →
      ∃ q q', f r' = .ok q ∧ g r' = .ok q' ∧ q.SameParts q' ∧
        (changed ≠ some (.query r') → q.SameRows q'))
    {c : Clause QueryRef} (hc : c ∈ s.clauses) :
    ∃ c₁ c₂, c.follow f = .ok c₁ ∧ c.follow g = .ok c₂ ∧ c₁.WritesAs c₂ := by
  cases c with
  | related column inner innerColumn negated =>
      obtain ⟨q, q', hq, hq', hparts, -⟩ := hf _ _ (.inner hs hc)
      exact ⟨_, _, by rw [Clause.follow, hq]; rfl, by rw [Clause.follow, hq']; rfl,
        Clause.writesAs_related hparts column innerColumn negated⟩
  | among query column =>
      have hlink : st.Refers .listed (.query r) (.query query) := .listed hs hc
      obtain ⟨q, q', hq, hq', -, hrows⟩ := hf _ _ hlink
      -- What changed is met in no list of rows.
      have hother : changed ≠ some (.query query) := fun hchanged => by
        cases h.links _ _ _ hchanged hr hlink
      exact ⟨_, _, by rw [Clause.follow, hq]; rfl, by rw [Clause.follow, hq']; rfl,
        Clause.writesAs_among (hrows hother) column⟩
  | _ => exact ⟨_, _, rfl, rfl, .refl _⟩

/--
A query that is reached is settled to one with the same parts, and with the
same rows unless it is what changed.
-/
theorem settleWithin (h : Undisturbed changed x st st') (depth : Nat) (path : List QueryRef)
    {r : QueryRef} (hin : r.IsIn st) (hr : st.Reaches x (.query r)) :
    ∃ q q', st.settleWithin depth path r = .ok q ∧ st'.settleWithin depth path r = .ok q' ∧
      q.SameParts q' ∧ (changed ≠ some (.query r) → q.SameRows q') := by
  induction depth generalizing path r with
  | zero =>
      obtain ⟨s, s', hs, hs', hfilter, -⟩ := h.exists_query hin hr
      have hsame := Query.sameRows_unwritable hfilter.schema.symm .endlessNesting
      exact ⟨_, _, by rw [Store.settleWithin, hs]; rfl, by rw [Store.settleWithin, hs']; rfl,
        hsame.toSameParts, fun _ => hsame⟩
  | succ depth ih =>
      obtain ⟨s, s', hs, hs', hfilter, hkept⟩ := h.exists_query hin hr
      rw [Store.settleWithin, Store.settleWithin, hs, hs']
      simp only [Bind.bind, Except.bind, hin.1, Bool.false_eq_true, if_false]
      by_cases hmet : path.contains r = true
      · have hsame := Query.sameRows_unwritable hfilter.schema.symm .endlessNesting
        rw [if_pos hmet, if_pos hmet]
        exact ⟨_, _, rfl, rfl, hsame.toSameParts, fun _ => hsame⟩
      · rw [if_neg hmet, if_neg hmet]
        obtain ⟨t, t', ht, ht', hparts, hrows⟩ :=
          Selection.sameParts_of_follow hfilter fun c hc =>
            h.exists_follow hr hs (fun link r' hlink =>
              ih (r :: path) (h.closed.isIn_of_refers hlink) (hr.tail hlink)) hc
        rw [ht, ht']
        exact ⟨_, _, rfl, rfl, hparts, fun hother => hrows (hkept hother)⟩

/-- A query that is reached and did not change is settled to one with the same rows. -/
theorem exists_settle (h : Undisturbed changed x st st') {r : QueryRef} (hin : r.IsIn st)
    (hr : st.Reaches x (.query r)) (hother : changed ≠ some (.query r)) :
    ∃ s s', st.settle r = .ok (.mk s) ∧ st'.settle r = .ok (.mk s') ∧
      (Query.mk s).SameRows (.mk s') := by
  obtain ⟨q, q', hq, hq', -, hrows⟩ := h.settleWithin (st'.queries.size + 1) [] hin hr
  rw [settleWithin_eq_settle (Nat.succ_le_succ h.queriesSize)] at hq
  rw [settleWithin_eq_settle (Nat.le_refl _)] at hq'
  obtain ⟨s, rfl⟩ := exists_mk_of_settle hq hin.1
  obtain ⟨s', rfl⟩ := exists_mk_of_settle hq' hin.1
  exact ⟨s, s', hq, hq', hrows hother⟩

/-- An update is settled to the same assignments to the same rows. -/
theorem exists_settleUpdate {r : UpdateRef} (h : Undisturbed changed (.update r) st st')
    (hin : r.IsIn st) :
    ∃ u s s' assignments, st.update r = .ok u ∧ st'.update r = .ok u ∧ u.query.IsIn st ∧
      st.settleUpdate r = .ok ⟨s, assignments⟩ ∧ st'.settleUpdate r = .ok ⟨s', assignments⟩ ∧
      (Query.mk s).SameRows (.mk s') := by
  obtain ⟨u, hu, -⟩ := hin.exists_update
  have hu' : st'.update r = .ok u := (h.updates r hin h.apart).trans hu
  have hlink : st.Refers .target (.update r) (.query u.query) := .target hu
  have hquery : u.query.IsIn st := h.closed.isIn_of_refers hlink
  have hother : changed ≠ some (.query u.query) := fun hchanged => by
    cases h.links _ _ _ hchanged (.refl _) hlink
  obtain ⟨s, s', hs, hs', hrows⟩ := h.exists_settle hquery ((Reaches.refl _).tail hlink) hother
  obtain ⟨assignments, -, hsettle⟩ := h.closed.exists_settleUpdate hu
  exact ⟨u, s, s', assignments, hu, hu', hquery, hsettle st s hu hs, hsettle st' s' hu' hs', hrows⟩

end Undisturbed

end Store

namespace Edit

/--
Whether an edit is of no matter to a builder: what it changes is not reached
from the builder; or it is about the order or the window of another query, and
every way there ends in a condition on the rows of a table.
-/
def Spares (st : Store) (x : Builder) (e : Edit) : Prop :=
  ∀ b, e.target = some b → ¬ st.Reaches x b ∨
    e.isWindow = true ∧ b ≠ x ∧ ∀ link a, st.Reaches x a → st.Refers link a b → link = .inner

/-- An edit that is of no matter to a builder does not disturb it. -/
theorem Spares.undisturbed {st st' : Store} {x b : Builder} {e : Edit} (h : e.Spares st x)
    (hclosed : st.IsClosed) (he : e.IsOf st) (hst : e.apply st = .ok (b, st')) :
    Store.Undisturbed e.target x st st' where
  toAgreesBut := e.agreesBut he hst
  closed := hclosed
  apart htarget := by
    rcases h x htarget with haway | ⟨-, hother, -⟩
    · exact haway (.refl x)
    · exact hother rfl
  links link a target htarget hreach hlink := by
    rcases h target htarget with haway | ⟨-, -, hinner⟩
    · exact absurd (hreach.tail hlink) haway
    · exact hinner link a hreach hlink
  filter r s htarget hreach hs := by
    rcases h (.query r) htarget with haway | ⟨hwindow, -⟩
    · exact absurd hreach haway
    · exact e.sameFilter hwindow hst hs

end Edit

end SqlCompose
