import Mathlib.Data.List.Nodup
import Mathlib.Data.List.Perm.Subperm
import Mathlib.Logic.Relation
import SqlCompose.Proofs.Query.Edit

/-!
# References between builders

A query refers to the queries inside its conditions, and an update to the
query whose rows it changes (`Store.Refers`).  A builder reaches what such
references lead to, one after another (`Store.Reaches`); references can lead
back to where they come from.

References are followed only so deep, and no query is met twice on the way
down.  As there are no more queries on the way than in the store, the bound is
never met (`Store.settleWithin_eq_settle`).  This is why it does not matter
that the bound changes when a store grows.
-/

namespace SqlCompose

/-- How a builder refers to a query. -/
inductive Link where
  /-- By a condition on the rows of another table. -/
  | inner
  /-- By a condition that a row is among the rows of a query. -/
  | listed
  /-- As the query whose rows an update changes. -/
  | target
  deriving DecidableEq

namespace Store

/-- Whether a builder refers to another one. -/
inductive Refers (st : Store) : Link → Builder → Builder → Prop
  | inner {r s column inner innerColumn negated} : st.query r = .ok s →
      .related column inner innerColumn negated ∈ s.clauses →
      Refers st .inner (.query r) (.query inner)
  | listed {r s query column} : st.query r = .ok s → .among query column ∈ s.clauses →
      Refers st .listed (.query r) (.query query)
  | target {r u} : st.update r = .ok u → Refers st .target (.update r) (.query u.query)

/-- Whether references lead from a builder to another one, or it is the same. -/
def Reaches (st : Store) : Builder → Builder → Prop :=
  Relation.ReflTransGen fun a b => ∃ link, st.Refers link a b

variable {st : Store}

theorem Reaches.refl (b : Builder) : st.Reaches b b := Relation.ReflTransGen.refl

theorem Reaches.tail {a b c : Builder} {link : Link} (h : st.Reaches a b)
    (hlink : st.Refers link b c) : st.Reaches a c :=
  Relation.ReflTransGen.tail h ⟨link, hlink⟩

/-- In a closed store references lead to queries that are there. -/
theorem IsClosed.isIn_of_refers (h : st.IsClosed) {link : Link} {a : Builder} {r : QueryRef}
    (hlink : st.Refers link a (.query r)) : r.IsIn st := by
  cases hlink with
  | inner hs hc =>
      exact h.clauses _ (Array.mem_of_getElem? (getElem?_of_query hs)) _ hc r List.mem_cons_self
  | listed hs hc =>
      exact h.clauses _ (Array.mem_of_getElem? (getElem?_of_query hs)) _ hc r List.mem_cons_self
  | target hu => exact h.targets _ (mem_of_update hu)

/-! ## The bound on the depth -/

/-- No more queries are met on the way down than there are. -/
theorem length_path_le {path : List QueryRef} (hpath : path.Nodup)
    (hin : ∀ r ∈ path, r.IsIn st) : path.length ≤ st.queries.size := by
  have hindexes : (path.map QueryRef.index).Nodup :=
    List.Nodup.map_on (fun r hr r' hr' hindex => (hin r' hr').eq_of_index (hin r hr) hindex) hpath
  have hrange : path.map QueryRef.index ⊆ List.range st.queries.size := fun i hi => by
    obtain ⟨r, hr, rfl⟩ := List.mem_map.1 hi
    exact List.mem_range.2 (hin r hr).2
  simpa using (List.subperm_of_subset hindexes hrange).length_le

/-- Where queries are met for the first time, being allowed one step more makes no difference. -/
theorem settleWithin_succ {depth : Nat} {path : List QueryRef} (hpath : path.Nodup)
    (hin : ∀ r ∈ path, r.IsIn st) (hdepth : st.queries.size < depth + path.length)
    (r : QueryRef) : st.settleWithin (depth + 1) path r = st.settleWithin depth path r := by
  -- What is allowed and what was met are together more than there is, on every level.
  induction depth generalizing path r with
  | zero => exact absurd (length_path_le hpath hin) (by omega)
  | succ depth ih =>
      rw [settleWithin, settleWithin]
      cases hs : st.query r with
      | error e => rfl
      | ok s =>
          simp only [Bind.bind, Except.bind]
          by_cases hupdate : r.isUpdate = true
          · rw [if_pos hupdate, if_pos hupdate]
          · by_cases hmet : path.contains r = true
            · rw [if_neg hupdate, if_neg hupdate, if_pos hmet, if_pos hmet]
            · have hr : r.IsIn st := .of_query hs (Bool.eq_false_iff.2 hupdate)
              have hfresh : (r :: path).Nodup :=
                List.nodup_cons.2 ⟨fun h => hmet (List.contains_iff_mem.2 h), hpath⟩
              have hinside : st.settleWithin (depth + 1) (r :: path) =
                  st.settleWithin depth (r :: path) :=
                funext fun r' => ih hfresh (List.forall_mem_cons.2 ⟨hr, hin⟩)
                  (by rw [List.length_cons]; omega) r'
              rw [hinside]

/-- References may be followed deeper than there are queries, and nothing comes of it. -/
theorem settleWithin_eq_settle {depth : Nat} (h : st.queries.size + 1 ≤ depth) (r : QueryRef) :
    st.settleWithin depth [] r = st.settle r := by
  induction h with
  | refl => rfl
  | step hdepth ih =>
      rw [settleWithin_succ List.nodup_nil (by simp) hdepth, ih]

/-! ## What is settled -/

/-- A query that is settled on its own is written as what it says. -/
theorem exists_mk_of_settle {r : QueryRef} {q : Query} (hq : st.settle r = .ok q)
    (hr : r.isUpdate = false) : ∃ s, q = .mk s := by
  obtain ⟨s, -, hq⟩ := exists_of_bind hq
  rw [hr] at hq
  obtain ⟨followed, -, hq⟩ := exists_of_bind hq
  cases hq
  exact ⟨followed, rfl⟩

/-- A settled query has the table, the order and the bounds of the query. -/
theorem eq_of_settle {r : QueryRef} {s : Selection QueryRef} {q : Selection Query}
    (hs : st.query r = .ok s) (hr : r.isUpdate = false) (hq : st.settle r = .ok (.mk q)) :
    q.schema = s.schema ∧ q.order = s.order ∧ q.limit = s.limit ∧ q.offset = s.offset := by
  obtain ⟨found, hfound, hq⟩ := exists_of_bind hq
  obtain rfl : s = found := Except.ok.inj (hs.symm.trans hfound)
  rw [hr] at hq
  obtain ⟨followed, hfollowed, hq⟩ := exists_of_bind hq
  cases hq
  obtain ⟨conditions, -, hfollowed⟩ := exists_of_bind hfollowed
  obtain ⟨related, -, hfollowed⟩ := exists_of_bind hfollowed
  cases hfollowed
  exact ⟨rfl, rfl, rfl, rfl⟩

/-- A settled update is over its query, and its assignments are those of the update. -/
theorem settle_of_settleUpdate {r : UpdateRef} {draft : UpdateDraft} {u : Update}
    (hdraft : st.update r = .ok draft) (hquery : draft.query.isUpdate = false)
    (hu : st.settleUpdate r = .ok u) :
    st.settle draft.query = .ok (.mk u.query) ∧
      draft.assignments.mapM st.settleClause = .ok u.assignments := by
  obtain ⟨found, hfound, hu⟩ := exists_of_bind hu
  obtain rfl : draft = found := Except.ok.inj (hdraft.symm.trans hfound)
  obtain ⟨settled, hsettled, hu⟩ := exists_of_bind hu
  obtain ⟨assignments, hassignments, hu⟩ := exists_of_bind hu
  cases hu
  obtain ⟨q, rfl⟩ := exists_mk_of_settle hsettled hquery
  exact ⟨hsettled, hassignments⟩

end Store

end SqlCompose
