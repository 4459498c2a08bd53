import SqlCompose.Proofs.Query.Fault

/-!
# References followed to any depth

Conditions hold references to queries that can still grow, and nothing keeps
them from leading back to where they come from (`Store.Circles`).  A query that
is written as its references stand follows each of them, whatever was met on
the way, and ends only where it is stopped for being too deep
(`Store.unfold`).  A store settles its queries in another way: it ends where a
query is met inside of itself (`Store.settleWithin`).

Both ways fail of the same thing at every limit on the depth.  A higher limit
shows what is behind the places where a lower one stops (`Query.Extends`), and
this makes a difference only where such a place is what is met first; what the
store leaves out is behind such a place, too.

## Main results

* `Store.IsClosed.exists_settleWithin_agrees` — the two ways agree at every
  limit.
* `Store.IsClosed.circles_iff` — references go in a circle just if they are
  stopped at every limit.
* `Store.IsClosed.exists_settle` — how a query is settled, and what can be
  wrong with it.
-/

namespace SqlCompose

/-! ## Unfolding -/

namespace Store

/--
The query that a reference leads to, with references followed as deep as the
limit allows, whatever was met on the way.
-/
def unfold (st : Store) : (limit : Nat) → QueryRef → Except Error Query
  | 0, r => do return .unwritable (← st.query r).schema .endlessNesting
  | limit + 1, r => do
    let s ← st.query r
    if r.isUpdate then return .unwritable s.schema (UpdateDraft.lacks "wheres")
    return .mk (← s.follow (st.unfold limit))

variable {st : Store} {r : QueryRef} {s : Selection QueryRef} {limit depth : Nat}
  {path : List QueryRef}

theorem unfold_zero (hs : st.query r = .ok s) :
    st.unfold 0 r = .ok (.unwritable s.schema .endlessNesting) := by
  rw [unfold, hs]
  rfl

theorem unfold_succ (hs : st.query r = .ok s) (hr : r.isUpdate = false) :
    st.unfold (limit + 1) r = (s.follow (st.unfold limit)).map .mk := by
  rw [unfold, hs]
  simp only [Bind.bind, Except.bind, hr]
  cases s.follow (st.unfold limit) <;> rfl

/-- What is found below the limit is what the query says, with its references followed. -/
theorem exists_of_unfold_succ (hs : st.query r = .ok s) (hr : r.isUpdate = false)
    {q : Query} (hq : st.unfold (limit + 1) r = .ok q) :
    ∃ t, q = .mk t ∧ s.follow (st.unfold limit) = .ok t := by
  rw [unfold_succ hs hr] at hq
  cases hfollow : s.follow (st.unfold limit) with
  | error e =>
      rw [hfollow] at hq
      cases hq
  | ok t =>
      rw [hfollow] at hq
      cases hq
      exact ⟨t, rfl, rfl⟩

theorem settleWithin_zero (hs : st.query r = .ok s) :
    st.settleWithin 0 path r = .ok (.unwritable s.schema .endlessNesting) := by
  rw [settleWithin, hs]
  rfl

/-- Inside of itself a query is not settled. -/
theorem settleWithin_of_mem (hs : st.query r = .ok s) (hr : r.isUpdate = false)
    (hmet : r ∈ path) :
    st.settleWithin (depth + 1) path r = .ok (.unwritable s.schema .endlessNesting) := by
  rw [settleWithin, hs]
  simp only [Bind.bind, Except.bind, hr, List.contains_iff_mem.2 hmet]
  rfl

/-- Elsewhere a query is settled as what it says. -/
theorem settleWithin_of_not_mem (hs : st.query r = .ok s) (hr : r.isUpdate = false)
    (hfresh : r ∉ path) :
    st.settleWithin (depth + 1) path r =
      (s.follow (st.settleWithin depth (r :: path))).map .mk := by
  rw [settleWithin, hs]
  simp only [Bind.bind, Except.bind, hr, List.contains_iff_mem, hfresh]
  cases s.follow (st.settleWithin depth (r :: path)) <;> rfl

/-- What is stopped is extended by whatever the query leads to otherwise. -/
theorem followsOn_of_stop {d : Dialect} {f g : QueryRef → Except Error Query}
    (hf : f r = .ok (.unwritable s.schema .endlessNesting))
    (hg : ∃ q, g r = .ok q ∧ q.selection.schema = s.schema) : FollowsOn d f g r := by
  obtain ⟨q, hq, hschema⟩ := hg
  exact ⟨_, q, hf, hq, .of_stop hschema⟩

namespace IsClosed

variable {d : Dialect}

theorem isIn_of_mem (h : st.IsClosed) (hs : st.query r = .ok s) {c : Clause QueryRef}
    (hc : c ∈ s.clauses) {r' : QueryRef} (hr' : r' ∈ c.references) : r'.IsIn st :=
  h.clauses _ (Array.mem_of_getElem? (getElem?_of_query hs)) _ hc r' hr'

/-- A query is followed if every reference in the store is. -/
theorem exists_follow (h : st.IsClosed) (hs : st.query r = .ok s)
    {f : QueryRef → Except Error Query} (hf : ∀ r', r'.IsIn st → ∃ q, f r' = .ok q) :
    ∃ q, (s.follow f).map Query.mk = .ok q ∧ q.selection.schema = s.schema := by
  have hclause : ∀ c ∈ s.clauses, ∃ c', c.follow f = .ok c' ∧ True := fun c hc => by
    have href : ∀ r' ∈ c.references, ∃ q, f r' = .ok q := fun r' hr' =>
      hf r' (h.isIn_of_mem hs hc hr')
    cases c with
    | related column inner innerColumn negated =>
        obtain ⟨q, hq⟩ := href inner List.mem_cons_self
        exact ⟨.related column q innerColumn negated, by rw [Clause.follow, hq]; rfl, trivial⟩
    | among query column =>
        obtain ⟨q, hq⟩ := href query List.mem_cons_self
        exact ⟨.among q column, by rw [Clause.follow, hq]; rfl, trivial⟩
    | _ => exact ⟨_, rfl, trivial⟩
  obtain ⟨t, ht, -⟩ := Selection.exists_follow hclause
  refine ⟨.mk t, ?_, (Selection.schema_of_follow ht).1⟩
  rw [ht]
  rfl

/-- At every limit a reference in a closed store is followed to a query over its table. -/
theorem exists_unfold (h : st.IsClosed) (limit : Nat) (hin : r.IsIn st)
    (hs : st.query r = .ok s) :
    ∃ q, st.unfold limit r = .ok q ∧ q.selection.schema = s.schema := by
  induction limit generalizing r s with
  | zero => exact ⟨_, unfold_zero hs, rfl⟩
  | succ limit ih =>
      rw [unfold_succ hs hin.1]
      refine h.exists_follow hs fun r' hin' => ?_
      obtain ⟨s', hs', -⟩ := hin'.exists_query
      exact (ih hin' hs').imp fun q hq => hq.1

/-- Inside of any queries a reference in a closed store is settled to a query over its table. -/
theorem exists_settleWithin (h : st.IsClosed) (depth : Nat) (path : List QueryRef)
    (hin : r.IsIn st) (hs : st.query r = .ok s) :
    ∃ q, st.settleWithin depth path r = .ok q ∧ q.selection.schema = s.schema := by
  induction depth generalizing path r s with
  | zero => exact ⟨_, settleWithin_zero hs, rfl⟩
  | succ depth ih =>
      by_cases hmet : r ∈ path
      · exact ⟨_, settleWithin_of_mem hs hin.1 hmet, rfl⟩
      · rw [settleWithin_of_not_mem hs hin.1 hmet]
        refine h.exists_follow hs fun r' hin' => ?_
        obtain ⟨s', hs', -⟩ := hin'.exists_query
        exact (ih (r :: path) hin' hs').imp fun q hq => hq.1

/-- A query is extended if everything that its clauses refer to is. -/
theorem followsOn_of_follow (h : st.IsClosed) (hs : st.query r = .ok s)
    {f g f' g' : QueryRef → Except Error Query} (hf : f r = (s.follow f').map .mk)
    (hg : g r = (s.follow g').map .mk) (hinside : ∀ r', r'.IsIn st → FollowsOn d f' g' r') :
    FollowsOn d f g r := by
  obtain ⟨t, t', ht, ht', hextends⟩ := Selection.extends_follow fun c hc r' hr' =>
    hinside r' (h.isIn_of_mem hs hc hr')
  refine ⟨.mk t, .mk t', ?_, ?_, hextends⟩
  · rw [hf, ht]
    rfl
  · rw [hg, ht']
    rfl

/-- One more step on the way down extends what is found. -/
theorem unfold_extends (h : st.IsClosed) (limit : Nat) (hin : r.IsIn st) :
    FollowsOn d (st.unfold limit) (st.unfold (limit + 1)) r := by
  induction limit generalizing r with
  | zero =>
      obtain ⟨s, hs, -⟩ := hin.exists_query
      exact followsOn_of_stop (unfold_zero hs) (h.exists_unfold 1 hin hs)
  | succ limit ih =>
      obtain ⟨s, hs, -⟩ := hin.exists_query
      exact h.followsOn_of_follow hs (unfold_succ hs hin.1) (unfold_succ hs hin.1) fun _ => ih

theorem settleWithin_extends (h : st.IsClosed) (depth : Nat) (path : List QueryRef)
    (hin : r.IsIn st) :
    FollowsOn d (st.settleWithin depth path) (st.settleWithin (depth + 1) path) r := by
  induction depth generalizing path r with
  | zero =>
      obtain ⟨s, hs, -⟩ := hin.exists_query
      exact followsOn_of_stop (settleWithin_zero hs) (h.exists_settleWithin 1 path hin hs)
  | succ depth ih =>
      obtain ⟨s, hs, -⟩ := hin.exists_query
      by_cases hmet : r ∈ path
      · exact followsOn_of_stop (settleWithin_of_mem hs hin.1 hmet)
          (h.exists_settleWithin _ path hin hs)
      · exact h.followsOn_of_follow hs (settleWithin_of_not_mem hs hin.1 hmet)
          (settleWithin_of_not_mem hs hin.1 hmet) fun _ => ih (r :: path)

/-- What the store leaves out is found where references are followed as they stand. -/
theorem unfold_extends_settleWithin (h : st.IsClosed) (depth : Nat) (path : List QueryRef)
    (hin : r.IsIn st) : FollowsOn d (st.settleWithin depth path) (st.unfold depth) r := by
  induction depth generalizing path r with
  | zero =>
      obtain ⟨s, hs, -⟩ := hin.exists_query
      exact followsOn_of_stop (settleWithin_zero hs) (h.exists_unfold 0 hin hs)
  | succ depth ih =>
      obtain ⟨s, hs, -⟩ := hin.exists_query
      by_cases hmet : r ∈ path
      · exact followsOn_of_stop (settleWithin_of_mem hs hin.1 hmet) (h.exists_unfold _ hin hs)
      · exact h.followsOn_of_follow hs (settleWithin_of_not_mem hs hin.1 hmet)
          (unfold_succ hs hin.1) fun _ => ih (r :: path)

end IsClosed

/-! ### Queries that are stopped -/

/-- Whether a query is stopped at the limit before anything is wrong with it. -/
structure IsStopped (st : Store) (d : Dialect) (limit : Nat) (r : QueryRef) : Prop where
  isIn : r.IsIn st
  isOpen : ∀ q, st.unfold limit r = .ok q → IsOpen (q.faults d)

/-- What is stopped at a limit is stopped at a lower one. -/
theorem IsStopped.of_succ {d : Dialect} (hstopped : st.IsStopped d (limit + 1) r)
    (h : st.IsClosed) : st.IsStopped d limit r := by
  refine ⟨hstopped.isIn, fun found hfound => ?_⟩
  obtain ⟨q, q', hq, hq', hextends⟩ := h.unfold_extends (d := d) limit hstopped.isIn
  obtain rfl : q = found := Except.ok.inj (hq.symm.trans hfound)
  by_contra hopen
  exact (hextends.faults hopen).not_isOpen hopen (hstopped.isOpen q' hq')

namespace IsClosed

variable {d : Dialect}

/--
Where references are followed as they stand nothing else is found than the
store says, if the queries that it is inside of are stopped.
-/
theorem settleWithin_extends_unfold (h : st.IsClosed) (limit : Nat) (path : List QueryRef)
    (hpath : ∀ p ∈ path, st.IsStopped d limit p) (hin : r.IsIn st) :
    FollowsOn d (st.unfold limit) (st.settleWithin limit path) r := by
  induction limit generalizing path r with
  | zero =>
      obtain ⟨s, hs, -⟩ := hin.exists_query
      exact followsOn_of_stop (unfold_zero hs) (h.exists_settleWithin 0 path hin hs)
  | succ limit ih =>
      obtain ⟨s, hs, -⟩ := hin.exists_query
      obtain ⟨q, hq, hschema⟩ := h.exists_unfold (limit + 1) hin hs
      by_cases hmet : r ∈ path
      · refine ⟨q, _, hq, settleWithin_of_mem hs hin.1 hmet, hschema.symm, ?_⟩
        exact .of_isOpen ((hpath r hmet).isOpen q hq)
      · have hbelow : ∀ p ∈ path, st.IsStopped d limit p := fun p hp => (hpath p hp).of_succ h
        by_cases hstopped : st.IsStopped d limit r
        · exact h.followsOn_of_follow hs (unfold_succ hs hin.1)
            (settleWithin_of_not_mem hs hin.1 hmet)
            fun _ => ih (r :: path) (List.forall_mem_cons.2 ⟨hstopped, hbelow⟩)
        · -- What is decided below the limit is decided there for the store, too.
          obtain ⟨q₀, q₁, hq₀, hq₁, hextends⟩ := h.unfold_extends (d := d) limit hin
          have hopen : ¬ IsOpen (q₀.faults d) := fun hopen => hstopped
            ⟨hin, fun found hfound => Except.ok.inj (hq₀.symm.trans hfound) ▸ hopen⟩
          have hback : FollowsOn d (st.unfold (limit + 1)) (st.unfold limit) r :=
            ⟨q₁, q₀, hq₁, hq₀, hextends.symm hopen⟩
          exact (hback.trans (ih path hbelow hin)).trans (h.settleWithin_extends limit path hin)

/-- At every limit the same is wrong first, and nothing is different where nothing is wrong. -/
theorem exists_settleWithin_agrees (h : st.IsClosed) (d : Dialect) (limit : Nat)
    (hin : r.IsIn st) :
    ∃ q q', st.unfold limit r = .ok q ∧ st.settleWithin limit [] r = .ok q' ∧
      FaultsAgree (q.faults d) (q'.faults d) (q' = q) := by
  obtain ⟨q, q', hq, hq', hextends⟩ :=
    h.settleWithin_extends_unfold (d := d) limit [] (by simp) hin
  obtain ⟨found', found, hfound', hfound, hback⟩ :=
    h.unfold_extends_settleWithin (d := d) limit [] hin
  obtain rfl : q = found := Except.ok.inj (hq.symm.trans hfound)
  obtain rfl : q' = found' := Except.ok.inj (hq'.symm.trans hfound')
  exact ⟨q, q', hq, hq', hextends.faults.antisymm hback.faults⟩

end IsClosed

/-! ## Circles -/

/-- Whether references lead from a builder to one that they lead back to. -/
def Circles (st : Store) (x : Builder) : Prop :=
  ∃ a link b, st.Reaches x a ∧ st.Refers link a b ∧ st.Reaches b a

/-- What can be wrong with a builder for what it reaches. -/
inductive Hinders (st : Store) (x : Builder) : Error → Prop
  /-- References go in a circle. -/
  | endless : st.Circles x → Hinders st x .endlessNesting
  /-- A row has to be among those of a query, and these cannot be listed. -/
  | listed {a b e} : st.Reaches x a → st.Refers .listed a b → e.IsOfList → Hinders st x e

/-- Whether queries in the store, no two the same, all refer to what leads to a query. -/
structure IsAbove (st : Store) (path : List QueryRef) (r : QueryRef) : Prop where
  nodup : path.Nodup
  isIn : ∀ p ∈ path, p.IsIn st
  leads : ∀ p ∈ path, ∃ link b, st.Refers link (.query p) b ∧ st.Reaches b (.query r)

variable {st : Store} {x y : Builder} {r : QueryRef} {s : Selection QueryRef} {limit : Nat}

theorem Circles.of_reaches (hreaches : st.Reaches x y) (h : st.Circles y) : st.Circles x := by
  obtain ⟨a, link, b, hya, hab, hba⟩ := h
  exact ⟨a, link, b, hreaches.trans hya, hab, hba⟩

theorem Hinders.of_reaches {e : Error} (h : st.Hinders y e) (hreaches : st.Reaches x y) :
    st.Hinders x e := by
  cases h with
  | endless hcircles => exact .endless (hcircles.of_reaches hreaches)
  | listed hya hlink hlist => exact .listed (hreaches.trans hya) hlink hlist

/-- What leads into a circle refers to something that leads into it. -/
theorem Circles.exists_refers (h : st.Circles x) :
    ∃ link y, st.Refers link x y ∧ st.Circles y := by
  obtain ⟨a, link, b, hxa, hab, hba⟩ := h
  rcases Relation.ReflTransGen.cases_head hxa with rfl | ⟨c, ⟨first, hxc⟩, hca⟩
  · exact ⟨link, b, hab, x, link, b, hba, hab, hba⟩
  · exact ⟨first, c, hxc, a, link, b, hca, hab, hba⟩

/-- An update leads into a circle only by the query whose rows it changes. -/
theorem Circles.of_update {u : UpdateRef} {draft : UpdateDraft} (h : st.Circles (.update u))
    (hdraft : st.update u = .ok draft) : st.Circles (.query draft.query) := by
  obtain ⟨link, y, hlink, hnext⟩ := h.exists_refers
  cases hlink with
  | target hfound =>
      obtain rfl := Except.ok.inj (hdraft.symm.trans hfound)
      exact hnext

/-- A query refers to what its clauses refer to. -/
theorem exists_refers_of_mem (hs : st.query r = .ok s) {c : Clause QueryRef} (hc : c ∈ s.clauses)
    {r' : QueryRef} (hr' : r' ∈ c.references) :
    ∃ link, st.Refers link (.query r) (.query r') := by
  cases c with
  | related column inner innerColumn negated =>
      cases List.mem_singleton.1 hr'
      exact ⟨_, .inner hs hc⟩
  | among query column =>
      cases List.mem_singleton.1 hr'
      exact ⟨_, .listed hs hc⟩
  | _ => cases hr'

/-- What a query refers to, one of its clauses refers to. -/
theorem Refers.exists_mem {link : Link} (h : st.Refers link (.query r) y) :
    ∃ s c r', st.query r = .ok s ∧ c ∈ s.clauses ∧ r' ∈ c.references ∧ y = .query r' := by
  cases h with
  | inner hs hc => exact ⟨_, _, _, hs, hc, List.mem_cons_self, rfl⟩
  | listed hs hc => exact ⟨_, _, _, hs, hc, List.mem_cons_self, rfl⟩

/-- A query that leads into no circle is above what it refers to, with all that is above it. -/
theorem IsAbove.cons {path : List QueryRef} (h : st.IsAbove path r) (hin : r.IsIn st)
    (hcircles : ¬ st.Circles (.query r)) {link : Link} {r' : QueryRef}
    (hlink : st.Refers link (.query r) (.query r')) : st.IsAbove (r :: path) r' where
  nodup := by
    refine List.nodup_cons.2 ⟨fun hmet => ?_, h.nodup⟩
    obtain ⟨first, b, hfirst, hback⟩ := h.leads r hmet
    exact hcircles ⟨_, first, b, .refl _, hfirst, hback⟩
  isIn := List.forall_mem_cons.2 ⟨hin, h.isIn⟩
  leads := by
    refine List.forall_mem_cons.2 ⟨⟨link, _, hlink, .refl _⟩, fun p hp => ?_⟩
    obtain ⟨first, b, hfirst, hrest⟩ := h.leads p hp
    exact ⟨first, b, hfirst, hrest.tail hlink⟩

namespace IsClosed

variable {d : Dialect} {q : Query} {e : Error}

/-- References that go in a circle are stopped at every limit. -/
theorem endless_mem_of_circles (h : st.IsClosed) (limit : Nat) (hin : r.IsIn st)
    (hcircles : st.Circles (.query r)) (hq : st.unfold limit r = .ok q) :
    .endlessNesting ∈ q.faults d := by
  induction limit generalizing r q with
  | zero =>
      obtain ⟨s, hs, -⟩ := hin.exists_query
      cases (unfold_zero hs).symm.trans hq
      exact List.mem_cons_self
  | succ limit ih =>
      obtain ⟨link, y, hlink, hnext⟩ := hcircles.exists_refers
      obtain ⟨s, c, r', hs, hc, hr', rfl⟩ := hlink.exists_mem
      obtain ⟨t, rfl, hfollow⟩ := exists_of_unfold_succ hs hin.1 hq
      have hin' : r'.IsIn st := h.isIn_of_mem hs hc hr'
      obtain ⟨s', hs', -⟩ := hin'.exists_query
      obtain ⟨q', hq', -⟩ := h.exists_unfold limit hin' hs'
      obtain ⟨c', hmem, hc'⟩ := exists_mem_of_mapM (Selection.clauses_of_follow hfollow) hc
      have hfault : .endlessNesting ∈ c'.faults d :=
        Clause.mem_faults_of_reference hc' hr' hq' (ih hin' hnext hq')
      exact Query.mem_faults_mk.2 ⟨c', hmem, hfault⟩

/--
Whatever is wrong where references are followed comes from what is reached.
Where they go in no circle, they are not stopped at a limit that leaves room
for all queries.
-/
theorem hinders_of_mem (h : st.IsClosed) (limit : Nat) (hin : r.IsIn st)
    (hreach : st.Reaches x (.query r))
    (hroom : ¬ st.Circles x →
      ∃ path, st.IsAbove path r ∧ st.queries.size < limit + path.length)
    (hq : st.unfold limit r = .ok q) (he : e ∈ q.faults d) : st.Hinders x e := by
  induction limit generalizing r q with
  | zero =>
      obtain ⟨s, hs, -⟩ := hin.exists_query
      cases (unfold_zero hs).symm.trans hq
      obtain rfl : e = .endlessNesting := List.mem_singleton.1 he
      by_contra hfree
      obtain ⟨path, habove, hdeep⟩ := hroom fun hcircles => hfree (.endless hcircles)
      have hshort := length_path_le habove.nodup habove.isIn
      omega
  | succ limit ih =>
      obtain ⟨s, hs, -⟩ := hin.exists_query
      obtain ⟨t, rfl, hfollow⟩ := exists_of_unfold_succ hs hin.1 hq
      obtain ⟨c', hmem', hfault⟩ := Query.mem_faults_mk.1 he
      obtain ⟨c, hc, hc'⟩ :=
        exists_of_mem_mapM (Selection.clauses_of_follow hfollow) c' hmem'
      rcases Clause.exists_of_mem_faults hc' hfault with
        ⟨query, column, rfl, hlist⟩ | ⟨r', hr', q', hq', hinside⟩
      · exact .listed hreach (.listed hs hc) hlist
      · obtain ⟨link, hlink⟩ := exists_refers_of_mem hs hc hr'
        refine ih (h.isIn_of_mem hs hc hr') (hreach.tail hlink) (fun hfree => ?_) hq' hinside
        obtain ⟨path, habove, hdeep⟩ := hroom hfree
        have hnone : ¬ st.Circles (.query r) := fun hcircles =>
          hfree (hcircles.of_reaches hreach)
        refine ⟨r :: path, habove.cons hin hnone hlink, ?_⟩
        rw [List.length_cons]
        omega

/-- What is wrong where there is room for all queries comes from what is reached. -/
theorem hinders_of_unfold (h : st.IsClosed) (hin : r.IsIn st)
    (hlimit : st.queries.size < limit) (hq : st.unfold limit r = .ok q) (he : e ∈ q.faults d) :
    st.Hinders (.query r) e :=
  h.hinders_of_mem limit hin (.refl _) (fun _ => ⟨[], ⟨List.nodup_nil, by simp, by simp⟩, hlimit⟩)
    hq he

/-- References go in a circle just if they are stopped at every limit. -/
theorem circles_iff (h : st.IsClosed) (d : Dialect) (hin : r.IsIn st) :
    st.Circles (.query r) ↔
      ∀ limit q, st.unfold limit r = .ok q → .endlessNesting ∈ q.faults d := by
  constructor
  · intro hcircles limit q hq
    exact h.endless_mem_of_circles limit hin hcircles hq
  · intro hstopped
    obtain ⟨s, hs, -⟩ := hin.exists_query
    obtain ⟨q, hq, -⟩ := h.exists_unfold (st.queries.size + 1) hin hs
    cases h.hinders_of_unfold hin (Nat.lt_succ_self _) hq (hstopped _ q hq) with
    | endless hcircles => exact hcircles
    | listed _ _ hlist => cases hlist

/--
How a query is settled.  At every limit that leaves room for all queries the
same is wrong first where references are followed as they stand; it comes from
what is reached, and where references go in a circle there is something wrong.
-/
theorem exists_settle (h : st.IsClosed) (d : Dialect) (hin : r.IsIn st) (hs : st.query r = .ok s) :
    ∃ t, st.settle r = .ok (.mk t) ∧ t.schema = s.schema ∧ t.isPaged = s.isPaged ∧
      (∀ limit, st.queries.size < limit → ∃ t', st.unfold limit r = .ok (.mk t') ∧
        t'.schema = s.schema ∧ t'.isPaged = s.isPaged ∧
        FaultsAgree ((Query.mk t').faults d) ((Query.mk t).faults d) (t = t')) ∧
      (∀ e, ((Query.mk t).faults d).head? = some e → st.Hinders (.query r) e) ∧
      (st.Circles (.query r) → (Query.mk t).faults d ≠ []) := by
  obtain ⟨q, hq, -⟩ := h.exists_settleWithin (st.queries.size + 1) [] hin hs
  obtain ⟨t, rfl⟩ := exists_mk_of_settle hq hin.1
  obtain ⟨hschema, -, hbound, hoffset⟩ := eq_of_settle hs hin.1 hq
  have hpaged : t.isPaged = s.isPaged := by
    rw [Selection.isPaged, Selection.isPaged, hbound, hoffset]
  have hagree : ∀ limit, st.queries.size < limit → ∃ t', st.unfold limit r = .ok (.mk t') ∧
      t'.schema = s.schema ∧ t'.isPaged = s.isPaged ∧
      FaultsAgree ((Query.mk t').faults d) ((Query.mk t).faults d) (t = t') := by
    intro limit hlimit
    obtain ⟨found, settled, hfound, hsettled, hfaults⟩ :=
      h.exists_settleWithin_agrees d limit hin
    obtain rfl : .mk t = settled :=
      Except.ok.inj (hq.symm.trans ((settleWithin_eq_settle hlimit r).symm.trans hsettled))
    obtain ⟨n, rfl⟩ : ∃ n, limit = n + 1 := ⟨limit - 1, by omega⟩
    obtain ⟨t', rfl, hfollow⟩ := exists_of_unfold_succ hs hin.1 hfound
    obtain ⟨hschema', hpaged'⟩ := Selection.schema_of_follow hfollow
    exact ⟨t', hfound, hschema', hpaged', hfaults.imp Query.mk.inj⟩
  obtain ⟨t', ht', -, -, hfaults⟩ := hagree _ (Nat.lt_succ_self _)
  refine ⟨t, hq, hschema, hpaged, hagree, fun e he => ?_, fun hcircles hnone => ?_⟩
  · rw [hfaults.head] at he
    exact h.hinders_of_unfold hin (Nat.lt_succ_self _) ht' (List.mem_of_mem_head? he)
  · have hstopped := (h.circles_iff d hin).1 hcircles _ _ ht'
    rw [hfaults.eq_nil_of_eq_nil hnone] at hstopped
    cases hstopped

end IsClosed

end Store

end SqlCompose
