import SqlCompose.Proofs.Query.Unfolding
import SqlCompose.Proofs.Session.Verdict

/-!
# Whether compiling ends

Compiling a command on a builder follows the references of the builder, and
builders can be made to refer to themselves.  Where they are followed as they
stand, whatever was met on the way (`Command.requestBy` with `Store.unfold`),
only a limit on the depth ends it.

Compiling comes to the same at every limit that leaves room for all queries of
the store, and it is what a command is compiled to.  Where references go in no
circle this is a statement or an error of the library's own, except that no
window can be counted over a table without columns.  Where they go in a circle
it is never a statement: unless another reason to refuse is met on the way,
only the limit ends it (`Command.Fails`).

## Main results

* `Command.ends_of_compile` — what compiling a command on a builder comes to.
-/

namespace SqlCompose

open SqlCompose.Action

/-- Whether an error is one of the library's own. -/
def Error.isOwn : Error → Bool
  | noPrimaryKey .. | missingColumn .. | unsupported .. | tooManyParameters .. | valueMismatch ..
  | compilation _ => true
  | _ => false

/-! ## Reasons to refuse -/

/-- Rows cannot be counted for their query, or for a window without a column to list it by. -/
theorem Selection.head?_countFaults {t : Selection Query} {d : Dialect} {e : Error}
    (he : (t.countFaults d).head? = some e) :
    (t.isPaged = true ∧ e = .noColumns ∧ t.schema.columns = []) ∨
      ((Query.mk t).faults d).head? = some e := by
  rcases mem_or_head?_of_append he with hlisting | hquery
  · by_cases hpaged : t.isPaged = true
    · rw [if_pos hpaged] at hlisting
      refine .inl ⟨hpaged, ?_⟩
      unfold listingColumn at hlisting
      split at hlisting
      · cases hlisting
      · rename_i fault hfault
        split at hfault
        · cases hfault
        · rename_i hnone
          cases hfault
          exact ⟨List.mem_singleton.1 hlisting, (List.append_eq_nil_iff.1 hnone).2⟩
    · rw [if_neg hpaged] at hlisting
      cases hlisting
  · exact .inr hquery

namespace Request

variable {d : Dialect} {t t' : Selection Query}

/-- Why an update is refused: it assigns nothing, or else for its window or for its query. -/
theorem refusals_update {assignments : List (Clause Query)}
    (hassign : ∀ a ∈ assignments, a.isAssignment = true) (t : Selection Query) :
    (update ⟨t, assignments⟩).refusals d =
      if assignments.isEmpty then [.compilation .nothingAssigned]
      else (if t.isPaged then Clause.ownFaults d (.among (.mk t) none) else []) ++
        (Query.mk t).faults d := by
  have hmember : (Update.member ⟨t, assignments⟩).faults d =
      Clause.ownFaults d (.among (.mk t) none) ++ (Query.mk t).faults d := rfl
  rw [refusals, Update.faults, Clause.faultsAll_of_isAssignment hassign, hmember, List.nil_append]
  by_cases hpaged : t.isPaged = true
  · rw [if_pos hpaged, if_pos hpaged]
  · rw [if_neg hpaged, if_neg hpaged, List.nil_append]

theorem agree_count (h : FaultsAgree ((Query.mk t').faults d) ((Query.mk t).faults d) (t = t'))
    (hschema : t'.schema = t.schema) (hpaged : t'.isPaged = t.isPaged) :
    FaultsAgree ((count t').refusals d) ((count t).refusals d) (count t = count t') := by
  simp only [refusals, Selection.countFaults, hschema, hpaged]
  exact (h.imp (congrArg count)).prepend _

theorem agree_update (h : FaultsAgree ((Query.mk t').faults d) ((Query.mk t).faults d) (t = t'))
    (hschema : t'.schema = t.schema) (hpaged : t'.isPaged = t.isPaged)
    {assignments : List (Clause Query)} (hassign : ∀ a ∈ assignments, a.isAssignment = true) :
    FaultsAgree ((update ⟨t', assignments⟩).refusals d) ((update ⟨t, assignments⟩).refusals d)
      (update ⟨t, assignments⟩ = update ⟨t', assignments⟩) := by
  rw [refusals_update hassign, refusals_update hassign]
  by_cases hidle : assignments.isEmpty = true
  · rw [if_pos hidle, if_pos hidle]
    exact .refl _ nofun
  · -- Whether the rows of a window can be listed is a matter of the table alone.
    have hown : Clause.ownFaults d (.among (.mk t') none) =
        Clause.ownFaults d (.among (.mk t) none) := by
      simp only [Clause.ownFaults, Query.selection_mk, hschema]
    rw [if_neg hidle, if_neg hidle, hpaged, hown]
    exact (h.imp fun hsame => by rw [hsame]).prepend _

/-- Requests that are refused for the same, or else are the same, come to the same. -/
theorem compileAs_of_agree {request request' : Request} {choice : DialectChoice}
    {session : Session} (hd : (outcome (dialect choice) session).1 = .ok d)
    (h : FaultsAgree (request'.refusals d) (request.refusals d) (request = request')) :
    (outcome (request'.compileAs choice) session).1 =
      (outcome (request.compileAs choice) session).1 := by
  cases hrefused : (request'.refusals d).head? with
  | none => rw [h.valid (List.head?_eq_none_iff.1 hrefused)]
  | some e =>
      have hrefused' : (request.refusals d).head? = some e := h.head.trans hrefused
      rw [compileAs_of_refusal hd hrefused, compileAs_of_refusal hd hrefused']

end Request

/-! ## Commands on builders -/

namespace Command

/-- The builder that a command is about, if it is about one. -/
def builder? : Command → Option Builder
  | fetch r => some (.query r)
  | count r => some (.query r)
  | update r => some (.update r)
  | _ => none

/-- What a command asks for, with the references of the store followed in the given way. -/
def requestBy (st : Store) (follow : QueryRef → Except Error Query) :
    Command → Except Error Request
  | fetch r => do return .fetch (← follow r).selection
  | count r => do return .count (← follow r).selection
  | update r => do
    let draft ← st.update r
    let query ← follow draft.query
    let assignments ← draft.assignments.mapM (Clause.follow follow)
    if draft.query.isUpdate then throw (UpdateDraft.lacks "limit_value")
    return .update ⟨query.selection, assignments⟩
  | c => c.request st

section RequestBy

variable {st : Store} {follow : QueryRef → Except Error Query} {t : Selection Query}

/-- The store settles what a command asks for. -/
theorem request_eq_requestBy (st : Store) (c : Command) :
    c.request st = c.requestBy st st.settle := by
  cases c with
  | update r =>
      have hclause : st.settleClause = Clause.follow st.settle := rfl
      rw [request, requestBy, Store.settleUpdate, hclause]
      cases hdraft : st.update r with
      | error e => rfl
      | ok draft =>
          simp only [Bind.bind, Except.bind]
          cases st.settle draft.query with
          | error e => rfl
          | ok query => cases draft.assignments.mapM (Clause.follow st.settle) <;> rfl
  | _ => rfl

theorem requestBy_fetch {r : QueryRef} (h : follow r = .ok (.mk t)) :
    (fetch r).requestBy st follow = .ok (.fetch t) := by
  rw [requestBy, h]
  rfl

theorem requestBy_count {r : QueryRef} (h : follow r = .ok (.mk t)) :
    (count r).requestBy st follow = .ok (.count t) := by
  rw [requestBy, h]
  rfl

/-- What an update assigns does not depend on how references are followed. -/
theorem exists_requestBy_update (h : st.IsClosed) {r : UpdateRef} {draft : UpdateDraft}
    (hdraft : st.update r = .ok draft) :
    ∃ assignments : List (Clause Query), assignments.length = draft.assignments.length ∧
      (∀ a ∈ assignments, a.isAssignment = true) ∧
      ∀ (follow : QueryRef → Except Error Query) (t : Selection Query),
        follow draft.query = .ok (.mk t) →
        (update r).requestBy st follow = .ok (.update ⟨t, assignments⟩) := by
  have hmem := Store.mem_of_update hdraft
  have hassign := h.assignsOnly draft hmem
  obtain ⟨assignments, hlength, hfollow⟩ := Clause.exists_followAll hassign
  refine ⟨assignments, hlength, fun a ha => ?_, fun follow t ht => ?_⟩
  · obtain ⟨c, hc, hfollowed⟩ := exists_of_mem_mapM (hfollow st.settle) a ha
    rw [Clause.isAssignment_follow hfollowed]
    exact hassign c hc
  · rw [requestBy, hdraft]
    simp only [Bind.bind, Except.bind, ht, hfollow, (h.targets draft hmem).1]
    rfl

end RequestBy

/-- Why compiling a command on a builder can fail. -/
inductive Fails (st : Store) : Command → Builder → Error → Prop
  /-- Something is wrong with what the builder reaches. -/
  | hindered {c x e} : st.Hinders x e → Fails st c x e
  /-- More values are bound than the dialect takes. -/
  | excessive {c x count limit dialect} : ¬ st.Circles x →
      Fails st c x (.tooManyParameters count limit dialect)
  /-- A window of rows has to be updated, and they cannot be listed. -/
  | window {r draft s e} : st.update r = .ok draft → st.query draft.query = .ok s →
      s.isPaged = true → e.IsOfList → Fails st (.update r) (.update r) e
  /-- An update assigns nothing. -/
  | idle {r draft} : st.update r = .ok draft → draft.assignments = [] →
      Fails st (.update r) (.update r) (.compilation .nothingAssigned)
  /-- The rows of a window have to be counted, and there is no column to list them by. -/
  | columnless {r s} : st.query r = .ok s → s.isPaged = true → s.schema.columns = [] →
      Fails st (.count r) (.query r) .noColumns

variable {st : Store} {c : Command} {x : Builder} {d : Dialect}

/-- All that compiling can fail of, but for two reasons, are errors of the library's own. -/
theorem Fails.isOwn {e : Error} (h : Fails st c x e) :
    e.isOwn = true ∨ e = .noColumns ∨ e = .endlessNesting := by
  have hlist : e.IsOfList → e.isOwn = true := fun hlist => by cases hlist <;> rfl
  cases h with
  | hindered h =>
      cases h with
      | endless => exact .inr (.inr rfl)
      | listed _ _ h => exact .inl (hlist h)
  | excessive => exact .inl rfl
  | window _ _ _ h => exact .inl (hlist h)
  | idle => exact .inl rfl
  | columnless => exact .inr (.inl rfl)

/--
What a command on a builder asks for, against what it asks for where references
are followed as they stand.
-/
structure Asks (st : Store) (d : Dialect) (c : Command) (x : Builder) (request : Request) :
    Prop where
  request_eq : c.request st = .ok request
  writes : ¬ request.IsIdle
  agrees : ∀ limit, st.queries.size < limit → ∃ request',
    c.requestBy st (st.unfold limit) = .ok request' ∧
      FaultsAgree (request'.refusals d) (request.refusals d) (request = request')
  fails : ∀ e, (request.refusals d).head? = some e → c.Fails st x e
  refused : st.Circles x → request.refusals d ≠ []

theorem exists_asks_fetch (h : st.IsClosed) (d : Dialect) {r : QueryRef} (hr : r.IsIn st) :
    ∃ request, (fetch r).Asks st d (.query r) request := by
  obtain ⟨s, hs, -⟩ := hr.exists_query
  obtain ⟨t, ht, -, -, hagree, hfails, hrefused⟩ := h.exists_settle d hr hs
  refine ⟨.fetch t, request_fetch ht, id, fun limit hlimit => ?_,
    fun e he => .hindered (hfails e he), hrefused⟩
  obtain ⟨t', ht', -, -, hfaults⟩ := hagree limit hlimit
  exact ⟨.fetch t', requestBy_fetch ht', hfaults.imp (congrArg Request.fetch)⟩

theorem exists_asks_count (h : st.IsClosed) (d : Dialect) {r : QueryRef} (hr : r.IsIn st) :
    ∃ request, (count r).Asks st d (.query r) request := by
  obtain ⟨s, hs, -⟩ := hr.exists_query
  obtain ⟨t, ht, hschema, hpaged, hagree, hfails, hrefused⟩ := h.exists_settle d hr hs
  refine ⟨.count t, request_count ht, id, fun limit hlimit => ?_, fun e he => ?_,
    fun hcircles hnone => ?_⟩
  · obtain ⟨t', ht', hschema', hpaged', hfaults⟩ := hagree limit hlimit
    exact ⟨.count t', requestBy_count ht', Request.agree_count hfaults
      (hschema'.trans hschema.symm) (hpaged'.trans hpaged.symm)⟩
  · rcases Selection.head?_countFaults he with ⟨hwindow, rfl, hcolumns⟩ | hquery
    · exact .columnless hs (hpaged.symm.trans hwindow) (hschema ▸ hcolumns)
    · exact .hindered (hfails e hquery)
  · exact hrefused hcircles (List.append_eq_nil_iff.1 hnone).2

theorem exists_asks_update (h : st.IsClosed) (d : Dialect) {r : UpdateRef} (hr : r.IsIn st) :
    ∃ request, (update r).Asks st d (.update r) request := by
  obtain ⟨draft, hdraft, hmem⟩ := hr.exists_update
  have htarget := h.targets draft hmem
  obtain ⟨s, hs, -⟩ := htarget.exists_query
  obtain ⟨t, ht, hschema, hpaged, hagree, hfails, hrefused⟩ := h.exists_settle d htarget hs
  obtain ⟨assignments, hlength, hassign, hrequest⟩ := exists_requestBy_update h hdraft
  have hreach : st.Reaches (.update r) (.query draft.query) :=
    (Store.Reaches.refl _).tail (.target hdraft)
  refine ⟨.update ⟨t, assignments⟩, (request_eq_requestBy st _).trans (hrequest _ t ht), id,
    fun limit hlimit => ?_, fun e he => ?_, fun hcircles hvalid => ?_⟩
  · obtain ⟨t', ht', hschema', hpaged', hfaults⟩ := hagree limit hlimit
    exact ⟨.update ⟨t', assignments⟩, hrequest _ t' ht', Request.agree_update hfaults
      (hschema'.trans hschema.symm) (hpaged'.trans hpaged.symm) hassign⟩
  · rw [Request.refusals_update hassign] at he
    by_cases hidle : assignments.isEmpty = true
    · rw [if_pos hidle] at he
      cases he
      refine .idle hdraft (List.length_eq_zero_iff.1 ?_)
      rw [← hlength, List.isEmpty_iff.1 hidle]
      rfl
    · rw [if_neg hidle] at he
      rcases mem_or_head?_of_append he with hlist | hquery
      · by_cases hwindow : t.isPaged = true
        · rw [if_pos hwindow] at hlist
          exact .window hdraft hs (hpaged.symm.trans hwindow)
            (Clause.isOfList_of_mem_ownFaults hlist)
        · rw [if_neg hwindow] at hlist
          cases hlist
      · exact .hindered ((hfails e hquery).of_reaches hreach)
  · rw [Request.refusals_update hassign] at hvalid
    by_cases hidle : assignments.isEmpty = true
    · rw [if_pos hidle] at hvalid
      cases hvalid
    · rw [if_neg hidle] at hvalid
      exact hrefused (hcircles.of_update hdraft) (List.append_eq_nil_iff.1 hvalid).2

/-- What a command on a builder in a closed store asks for. -/
theorem exists_asks (h : st.IsClosed) (d : Dialect) (hc : c.builder? = some x) (hx : x.IsIn st) :
    ∃ request, c.Asks st d x request := by
  cases c with
  | fetch r =>
      cases hc
      exact exists_asks_fetch h d hx
  | count r =>
      cases hc
      exact exists_asks_count h d hx
  | update r =>
      cases hc
      exact exists_asks_update h d hx
  | _ => cases hc

variable {session : Session} {choice : DialectChoice} {settings : Settings}

/-- A command whose request is not refused has a statement, or else too many values. -/
theorem exists_statement_or_excess {request : Request}
    (hrequest : c.request session.store = .ok request)
    (hd : (outcome (dialect choice) session).1 = .ok d)
    (hsettings : session.environment.settings = .ok settings)
    (hvalid : request.refusals d = []) (hwrites : ¬ request.IsIdle) :
    (∃ statement, (outcome (c.compile choice) session).1 = .ok (some statement)) ∨
      ∃ count, (outcome (c.compile choice) session).1 =
        .error (.tooManyParameters count d.limit d.name) := by
  obtain ⟨statement, values, b, -, -, hb, hrelease⟩ :=
    Request.exists_compile_of_valid hvalid hwrites
  obtain ⟨events, -, hrefused, hreleased⟩ :=
    exists_outcome_of_release hrequest hb hd hsettings (hrelease settings)
  by_cases hover : (settings.enforceLimit && statement.isOverLimit d) = true
  · exact .inr ⟨_, (hrefused hover).2⟩
  · exact .inl ⟨statement, (hreleased (Bool.eq_false_iff.2 hover)).2⟩

/--
How compiling a command on a builder ends, after any calls that succeeded.
Where references are followed as they stand, it comes to the same at every
limit on the depth that leaves room for all queries.  It ends with a statement
only if they go in no circle; else it fails for one of the given reasons, which
are errors of the library's own, but where the reason is a circle or a table
without columns.
-/
theorem ends_of_compile (hmade : session.store.IsMade) (hc : c.builder? = some x)
    (hx : x.IsIn session.store) (hd : (outcome (dialect choice) session).1 = .ok d)
    (hsettings : session.environment.settings = .ok settings) :
    (∀ limit, session.store.queries.size < limit → ∃ request,
      c.requestBy session.store (session.store.unfold limit) = .ok request ∧
        (outcome (request.compileAs choice) session).1 =
          (outcome (c.compile choice) session).1) ∧
      ((∃ statement, (outcome (c.compile choice) session).1 = .ok (some statement) ∧
          ¬ session.store.Circles x) ∨
        ∃ e, (outcome (c.compile choice) session).1 = .error e ∧ c.Fails session.store x e ∧
          (e.isOwn = true ∨ e = .noColumns ∨ e = .endlessNesting)) := by
  obtain ⟨request, hasks⟩ := exists_asks hmade.isClosed d hc hx
  refine ⟨fun limit hlimit => ?_, ?_⟩
  · obtain ⟨request', hrequest', hagree⟩ := hasks.agrees limit hlimit
    refine ⟨request', hrequest', ?_⟩
    rw [outcome_compile hasks.request_eq]
    exact Request.compileAs_of_agree hd hagree
  · cases hrefused : (request.refusals d).head? with
    | some e =>
        have hfails := hasks.fails e hrefused
        refine .inr ⟨e, ?_, hfails, hfails.isOwn⟩
        rw [outcome_compile hasks.request_eq, Request.compileAs_of_refusal hd hrefused]
    | none =>
        have hvalid : request.refusals d = [] := List.head?_eq_none_iff.1 hrefused
        have hfree : ¬ session.store.Circles x := fun hcircles => hasks.refused hcircles hvalid
        rcases exists_statement_or_excess hasks.request_eq hd hsettings hvalid hasks.writes with
          ⟨statement, hstatement⟩ | ⟨count, hexcess⟩
        · exact .inl ⟨statement, hstatement, hfree⟩
        · exact .inr ⟨_, hexcess, .excessive hfree, .inl rfl⟩

/-- Parts of a machine, which can have parts in turn. -/
def parts : Schema where
  identifier := ["parts"]
  columns := [{ name := "part_id", type := "int" }, { name := "parent_id", type := "int" }]
  primaryKeys := ["part_id"]

/-- The bins of a workshop, of which nothing is known. -/
def bins : Schema where
  identifier := ["bins"]
  columns := []
  primaryKeys := []

/-- The parts that are in a part which the query itself picks. -/
def nestedParts : Selection QueryRef where
  schema := parts
  related := [.related "parent_id" ⟨0, false⟩ "part_id" false]

/-- A session with the nested parts and an update that takes them out, all parts, and two bins. -/
def workshop : Session where
  store := {
    queries := #[nestedParts, { schema := parts }, { schema := bins, limit := some 2 }]
    updates := #[⟨⟨0, false⟩, [.assignNull "parent_id" (some "parts")]⟩] }

private theorem isMade_workshop : workshop.store.IsMade := by
  let named (name : String) : ColumnSource := fun _ => .ok (.named (.text name))
  have hparts : Store.IsMade { queries := #[{ schema := parts }] } :=
    .edit (e := .select ⟨"Part", some parts⟩) .empty trivial rfl
  have hnested : Store.IsMade { queries := #[nestedParts] } :=
    .edit (e := .related ⟨0, false⟩ (.query ⟨0, false⟩) (named "parent_id") (named "part_id") false)
      hparts ⟨⟨rfl, by decide⟩, ⟨rfl, by decide⟩⟩ rfl
  have hboth : Store.IsMade { queries := #[nestedParts, { schema := parts }] } :=
    .edit (e := .select ⟨"Part", some parts⟩) hnested trivial rfl
  have hbins : Store.IsMade
      { queries := #[nestedParts, { schema := parts }, { schema := bins }] } :=
    .edit (e := .select ⟨"Bin", some bins⟩) hboth trivial rfl
  have htwo : Store.IsMade
      { queries := #[nestedParts, { schema := parts }, { schema := bins, limit := some 2 }] } :=
    .edit (e := .limit ⟨2, false⟩ (.int 2)) hbins ⟨rfl, by decide⟩ rfl
  exact .edit (e := .assign (.query ⟨0, false⟩) (.null (named "parent_id"))) htwo
    ⟨rfl, by decide⟩ rfl

/-- With room for four queries all parts are listed, and the nested ones are not. -/
theorem ends_of_compile_workshop :
    (∃ request statement,
      (fetch ⟨1, false⟩).requestBy workshop.store (workshop.store.unfold 4) = .ok request ∧
        (outcome (request.compileAs (.named "sqlite")) workshop).1 = .ok (some statement) ∧
        ¬ workshop.store.Circles (.query ⟨1, false⟩)) ∧
      ∃ request,
        (fetch ⟨0, false⟩).requestBy workshop.store (workshop.store.unfold 4) = .ok request ∧
          (outcome (request.compileAs (.named "sqlite")) workshop).1 =
            .error .endlessNesting := by
  have hd : (outcome (dialect (.named "sqlite")) workshop).1 = .ok (.ofBuiltIn .sqlite) := rfl
  obtain ⟨hlisted, hends⟩ := ends_of_compile (c := fetch ⟨1, false⟩) isMade_workshop rfl
    ⟨rfl, by decide⟩ hd rfl
  obtain ⟨hnested, -⟩ := ends_of_compile (c := fetch ⟨0, false⟩) isMade_workshop rfl
    ⟨rfl, by decide⟩ hd rfl
  obtain ⟨request, hrequest, hresult⟩ := hlisted 4 (by decide)
  obtain ⟨request', hrequest', hresult'⟩ := hnested 4 (by decide)
  refine ⟨?_, request', hrequest', hresult'⟩
  rcases hends with ⟨statement, hstatement, hfree⟩ | ⟨e, herror, -⟩
  · exact ⟨request, statement, hrequest, hresult.trans hstatement, hfree⟩
  · cases herror

/--
The nested parts are refused for what they are in, and two bins cannot be
counted; neither error is the library's own.
-/
theorem not_isOwn_workshop :
    workshop.store.IsMade ∧
      ∀ c ∈ [fetch ⟨0, false⟩, count ⟨0, false⟩, update ⟨0⟩, count ⟨2, false⟩],
        ∃ e, (outcome (c.compile (.named "postgres")) workshop).1 = .error e ∧
          e.isOwn = false := by
  refine ⟨isMade_workshop, fun c hc => ?_⟩
  simp only [List.mem_cons, List.not_mem_nil, or_false] at hc
  rcases hc with rfl | rfl | rfl | rfl
  · exact ⟨.endlessNesting, rfl, rfl⟩
  · exact ⟨.endlessNesting, rfl, rfl⟩
  · exact ⟨.endlessNesting, rfl, rfl⟩
  · exact ⟨.noColumns, rfl, rfl⟩

end Command

end SqlCompose
