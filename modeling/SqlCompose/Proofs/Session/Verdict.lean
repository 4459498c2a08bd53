import SqlCompose.Proofs.Query.Acyclic
import SqlCompose.Proofs.Session.Limit

/-!
# What compiling can fail of

A query that is built by calls which succeeded holds nothing that could be
refused later: the columns that it names are declared, and so is every key.
Where it is simple (`Store.IsSimple`) it is compiled for each of the library's
own dialects, unless it binds more values than the dialect takes.  An update
of its rows can fail of four things, the first of which is its error
(`Update.fault?`).

## Main results

* `Command.verdict_of_refusal`, `Command.verdict_of_valid` — what compiling a
  command comes to, from the reasons to refuse its request.
* `Store.IsSimple.compile_verdict` — what compiling a simple query, and an
  update of its rows, comes to.
-/

namespace SqlCompose

open SqlCompose.Action

/-- What is wrong with a statement for the number of its values, if anything is. -/
def Dialect.excess? (d : Dialect) (values : List Value) : Option Error :=
  if values.length ≤ d.limit then none else some (.tooManyParameters values.length d.limit d.name)

/-- What is wrong with an update in one of the library's own dialects, if anything is. -/
def Update.fault? (b : BuiltIn) (u : Update) : Option Error :=
  if u.assignments.isEmpty then some (.compilation .nothingAssigned)
  else if u.query.isPaged && u.query.schema.primaryKeys.isEmpty then
    some (.noPrimaryKey u.query.schema.tableName none)
  else if u.query.isPaged && b == .mysql then some (.unsupported b.tag .limitInSubquery)
  else (Dialect.ofBuiltIn b).excess? u.values

/-- Whether compiling fails just of the given fault, and else has a statement with the values. -/
structure Verdict (fault? : Option Error) (values : List Value)
    (result : Except Error (Option Statement)) : Prop where
  error_iff : ∀ e, result = .error e ↔ fault? = some e
  exists_ok : fault? = none →
    ∃ statement, result = .ok (some statement) ∧ statement.args = values.map Value.toBind

namespace Verdict

variable {values : List Value}

theorem error (e : Error) : Verdict (some e) values (.error e) where
  error_iff e' := by simp
  exists_ok h := by cases h

theorem ok {statement : Statement} (h : statement.args = values.map Value.toBind) :
    Verdict none values (.ok (some statement)) where
  error_iff e := by simp
  exists_ok _ := ⟨statement, rfl, h⟩

end Verdict

/-! ## Commands -/

/-- What is compiled of a request fails of the first reason to refuse it. -/
theorem Request.compileAs_of_refusal {request : Request} {choice : DialectChoice}
    {session : Session} {d : Dialect} (hd : (outcome (dialect choice) session).1 = .ok d)
    {e : Error} (he : (request.refusals d).head? = some e) :
    (outcome (request.compileAs choice) session).1 = .error e := by
  rw [compileAs, outcome_andThen, outcome_ofExcept]
  cases hb : request.blueprint with
  | error fault =>
      rw [refusals_of_blueprint_error hb] at he
      cases he
      rfl
  | ok written =>
      cases written with
      | none =>
          rw [(isIdle_of_blueprint hb).2 d] at he
          cases he
      | some b =>
          obtain ⟨_, taken, answer, hspec, -⟩ := spec_blueprint hb d
          have hchosen : outcome (dialect choice) session =
              (.ok d, (outcome (dialect choice) session).2) := Prod.ext hd rfl
          have hcompile := outcome_compile_of_error hchosen
            (Blueprint.compile_of_fault hspec he _)
          simp only [outcome_andThen]
          rcases hout : outcome (Action.compile choice b) session with ⟨result, after⟩
          rw [hout] at hcompile
          simp only at hcompile
          rw [hcompile.1]

namespace Command

variable {c : Command} {choice : DialectChoice} {session : Session} {request : Request}
  {d : Dialect} {values : List Value}

/-- A command fails of the first reason to refuse its request. -/
theorem verdict_of_refusal (hrequest : c.request session.store = .ok request)
    (hd : (outcome (dialect choice) session).1 = .ok d) {e : Error}
    (he : (request.refusals d).head? = some e) :
    Verdict (some e) values (outcome (c.compile choice) session).1 := by
  rw [outcome_compile hrequest, Request.compileAs_of_refusal hd he]
  exact .error e

/-- A command whose request is not refused fails of too many values, or else has a statement. -/
theorem verdict_of_valid (hrequest : c.request session.store = .ok request)
    (hd : (outcome (dialect choice) session).1 = .ok d) {settings : Settings}
    (hsettings : session.environment.settings = .ok settings)
    (henforced : settings.enforceLimit = true) (hvalid : request.refusals d = [])
    (hwrites : ¬ request.IsIdle) (hbound : request.bound = .ok values) :
    Verdict (d.excess? values) values (outcome (c.compile choice) session).1 := by
  obtain ⟨statement, found, b, hfound, hargs, hb, hrelease⟩ :=
    Request.exists_compile_of_valid hvalid hwrites
  obtain rfl : values = found := Except.ok.inj (hbound.symm.trans hfound)
  obtain ⟨events, -, hrefused, hreleased⟩ :=
    exists_outcome_of_release hrequest hb hd hsettings (hrelease settings)
  have hcount : statement.argCount = values.length := by
    rw [Statement.argCount, hargs, List.length_map]
  rw [henforced, Bool.true_and, Statement.isOverLimit, hcount] at hrefused hreleased
  rw [Dialect.excess?]
  by_cases hfits : (values.length : Int) ≤ d.limit
  · rw [if_pos hfits, (hreleased (decide_eq_false (Int.not_lt.2 hfits))).2]
    exact .ok hargs
  · rw [if_neg hfits, (hrefused (decide_eq_true (Int.not_le.1 hfits))).2]
    exact .error _

end Command

/-! ## Updates -/

/-- A table has a column that tells rows apart just if it has a key. -/
theorem Schema.uniqueColumn_of_keys (s : Schema) :
    (s.primaryKeys = [] → s.uniqueColumn = .error (.noPrimaryKey s.tableName none)) ∧
      (s.primaryKeys ≠ [] → ∃ c, s.uniqueColumn = .ok c) := by
  have hlength := s.length_keyColumns
  unfold uniqueColumn
  cases hkeys : s.keyColumns with
  | nil =>
      rw [hkeys] at hlength
      have hnone : s.primaryKeys = [] := List.length_eq_zero_iff.1 hlength.symm
      exact ⟨fun _ => rfl, fun hsome => absurd hnone hsome⟩
  | cons c rest =>
      rw [hkeys] at hlength
      exact ⟨fun hnone => by simp [hnone] at hlength, fun _ => ⟨c, rfl⟩⟩

/-- Nothing is wrong with assignments, in any dialect. -/
theorem Clause.faultsAll_of_isAssignment {d : Dialect} {cs : List (Clause Query)}
    (h : ∀ c ∈ cs, c.isAssignment = true) : faultsAll d cs = [] := by
  refine faultsAll_eq_nil fun c hc => ?_
  have hc := h c hc
  cases c with
  | assign | assignNull | manual => rfl
  | _ => cases hc

namespace Update

variable {u : Update}

/-- What is wrong with an update of a query that has no fault is wrong with its window. -/
theorem faults_eq_of_isAssignment (hassign : ∀ a ∈ u.assignments, a.isAssignment = true)
    {d : Dialect} (hquery : (Query.mk u.query).faults d = []) :
    u.faults d = if u.query.isPaged then Clause.ownFaults d u.member else [] := by
  have hmember : u.member.faults d = Clause.ownFaults d u.member := by
    rw [Clause.faults, member, Clause.gather, ← Query.faults, hquery, List.append_nil]
  rw [faults, Clause.faultsAll_of_isAssignment hassign, hquery, hmember, List.nil_append]

/-- What is wrong with the list of the rows of a window, by the key of the table and the dialect. -/
theorem ownFaults_member (u : Update) (b : BuiltIn) :
    Clause.ownFaults (.ofBuiltIn b) u.member =
      if u.query.schema.primaryKeys.isEmpty then [.noPrimaryKey u.query.schema.tableName none]
      else if b == .mysql then [.unsupported b.tag .limitInSubquery] else [] := by
  obtain ⟨hnone, hsome⟩ := u.query.schema.uniqueColumn_of_keys
  by_cases hkeys : u.query.schema.primaryKeys = []
  · simp only [Clause.ownFaults, member, Query.selection_mk, hnone hkeys, hkeys, List.isEmpty_nil,
      if_true]
  · obtain ⟨c, hc⟩ := hsome hkeys
    have hnonempty : u.query.schema.primaryKeys.isEmpty = false := by simpa using hkeys
    simp only [Clause.ownFaults, member, Query.selection_mk, hc, hnonempty]
    cases b <;> rfl

end Update

namespace Command

variable {choice : DialectChoice} {session : Session} {b : BuiltIn} {settings : Settings}

/-- What an update comes to, if nothing is wrong with the query of its rows. -/
theorem verdict_of_update {r : UpdateRef} {u : Update}
    (hrequest : (update r).request session.store = .ok (.update u))
    (hassign : ∀ a ∈ u.assignments, a.isAssignment = true)
    (hquery : (Query.mk u.query).faults (.ofBuiltIn b) = [])
    (hd : (outcome (dialect choice) session).1 = .ok (.ofBuiltIn b))
    (hsettings : session.environment.settings = .ok settings)
    (henforced : settings.enforceLimit = true) :
    Verdict (u.fault? b) u.values (outcome ((update r).compile choice) session).1 := by
  have hfaults := Update.faults_eq_of_isAssignment hassign hquery
  rw [Update.ownFaults_member] at hfaults
  cases hempty : u.assignments.isEmpty with
  | true =>
      rw [Update.fault?, if_pos hempty]
      exact verdict_of_refusal hrequest hd (by rw [Request.refusals, if_pos hempty]; rfl)
  | false =>
      have hrefusals : (Request.update u).refusals (.ofBuiltIn b) = u.faults (.ofBuiltIn b) := by
        rw [Request.refusals, hempty]
        rfl
      rw [hfaults] at hrefusals
      have hvalid (hnone : (Request.update u).refusals (.ofBuiltIn b) = []) :=
        verdict_of_valid hrequest hd hsettings henforced hnone id rfl
      rw [Update.fault?, hempty]
      cases hpaged : u.query.isPaged with
      | false => exact hvalid (by rw [hrefusals, hpaged]; rfl)
      | true =>
          rw [hpaged, if_pos rfl] at hrefusals
          simp only [Bool.true_and, Bool.false_eq_true, if_false]
          cases hkeys : u.query.schema.primaryKeys.isEmpty with
          | true => exact verdict_of_refusal hrequest hd (by rw [hrefusals, hkeys]; rfl)
          | false =>
              simp only [Bool.false_eq_true, if_false]
              cases hmysql : b == .mysql with
              | true => exact verdict_of_refusal hrequest hd (by rw [hrefusals, hkeys, hmysql]; rfl)
              | false => exact hvalid (by rw [hrefusals, hkeys, hmysql]; rfl)

end Command

/-! ## Simple queries -/

/--
What compiling for one of the library's own dialects comes to, where the limit
is enforced and the settings can be read.  A simple query over a table with
columns, and the number of its rows, can fail of too many values and of
nothing else.  An update of its rows fails where nothing was assigned, or else
where it is of a window of rows without a key, or else where it is of a window
and for MySQL, or else of too many values.
-/
theorem Store.IsSimple.compile_verdict {session : Session} (hmade : session.store.IsMade)
    {r : QueryRef} (hr : r.IsIn session.store) (hsimple : session.store.IsSimple (.query r))
    {s : Selection QueryRef} (hs : session.store.query r = .ok s)
    (hcolumns : s.schema.columns ≠ []) {b : BuiltIn} {choice : DialectChoice}
    (hd : (outcome (dialect choice) session).1 = .ok (.ofBuiltIn b)) {settings : Settings}
    (hsettings : session.environment.settings = .ok settings)
    (henforced : settings.enforceLimit = true) :
    ∃ t : Selection Query, session.store.settle r = .ok (.mk t) ∧ t.schema = s.schema ∧
      t.isPaged = s.isPaged ∧
      (∀ c ∈ [Command.fetch r, Command.count r],
        Verdict ((Dialect.ofBuiltIn b).excess? (Query.mk t).values) (Query.mk t).values
          (outcome (c.compile choice) session).1) ∧
      ∀ (r' : UpdateRef) (draft : UpdateDraft), session.store.update r' = .ok draft →
        draft.query = r →
        ∃ u : Update, session.store.settleUpdate r' = .ok u ∧ u.query = t ∧
          u.assignments.length = draft.assignments.length ∧
          Verdict (u.fault? b) u.values
            (outcome ((Command.update r').compile choice) session).1 := by
  have hclosed := hmade.isClosed
  obtain ⟨t, ht, hschema, hpaged, hfaults⟩ := hsimple.exists_settle hclosed hr hs
  refine ⟨t, ht, hschema, hpaged, fun c hc => ?_, fun r' draft hdraft hquery => ?_⟩
  · simp only [List.mem_cons, List.not_mem_nil, or_false] at hc
    rcases hc with rfl | rfl
    · exact Command.verdict_of_valid (Command.request_fetch ht) hd hsettings henforced (hfaults _)
        id rfl
    · obtain ⟨c, hlisting⟩ := Selection.exists_listingColumn (hschema ▸ hcolumns)
      exact Command.verdict_of_valid (Command.request_count ht) hd hsettings henforced
        (Selection.countFaults_eq_nil hlisting (hfaults _)) id rfl
  · subst hquery
    obtain ⟨assignments, hlength, hsettle⟩ := hclosed.exists_settleUpdate hdraft
    have hu := hsettle _ t hdraft ht
    refine ⟨_, hu, rfl, hlength, ?_⟩
    exact Command.verdict_of_update (Command.request_update hu hdraft hr.1)
      (hclosed.assignsOnly.settleUpdate hu) (hfaults _) hd hsettings henforced

namespace Command

/-- The tours of a city; a tour has no number. -/
def tours : Schema where
  identifier := ["tours"]
  columns := [{ name := "guide_id", type := "int" }]
  primaryKeys := []

/-- The guides of the city. -/
def guides : Schema where
  identifier := ["guides"]
  columns := [{ name := "guide_id", type := "int" }]
  primaryKeys := ["guide_id"]

/-- The tours that have a guide. -/
def guidedTours : Selection QueryRef where
  schema := tours
  related := [.related "guide_id" ⟨1, false⟩ "guide_id" false]

/-- A session with three tours that have a guide, and with an update that takes the guide away. -/
def city : Session where
  environment := { kept := some { enforceLimit := true } }
  store := {
    queries := #[{ guidedTours with limit := some 3 }, { schema := guides }]
    updates := #[⟨⟨0, false⟩, [.assignNull "guide_id" (some "tours")]⟩] }

private theorem isMade_city : city.store.IsMade := by
  let named : ColumnSource := fun _ => .ok (.named (.text "guide_id"))
  have htours : Store.IsMade { queries := #[{ schema := tours }] } :=
    .edit (e := .select ⟨"Tour", some tours⟩) .empty trivial rfl
  have hguides : Store.IsMade { queries := #[{ schema := tours }, { schema := guides }] } :=
    .edit (e := .select ⟨"Guide", some guides⟩) htours trivial rfl
  have hguided : Store.IsMade { queries := #[guidedTours, { schema := guides }] } :=
    .edit (e := .related ⟨0, false⟩ (.query ⟨1, false⟩) named named false) hguides
      ⟨⟨rfl, by decide⟩, ⟨rfl, by decide⟩⟩ rfl
  have hthree : Store.IsMade
      { queries := #[{ guidedTours with limit := some 3 }, { schema := guides }] } :=
    .edit (e := .limit ⟨0, false⟩ (.int 3)) hguided ⟨rfl, by decide⟩ rfl
  exact .edit (e := .assign (.query ⟨0, false⟩) (.null named)) hthree ⟨rfl, by decide⟩ rfl

/-- The update ranks above the query of the tours, which ranks above that of the guides. -/
private def cityRank : Builder → Nat
  | .query r => 1 - r.index
  | .update _ => 2

private theorem isSimple_city (x : Builder) : city.store.IsSimple x := by
  refine .of_rank cityRank fun link a b hlink => ?_
  cases hlink with
  | @inner r s _ _ _ _ hs hc =>
      have hfound := Store.getElem?_of_query hs
      obtain ⟨_ | _ | index, isUpdate⟩ := r
      · obtain rfl : { guidedTours with limit := some 3 } = s := Option.some.inj hfound
        cases List.mem_singleton.1 hc
        exact ⟨Nat.zero_lt_one, by decide⟩
      · obtain rfl : ({ schema := guides } : Selection QueryRef) = s := Option.some.inj hfound
        exact absurd hc List.not_mem_nil
      · cases hfound
  | @listed r s _ _ hs hc =>
      have hmem := Array.mem_of_getElem? (Store.getElem?_of_query hs)
      simp only [city, List.mem_toArray, List.mem_cons, List.not_mem_nil, or_false] at hmem
      rcases hmem with rfl | rfl <;> simp [Selection.clauses, guidedTours] at hc
  | @target r u hu => exact ⟨Nat.lt_succ_of_le (Nat.sub_le 1 _), by decide⟩

end Command

/-- The tours can be listed; without a key they cannot be told apart to be updated. -/
theorem Store.IsSimple.compile_verdict_city :
    (∃ statement, (outcome ((Command.fetch ⟨0, false⟩).compile (.named "mysql")) Command.city).1 =
        .ok (some statement) ∧ statement.args = []) ∧
      (outcome ((Command.update ⟨0⟩).compile (.named "mysql")) Command.city).1 =
        .error (.noPrimaryKey "tours" none) := by
  have hthere : QueryRef.IsIn ⟨0, false⟩ Command.city.store := ⟨rfl, by decide⟩
  have hd : (outcome (dialect (.named "mysql")) Command.city).1 = .ok (.ofBuiltIn .mysql) := rfl
  obtain ⟨t, ht, hschema, hpaged, hqueries, hupdates⟩ :=
    compile_verdict Command.isMade_city hthere (Command.isSimple_city _) rfl (by decide) hd rfl rfl
  obtain rfl := Query.mk.inj (Except.ok.inj ht)
  obtain ⟨u, hu, -, -, hverdict⟩ := hupdates ⟨0⟩ _ rfl rfl
  obtain rfl := Except.ok.inj hu
  exact ⟨(hqueries (.fetch ⟨0, false⟩) (by simp)).exists_ok rfl, (hverdict.error_iff _).2 rfl⟩

end SqlCompose
