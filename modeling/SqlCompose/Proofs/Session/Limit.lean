import SqlCompose.Proofs.Session.Command
import SqlCompose.Proofs.Statement.Refusal

/-!
# The limit of a dialect

A command stands for a request, which its references and its schema make out
(`Command.request`).  Compiling the command is writing the request in the
dialect that is chosen, and every request is finished in the same way: what
was bound is counted once, when all is written, against the limit of the
dialect.

## Main results

* `Command.outcome_compile` — compiling a command is compiling its request.
* `Command.limit_of_compile` — where nothing else is wrong, the limit decides
  whether there is a statement, and the settings decide whether it matters.
-/

namespace SqlCompose

open SqlCompose.Action

/-- Writes what a request says in the dialect that the caller names, if it says anything. -/
def Request.compileAs (choice : DialectChoice) (request : Request) :
    Action (Option Statement) := do
  match ← Action.ofExcept request.blueprint with
  | none => return none
  | some b => return some (← Action.compile choice b)

namespace Command

/-- The schema that is given, or else the one that the object's model carries. -/
def schemaFor (r : Record) (schema? : Option Schema) : Except Error Schema :=
  (schema?.map .ok).getD r.model.schema

/--
What a command asks for, with all references followed.  An update of the rows
of another update asks for nothing, as this cannot say which rows these are.
-/
def request (st : Store) : Command → Except Error Request
  | fetch r => do return .fetch (← st.settle r).selection
  | count r => do return .count (← st.settle r).selection
  | update r => do
    let u ← st.settleUpdate r
    let draft ← st.update r
    if draft.query.isUpdate then throw (UpdateDraft.lacks "limit_value") else return .update u
  | updateRow r schema? => do return .updateRow r (← schemaFor r schema?)
  | deleteRow r schema? => do return .deleteRow r (← schemaFor r schema?)
  | insertRow r schema? => do return .insertRow r (← schemaFor r schema?)

theorem request_fetch {st : Store} {r : QueryRef} {selection : Selection Query}
    (h : st.settle r = .ok (.mk selection)) :
    (fetch r).request st = .ok (.fetch selection) := by
  rw [request, h]
  rfl

theorem request_count {st : Store} {r : QueryRef} {selection : Selection Query}
    (h : st.settle r = .ok (.mk selection)) :
    (count r).request st = .ok (.count selection) := by
  rw [request, h]
  rfl

theorem request_update {st : Store} {r : UpdateRef} {u : Update} {draft : UpdateDraft}
    (hsettled : st.settleUpdate r = .ok u) (hdraft : st.update r = .ok draft)
    (hquery : draft.query.isUpdate = false) : (update r).request st = .ok (.update u) := by
  rw [request, hsettled, hdraft]
  simp only [Bind.bind, Except.bind, hquery, Bool.false_eq_true, if_false]
  rfl

/-- An update that asks for something is settled, and picks its rows by a query. -/
theorem exists_settleUpdate_of_request {st : Store} {r : UpdateRef} {request : Request}
    (h : (update r).request st = .ok request) :
    ∃ draft u, st.update r = .ok draft ∧ draft.query.isUpdate = false ∧
      st.settleUpdate r = .ok u ∧ request = .update u := by
  obtain ⟨u, hu, h⟩ := exists_of_bind h
  obtain ⟨draft, hdraft, h⟩ := exists_of_bind h
  cases hquery : draft.query.isUpdate with
  | true =>
      rw [hquery] at h
      cases h
  | false =>
      rw [hquery] at h
      cases h
      exact ⟨draft, u, hdraft, hquery, hu, rfl⟩

section Rows

variable {st : Store} {r : Record} {schema? : Option Schema} {s : Schema}

theorem request_insertRow (hs : schemaFor r schema? = .ok s) :
    (insertRow r schema?).request st = .ok (.insertRow r s) := by
  rw [request, hs]
  rfl

theorem request_updateRow (hs : schemaFor r schema? = .ok s) :
    (updateRow r schema?).request st = .ok (.updateRow r s) := by
  rw [request, hs]
  rfl

theorem request_deleteRow (hs : schemaFor r schema? = .ok s) :
    (deleteRow r schema?).request st = .ok (.deleteRow r s) := by
  rw [request, hs]
  rfl

end Rows

theorem schemaFor_eq (r : Record) (schema? : Option Schema) :
    Action.schemaFor r schema? = Action.ofExcept (schemaFor r schema?) := by
  cases schema? <;> rfl

/-- Compiling a command is writing its request. -/
theorem outcome_compile {c : Command} {session : Session} {request : Request}
    (h : c.request session.store = .ok request) (choice : DialectChoice) :
    outcome (c.compile choice) session = outcome (request.compileAs choice) session := by
  cases c with
  | fetch r =>
      obtain ⟨q, hq, hrequest⟩ := exists_of_bind h
      cases hrequest
      simp [compile, compileFetch, Request.compileAs, Request.blueprint, outcome_andThen,
        outcome_settled, hq, Except.map]
  | count r =>
      obtain ⟨q, hq, hrequest⟩ := exists_of_bind h
      cases hrequest
      simp [compile, compileCount, Request.compileAs, Request.blueprint, outcome_andThen,
        outcome_settled, hq, Except.map]
  | update r =>
      obtain ⟨u, hu, h⟩ := exists_of_bind h
      obtain ⟨draft, hdraft, h⟩ := exists_of_bind h
      split at h
      · cases h
      · rename_i hquery
        cases h
        have hblueprint : blueprintOf session.store r = u.blueprint := by
          simp only [blueprintOf, hu, hdraft, Bind.bind, Except.bind, hquery]
          cases u.blueprint <;> rfl
        simp only [compile, compileUpdate, Request.compileAs, Request.blueprint, outcome_map,
          outcome_andThen, outcome_get, outcome_ofExcept, hblueprint]
        cases u.blueprint with
        | error e => rfl
        | ok b => simp [Except.map]
  | updateRow r schema? =>
      obtain ⟨s, hs, hrequest⟩ := exists_of_bind h
      cases hrequest
      rw [compile, compileUpdateRow, Request.compileAs, schemaFor_eq, hs]
      rfl
  | deleteRow r schema? =>
      obtain ⟨s, hs, hrequest⟩ := exists_of_bind h
      cases hrequest
      simp only [compile, compileDeleteRow, Request.compileAs, Request.blueprint, schemaFor_eq, hs,
        ofExcept_ok, pure_bind]
      cases r.delete s with
      | error e => simp [Except.map, outcome_andThen]
      | ok b => simp [Except.map]
  | insertRow r schema? =>
      obtain ⟨s, hs, hrequest⟩ := exists_of_bind h
      cases hrequest
      simp [compile, compileInsertRow, Request.compileAs, Request.blueprint, schemaFor_eq, hs]

/-- What is written for a statement with nothing wrong is that statement, as it is released. -/
theorem exists_outcome_of_release {c : Command} {choice : DialectChoice} {session : Session}
    {request : Request} {d : Dialect} {settings : Settings} {b : Blueprint} {statement : Statement}
    (hrequest : c.request session.store = .ok request) (hb : request.blueprint = .ok (some b))
    (hd : (outcome (dialect choice) session).1 = .ok d)
    (hsettings : session.environment.settings = .ok settings)
    (hrelease : b.compile (.ok settings) d = statement.release settings d) :
    ∃ events, (outcome (c.compile choice) session).2.events = session.events ++ events.toArray ∧
      ((settings.enforceLimit && statement.isOverLimit d) = true →
        events = [] ∧ (outcome (c.compile choice) session).1 =
          .error (.tooManyParameters statement.argCount d.limit d.name)) ∧
      ((settings.enforceLimit && statement.isOverLimit d) = false →
        events = statement.events settings d ∧
          (outcome (c.compile choice) session).1 = .ok (some statement)) := by
  have hcompile : outcome (c.compile choice) session =
      outcome (some <$> Action.compile choice b) session := by
    rw [outcome_compile hrequest]
    simp [Request.compileAs, hb]
  obtain ⟨chosen, hchosen⟩ : ∃ chosen, outcome (dialect choice) session = (.ok d, chosen) :=
    ⟨_, Prod.ext hd rfl⟩
  -- Choosing a dialect can read the settings and keep them; they are the same after that.
  have hevents := events_dialect choice session
  have hread := (isQuiet_dialect choice session).settings
  rw [hchosen] at hevents hread
  simp only at hevents hread
  rw [hcompile, outcome_map]
  cases hover : settings.enforceLimit && statement.isOverLimit d with
  | true =>
      have hrefused : b.compile chosen.environment.settings d =
          .error (.tooManyParameters statement.argCount d.limit d.name) := by
        rw [hread, hsettings, hrelease, Statement.release, if_pos hover]
      obtain ⟨hresult, hsame⟩ := outcome_compile_of_error hchosen hrefused
      refine ⟨[], by simpa using hsame.trans hevents, fun _ => ⟨rfl, ?_⟩, nofun⟩
      rw [hresult]
      rfl
  | false =>
      have hreleased : b.compile chosen.environment.settings d =
          .ok (statement, statement.events settings d) := by
        rw [hread, hsettings, hrelease, Statement.release, hover]
        rfl
      have hout := outcome_compile_of_ok hchosen hreleased
      refine ⟨statement.events settings d, ?_, nofun, fun _ => ⟨rfl, ?_⟩⟩
      · rw [hout, ← hevents]
      · rw [hout]
        rfl

/-- A request that is not refused and has room for its values is a statement with its text. -/
theorem exists_statement_of_valid {c : Command} {choice : DialectChoice} {session : Session}
    {request : Request} {d : Dialect} {settings : Settings} {f : Fragment} {values : List Value}
    (hrequest : c.request session.store = .ok request)
    (hd : (outcome (dialect choice) session).1 = .ok d)
    (hsettings : session.environment.settings = .ok settings)
    (hvalid : request.refusals d = []) (hwrites : ¬ request.IsIdle)
    (hlayout : request.layout d = .ok f) (hbound : request.bound = .ok values)
    (hroom : settings.enforceLimit = true → (values.length : Int) ≤ d.limit) :
    ∃ statement, (outcome (c.compile choice) session).1 = .ok (some statement) ∧
      statement.sql = f.text d ∧ statement.args = values.map Value.toBind := by
  obtain ⟨statement, found, b, hfound, hargs, hb, hrelease⟩ :=
    Request.exists_compile_of_valid hvalid hwrites
  obtain rfl : values = found := Except.ok.inj (hbound.symm.trans hfound)
  have hcount : statement.argCount = values.length := by
    rw [Statement.argCount, hargs, List.length_map]
  have hfree : ¬ (settings.enforceLimit && statement.isOverLimit d) = true := by
    rw [Bool.and_eq_true, Statement.isOverLimit, hcount, decide_eq_true_iff]
    exact fun hover => absurd (hroom hover.1) (Int.not_le.2 hover.2)
  obtain ⟨events, -, -, hreleased⟩ :=
    exists_outcome_of_release hrequest hb hd hsettings (hrelease settings)
  have hcompiled : request.compile (.ok settings) d =
      .ok (some (statement, statement.events settings d)) := by
    rw [Request.compile_of_blueprint hb, hrelease, Statement.release, if_neg hfree]
    rfl
  obtain ⟨f', values', hlayout', -, hsql, -⟩ := Request.exists_of_compile hcompiled
  obtain rfl : f = f' := Except.ok.inj (hlayout.symm.trans hlayout')
  exact ⟨statement, (hreleased (Bool.eq_false_iff.2 hfree)).2, hsql, hargs⟩

/--
Where nothing else is wrong a request is one statement, with a value for every
one that it binds, whatever command asks for it and in whatever session.
Where the limit is enforced, it is given out just if its values fit, else the
error says how many there are and how many the dialect takes.  Where it is not
enforced the statement is given out in any case, and there is one warning just
if the values do not fit.
-/
theorem limit_of_compile {request : Request} {d : Dialect}
    (hvalid : request.refusals d = []) (hwrites : ¬ request.IsIdle) :
    ∃ (statement : Statement) (values : List Value), request.bound = .ok values ∧
      statement.args = values.map Value.toBind ∧
      ∀ (c : Command) (choice : DialectChoice) (session : Session) (settings : Settings),
        c.request session.store = .ok request →
        (outcome (dialect choice) session).1 = .ok d →
        session.environment.settings = .ok settings →
        ∃ events : List Event,
          (outcome (c.compile choice) session).2.events = session.events ++ events.toArray ∧
          (∀ written, (outcome (c.compile choice) session).1 = .ok written →
            written = some statement) ∧
          (settings.enforceLimit = true →
            ((∃ written, (outcome (c.compile choice) session).1 = .ok written) ↔
              values.length ≤ d.limit) ∧
            (¬ values.length ≤ d.limit → (outcome (c.compile choice) session).1 =
              .error (.tooManyParameters values.length d.limit d.name)) ∧
            events.filter Event.isWarning = []) ∧
          (settings.enforceLimit = false →
            (outcome (c.compile choice) session).1 = .ok (some statement) ∧
            events.filter Event.isWarning =
              if values.length ≤ d.limit then []
              else [.limitExceeded d.name values.length d.limit]) := by
  obtain ⟨statement, values, b, hbound, hargs, hb, hrelease⟩ :=
    Request.exists_compile_of_valid hvalid hwrites
  refine ⟨statement, values, hbound, hargs, fun c choice session settings hrequest hd hs => ?_⟩
  obtain ⟨events, hevents, hrefused, hreleased⟩ :=
    exists_outcome_of_release hrequest hb hd hs (hrelease settings)
  have hcount : statement.argCount = values.length := by
    rw [Statement.argCount, hargs, List.length_map]
  have hover : statement.isOverLimit d = decide ¬ (values.length : Int) ≤ d.limit := by
    rw [Statement.isOverLimit, hcount]
    exact decide_eq_decide.2 Int.not_le.symm
  have hwarned := statement.filter_events settings d
  rw [hover, hcount] at hwarned
  rw [hover, hcount] at hrefused
  rw [hover] at hreleased
  refine ⟨events, hevents, fun written hwritten => ?_, fun henforced => ?_, fun hoff => ?_⟩
  · cases hcheck : settings.enforceLimit && decide ¬ (values.length : Int) ≤ d.limit with
    | true => cases (hrefused hcheck).2.symm.trans hwritten
    | false => exact (Except.ok.inj ((hreleased hcheck).2.symm.trans hwritten)).symm
  · by_cases hfits : (values.length : Int) ≤ d.limit
    · obtain ⟨rfl, hresult⟩ := hreleased (by simp [hfits])
      refine ⟨⟨fun _ => hfits, fun _ => ⟨_, hresult⟩⟩, fun hexceeds => absurd hfits hexceeds, ?_⟩
      simpa [hfits] using hwarned
    · obtain ⟨rfl, hresult⟩ := hrefused (by simp [henforced, hfits])
      refine ⟨⟨fun ⟨written, hwritten⟩ => ?_, fun h => absurd h hfits⟩, fun _ => hresult, rfl⟩
      cases hresult.symm.trans hwritten
  · obtain ⟨rfl, hresult⟩ := hreleased (by simp [hoff])
    refine ⟨hresult, hwarned.trans ?_⟩
    by_cases hfits : (values.length : Int) ≤ d.limit <;> simp [hfits]

/-- Loans with the days since they are due. -/
def loans : Schema where
  identifier := ["loans"]
  columns := [{ name := "loan_id", type := "int" }, { name := "days", type := "int" }]
  primaryKeys := ["loan_id"]

/-- The loans that are due for one to three months. -/
def lateLoans (ρ : Type) : Selection ρ where
  schema := loans
  conditions := [
    .compare "days" .gt (.int 30) false none, .compare "days" .lt (.int 90) false none]

/-- A dialect that takes one value only. -/
def narrow : Dialect := (Dialect.ofBuiltIn .sqlite).vary { limit := some 1 }

/-- A session that holds the query, with the limit enforced or not. -/
def lending (enforced : Bool) : Session where
  environment := { kept := some { enforceLimit := enforced } }
  store := { queries := #[lateLoans QueryRef] }

/-- Two values are too many for the dialect, and can be had all the same. -/
theorem limit_of_compile_lateLoans :
    (Request.fetch (lateLoans Query)).refusals narrow = [] ∧
      ¬ (Request.fetch (lateLoans Query)).IsIdle ∧
      (outcome ((Command.fetch ⟨0, false⟩).compile (.given narrow)) (lending true)).1 =
        .error (.tooManyParameters 2 1 "sqlite") ∧
      ∃ statement, statement.args = [.int 30, .int 90] ∧
        (outcome ((Command.fetch ⟨0, false⟩).compile (.given narrow)) (lending false)).1 =
          .ok (some statement) := by
  have hvalid : (Request.fetch (lateLoans Query)).refusals narrow = [] := rfl
  have hwrites : ¬ (Request.fetch (lateLoans Query)).IsIdle := id
  obtain ⟨statement, values, hbound, hargs, hlimit⟩ := limit_of_compile hvalid hwrites
  obtain rfl : [.int 30, .int 90] = values := Except.ok.inj hbound
  obtain ⟨_, -, -, honly, -⟩ := hlimit (.fetch ⟨0, false⟩) (.given narrow) (lending true)
    { enforceLimit := true } rfl rfl rfl
  obtain ⟨_, -, -, -, hfree⟩ := hlimit (.fetch ⟨0, false⟩) (.given narrow) (lending false)
    { enforceLimit := false } rfl rfl rfl
  exact ⟨hvalid, hwrites, (honly rfl).2.1 (by decide), statement, hargs, (hfree rfl).1⟩

end Command

end SqlCompose
