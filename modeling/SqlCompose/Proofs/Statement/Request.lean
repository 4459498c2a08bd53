import SqlCompose.Proofs.Statement.Row
import SqlCompose.Proofs.Statement.Select
import SqlCompose.Session

/-!
# Requests

A `Request` is anything that a statement can be asked for: the rows of a
query, their number, an update of them, or a statement on one object.  It
has a list of values that it binds (`Request.bound`), in which no dialect
occurs, and a layout in each dialect (`Request.layout`).

## Main results

* `Request.exists_of_compile` — a compiled statement is the text of the
  request's layout with the request's values, one placeholder given out for
  each of them.
* `Action.exists_compile_of_ok` — what a session compiles, in whatever
  dialect it chooses and under whatever settings it reads, is what
  `Blueprint.compile` gives in that dialect under those settings.
-/

namespace SqlCompose

open Writing

/-- What a statement is asked for. -/
inductive Request where
  /-- The rows of a query. -/
  | fetch (query : Selection Query)
  /-- The number of rows of a query. -/
  | count (query : Selection Query)
  /-- An update of the rows of a query. -/
  | update (update : Update)
  /-- An update of the row of an object. -/
  | updateRow (object : Record) (schema : Schema)
  /-- A deletion of the row of an object. -/
  | deleteRow (object : Record) (schema : Schema)
  /-- An insert of an object as a row. -/
  | insertRow (object : Record) (schema : Schema)

/-- A statement that is settled has the text and the values of its draft. -/
theorem Draft.eq_of_settle {settings : Settings} {d : Dialect} {draft : Draft} {sql : String}
    {statement : Statement} {events : List Event}
    (h : draft.settle settings d sql = .ok (statement, events)) :
    statement = ⟨sql, draft.args.toList, d.name⟩ := by
  unfold settle at h
  split at h
  · cases h
  · cases h
    rfl

/-- A compiled blueprint was written from an empty draft, and its statement was settled. -/
theorem Blueprint.exists_settle_of_compile {b : Blueprint} {settings : Except Error Settings}
    {d : Dialect} {finished : Statement × List Event} (h : b.compile settings d = .ok finished) :
    ∃ f draft chosen, outcome (b d) {} = (.ok f, draft) ∧ settings = .ok chosen ∧
      draft.settle chosen d (f.text d) = .ok finished := by
  unfold compile at h
  rcases hout : outcome (b d) {} with ⟨_ | f, draft⟩
  · rw [hout] at h
    cases h
  · rw [hout] at h
    cases settings with
    | error e => cases h
    | ok chosen => exact ⟨f, draft, chosen, rfl, rfl, h⟩

/-- What is compiled is the text that was written, with the values of the draft. -/
theorem Blueprint.exists_of_compile {b : Blueprint} {settings : Except Error Settings}
    {d : Dialect} {statement : Statement} {events : List Event}
    (h : b.compile settings d = .ok (statement, events)) :
    ∃ f draft, outcome (b d) {} = (.ok f, draft) ∧ statement.sql = f.text d ∧
      statement.args = draft.args.toList := by
  obtain ⟨f, draft, chosen, hok, -, hsettle⟩ := exists_settle_of_compile h
  obtain rfl := Draft.eq_of_settle hsettle
  exact ⟨f, draft, hok, rfl, rfl⟩

/-- What a step with a description was compiled to: it had no fault. -/
theorem Blueprint.eq_of_compile_spec {b : Blueprint} {settings : Except Error Settings}
    {d : Dialect} {statement : Statement} {events : List Event} {faults : List Error}
    {values : List Value} {taken : Nat} {answer : Nat → Nat → Fragment}
    (h : b.compile settings d = .ok (statement, events))
    (hspec : Writing.Spec (b d) faults values taken answer) :
    faults = [] ∧ statement = ⟨(answer 0 0).text d, values.map Value.toBind, d.name⟩ := by
  obtain ⟨f, draft, chosen, hok, -, hsettle⟩ := exists_settle_of_compile h
  obtain ⟨hfaults, rfl, rfl⟩ := hspec.of_ok hok
  obtain rfl := Draft.eq_of_settle hsettle
  exact ⟨hfaults, by simp [Draft.advance]⟩

namespace Request

/-- The query that a request is about, if it is about one. -/
def query? : Request → Option (Selection Query)
  | fetch s => some s
  | count s => some s
  | update u => some u.query
  | _ => none

/-- What is to be written for a request, if anything is. -/
def blueprint : Request → Except Error (Option Blueprint)
  | fetch s => .ok (some s.fetch)
  | count s => .ok (some s.count)
  | update u => u.blueprint.map some
  | updateRow r s => r.update s
  | deleteRow r s => (r.delete s).map some
  | insertRow r s => .ok (some (r.insert s))

/-- The statement of a request in a dialect, if there is anything to be written. -/
def compile (request : Request) (settings : Except Error Settings) (d : Dialect) :
    Except Error (Option (Statement × List Event)) := do
  match ← request.blueprint with
  | none => return none
  | some b => return some (← b.compile settings d)

/-- What is written for an update. -/
theorem eq_write_of_blueprint {u : Update} {w : Blueprint}
    (h : (update u).blueprint = .ok (some w)) : w = u.write := by
  simp only [blueprint, Update.blueprint] at h
  split at h
  · cases h
  · cases h
    rfl

theorem compile_of_blueprint {request : Request} {b : Blueprint}
    (hb : request.blueprint = .ok (some b)) (settings : Except Error Settings) (d : Dialect) :
    request.compile settings d = some <$> b.compile settings d := by
  unfold compile
  rw [hb]
  rfl

/-- What a request was compiled to is what its blueprint compiles to. -/
theorem exists_blueprint_of_compile {request : Request} {settings : Except Error Settings}
    {d : Dialect} {finished : Statement × List Event}
    (h : request.compile settings d = .ok (some finished)) :
    ∃ b, request.blueprint = .ok (some b) ∧ b.compile settings d = .ok finished := by
  unfold compile at h
  cases hb : request.blueprint with
  | error e => simp [hb, Bind.bind, Except.bind] at h
  | ok written =>
      cases written with
      | none => simp [hb, Bind.bind, Except.bind, Pure.pure, Except.pure] at h
      | some b =>
          cases hc : b.compile settings d with
          | error e => simp [hb, hc, Bind.bind, Except.bind] at h
          | ok compiled =>
              simp only [hb, hc, Bind.bind, Except.bind, Pure.pure, Except.pure] at h
              cases h
              exact ⟨b, rfl, hc⟩

/--
The values that a request binds, in the order in which its statement is
written: those assigned, in the order of the assignments or of the columns,
before those of the conditions or of the key.
-/
def bound : Request → Except Error (List Value)
  | fetch s => .ok (Query.mk s).values
  | count s => .ok (Query.mk s).values
  | update u => .ok u.values
  | updateRow r s => do return (← r.plainValues s) ++ (← r.keyValues s)
  | deleteRow r s => r.keyValues s
  | insertRow r s => r.givenValues s

/-- The manual fragments in a request. -/
def templates : Request → List Template
  | fetch s => (Query.mk s).templates
  | count s => (Query.mk s).templates
  | update u => Clause.templatesAll u.assignments ++ (Query.mk u.query).templates
  | _ => []

/-- What a request is written as. -/
def layout (d : Dialect) : Request → Except Error Fragment
  | fetch s => .ok (s.fetchLayout d 0 0)
  | count s => .ok (s.countLayout d 0 0)
  | update u => .ok (u.layout d 0 0)
  | updateRow _ s => .ok (Record.updateLayout s 1)
  | deleteRow _ s => .ok (Record.deleteLayout s 1)
  | insertRow r s => r.insertLayout s d 1

/-- An update of a row binds a value for each of its columns. -/
theorem length_of_bound_updateRow {r : Record} {s : Schema} {vs : List Value}
    (h : (updateRow r s).bound = .ok vs) :
    vs.length = s.plainColumns.length + s.keyColumns.length := by
  cases hplain : r.plainValues s with
  | error e => simp [bound, hplain, Bind.bind, Except.bind] at h
  | ok plain =>
      cases hkey : r.keyValues s with
      | error e => simp [bound, hplain, hkey, Bind.bind, Except.bind] at h
      | ok key =>
          simp only [bound, hplain, hkey, Bind.bind, Except.bind, Pure.pure, Except.pure,
            Except.ok.injEq] at h
          rw [← h, List.length_append, Record.length_of_checkedValues hplain,
            Record.length_of_checkedValues hkey]

/-! ## What was written -/

private theorem layout_of_spec {w : Writing Fragment} {faults : List Error}
    {values : List Value} {taken : Nat} {answer : Nat → Nat → Fragment} {f : Fragment}
    {draft : Draft} (h : Spec w faults values taken answer)
    (hok : outcome w {} = (.ok f, draft)) :
    f = answer 0 0 ∧ ∃ n, draft = Draft.advance {} values n := by
  obtain ⟨-, hf, hdraft⟩ := h.of_ok hok
  exact ⟨hf, taken, hdraft⟩

private theorem bound_of_specOf {w : Writing Fragment} {bound : Except Error (List Value)}
    {taken : Nat} {answer : Nat → Nat → Fragment} {f : Fragment} {draft : Draft}
    (h : SpecOf w bound taken answer) (hok : outcome w {} = (.ok f, draft)) :
    f = answer 0 0 ∧ ∃ vs n, bound = .ok vs ∧ draft = Draft.advance {} vs n := by
  obtain ⟨hfaults, hf, hdraft⟩ := Spec.of_ok h hok
  cases bound with
  | error e => simp [faultsOf] at hfaults
  | ok vs => exact ⟨hf, vs, taken, rfl, hdraft⟩

/--
What was written for a request is its layout, and the draft holds its values
and has given out one placeholder for each.
-/
theorem exists_of_written {request : Request} {b : Blueprint} {d : Dialect} {f : Fragment}
    {draft : Draft} (hb : request.blueprint = .ok (some b))
    (hok : outcome (b d) {} = (.ok f, draft)) :
    request.layout d = .ok f ∧
      ∃ vs n, request.bound = .ok vs ∧ draft = Draft.advance {} vs n := by
  cases request with
  | fetch s =>
      cases hb
      obtain ⟨rfl, n, rfl⟩ := layout_of_spec (s.spec_fetch d) hok
      exact ⟨rfl, _, n, rfl, rfl⟩
  | count s =>
      cases hb
      obtain ⟨rfl, n, rfl⟩ := layout_of_spec (s.spec_count d) hok
      exact ⟨rfl, _, n, rfl, rfl⟩
  | update u =>
      obtain rfl := eq_write_of_blueprint hb
      obtain ⟨rfl, n, rfl⟩ := layout_of_spec (u.spec_write d) hok
      exact ⟨rfl, _, n, rfl, rfl⟩
  | updateRow r s =>
      have hwrite : b = r.writeUpdate s := by
        simp only [blueprint, Record.update] at hb
        split at hb
        · cases hb
        · split at hb
          · cases hb
          · cases hb
            rfl
      subst hwrite
      obtain ⟨rfl, h⟩ := bound_of_specOf (r.specOf_writeUpdate s d) hok
      exact ⟨rfl, h⟩
  | deleteRow r s =>
      have hwrite : b = r.writeDelete s := by
        simp only [blueprint, Record.delete] at hb
        split at hb
        · cases hb
        · cases hb
          rfl
      subst hwrite
      obtain ⟨rfl, h⟩ := bound_of_specOf (r.specOf_writeDelete s d) hok
      exact ⟨rfl, h⟩
  | insertRow r s =>
      cases hb
      cases hgiven : r.givenValues s with
      | error e =>
          have hfail := Record.outcome_insert_of_error hgiven d {}
          rw [hok] at hfail
          cases hfail
      | ok vs =>
          rw [Record.outcome_insert_of_ok hgiven] at hok
          obtain ⟨hlayout, hdraft⟩ := Prod.mk.inj hok
          exact ⟨hlayout, vs, 0, hgiven, hdraft.symm⟩

/--
A statement is the text of its request's layout with the values that the
request binds, and as many placeholders were given out as it has values.
-/
theorem exists_of_compile {request : Request} {settings : Except Error Settings} {d : Dialect}
    {statement : Statement} {events : List Event}
    (h : request.compile settings d = .ok (some (statement, events))) :
    ∃ f vs, request.layout d = .ok f ∧ request.bound = .ok vs ∧ statement.sql = f.text d ∧
      statement.args = vs.map Value.toBind ∧
      ∀ b, request.blueprint = .ok (some b) →
        (outcome (b d) {}).2.issued = statement.args.length := by
  obtain ⟨b, hb, hc⟩ := exists_blueprint_of_compile h
  obtain ⟨f, draft, hok, hsql, hargs⟩ := Blueprint.exists_of_compile hc
  obtain ⟨hlayout, vs, n, hbound, rfl⟩ := exists_of_written hb hok
  have hvs : statement.args = vs.map Value.toBind := by
    simpa [Draft.advance] using hargs
  refine ⟨f, vs, hlayout, hbound, hsql, hvs, fun b' hb' => ?_⟩
  obtain rfl : b = b' := by
    rw [hb] at hb'
    cases hb'
    rfl
  rw [hok, hvs]
  simp

end Request

/-! ## What a session compiles -/

namespace Action

variable {α β : Type}

/-- The outcome of an action in a session, and the session that it leaves. -/
def outcome (a : Action α) (session : Session) : Except Error α × Session :=
  StateT.run (ExceptT.run a) session

/-- An action and what follows it: a failure of the action is the failure of both. -/
theorem outcome_andThen (a : Action α) (k : α → Action β) (session : Session) :
    outcome (a >>= k) session =
      match outcome a session with
      | (.ok x, next) => outcome (k x) next
      | (.error e, next) => (.error e, next) := by
  unfold outcome ExceptT.run StateT.run
  simp only [Bind.bind, ExceptT.bind, ExceptT.mk, StateT.bind, ExceptT.bindCont]
  cases a session with
  | mk result next => cases result <;> rfl

/-- What succeeds in two steps succeeded in each of them. -/
theorem exists_of_andThen {a : Action α} {k : α → Action β} {session after : Session}
    {y : β} (h : outcome (a >>= k) session = (.ok y, after)) :
    ∃ x next, outcome a session = (.ok x, next) ∧ outcome (k x) next = (.ok y, after) := by
  rw [outcome_andThen] at h
  rcases hout : outcome a session with ⟨_ | x, next⟩
  · rw [hout] at h
    cases h
  · rw [hout] at h
    exact ⟨x, next, rfl, h⟩

private theorem eq_of_ofExcept {e : Except Error α} {session after : Session} {x : α}
    (h : outcome (ofExcept e) session = (.ok x, after)) : e = .ok x ∧ after = session := by
  cases e with
  | error e => cases h
  | ok y =>
      cases h
      exact ⟨rfl, rfl⟩

/-- Reading the settings changes what is kept of the environment and nothing else. -/
private theorem settings_of_ok {session after : Session} {s : Settings}
    (h : outcome settings session = (.ok s, after)) :
    session.environment.settings = .ok s ∧ after.events = session.events := by
  obtain ⟨_, _, hget, h⟩ := exists_of_andThen h
  cases hget
  obtain ⟨_, _, hset, h⟩ := exists_of_andThen h
  cases hset
  obtain ⟨hs, rfl⟩ := eq_of_ofExcept h
  exact ⟨hs, rfl⟩

/--
What a session compiles is what the blueprint gives in the dialect that the
session chooses, under the settings that it reads after that; the events of
the statement are reported.
-/
theorem exists_compile_of_ok {choice : DialectChoice} {b : Blueprint} {session after : Session}
    {statement : Statement} (h : outcome (compile choice b) session = (.ok statement, after)) :
    ∃ d chosen events, outcome (dialect choice) session = (.ok d, chosen) ∧
      b.compile chosen.environment.settings d = .ok (statement, events) ∧
      after.events = chosen.events ++ events.toArray := by
  obtain ⟨d, chosen, hd, hwrite⟩ := exists_of_andThen h
  rcases hout : Writing.outcome (b d) {} with ⟨written, draft⟩
  rw [hout] at hwrite
  obtain ⟨f, _, hf, hfinish⟩ := exists_of_andThen hwrite
  obtain ⟨rfl, rfl⟩ := eq_of_ofExcept hf
  obtain ⟨s, read, hs, hrest⟩ := exists_of_andThen hfinish
  obtain ⟨hread, hkept⟩ := settings_of_ok hs
  obtain ⟨⟨_, events⟩, _, hsettle, hreport⟩ := exists_of_andThen hrest
  obtain ⟨hstatement, rfl⟩ := eq_of_ofExcept hsettle
  cases hreport
  refine ⟨d, _, events, hd, ?_, by simp [hkept]⟩
  unfold Blueprint.compile
  rw [hout, hread]
  exact hstatement

end Action

end SqlCompose
