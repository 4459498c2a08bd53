import SqlCompose.Proofs.Statement.Request

/-!
# Actions that ask no executor

An action of a session may read the settings, register dialects, report
events, change the store and ask an executor.  What compiles a statement does
only the first three of these: it is quiet (`Action.IsQuiet`).  The store is
what it was, so what a reference leads to can be looked up once more, and no
executor was asked for anything, also where compiling fails.

## Main results

* `Action.IsQuiet.andThen` — quiet actions in a row are quiet.
* `Action.isQuiet_compile` — writing a statement is quiet, whatever it says.
* `Action.outcome_compile_of_ok`, `Action.outcome_compile_of_error` — what
  writing comes to in the dialect that is chosen is what the blueprint comes
  to, and the events of a finished statement are reported.
-/

namespace SqlCompose

/-- The settings that are kept are those that were read. -/
@[simp] theorem Environment.settings_afterReading (e : Environment) :
    e.afterReading.settings = e.settings := by
  unfold afterReading
  cases h : e.settings with
  | error error => exact h
  | ok s => rfl

/--
Whether a session is what it was but for its events, its dialects and what is
kept of the settings.
-/
structure Session.IsKept (before after : Session) : Prop where
  store : after.store = before.store
  calls : after.calls = before.calls
  settings : after.environment.settings = before.environment.settings

namespace Session.IsKept

theorem refl (session : Session) : session.IsKept session := ⟨rfl, rfl, rfl⟩

theorem trans {a b c : Session} (hab : a.IsKept b) (hbc : b.IsKept c) : a.IsKept c where
  store := hbc.store.trans hab.store
  calls := hbc.calls.trans hab.calls
  settings := hbc.settings.trans hab.settings

end Session.IsKept

namespace Action

variable {α β : Type}

/-! ## Outcomes -/

@[simp] theorem outcome_pure (a : α) (session : Session) :
    outcome (pure a) session = (.ok a, session) := rfl

@[simp] theorem outcome_ofExcept (e : Except Error α) (session : Session) :
    outcome (ofExcept e) session = (e, session) := by
  cases e <;> rfl

@[simp] theorem outcome_get (session : Session) :
    outcome get session = (.ok session, session) := rfl

@[simp] theorem outcome_report (events : List Event) (session : Session) :
    outcome (report events) session =
      (.ok (), { session with events := session.events ++ events.toArray }) := rfl

/-- A change of the answer alone. -/
@[simp] theorem outcome_map (f : α → β) (a : Action α) (session : Session) :
    outcome (f <$> a) session = ((outcome a session).1.map f, (outcome a session).2) := by
  rw [map_eq_pure_bind, outcome_andThen]
  rcases outcome a session with ⟨_ | x, next⟩ <;> rfl

/-- What succeeds with a changed answer succeeded without the change. -/
theorem exists_of_map {f : α → β} {a : Action α} {session after : Session} {y : β}
    (h : outcome (f <$> a) session = (.ok y, after)) :
    ∃ x, outcome a session = (.ok x, after) ∧ f x = y := by
  rw [outcome_map] at h
  rcases hout : outcome a session with ⟨_ | x, next⟩
  · rw [hout] at h
    cases h
  · rw [hout] at h
    cases h
    exact ⟨x, rfl, rfl⟩

@[simp] theorem outcome_settings (session : Session) :
    outcome settings session = (session.environment.settings,
      { session with environment := session.environment.afterReading }) := by
  unfold settings
  rw [outcome_andThen]
  exact outcome_ofExcept _ _

@[simp] theorem outcome_instanceOf (tag : String) (session : Session) :
    outcome (instanceOf tag) session =
      match session.registry.create tag with
      | .ok (i, registry) => (.ok i, { session with registry })
      | .error e => (.error e, session) := by
  unfold instanceOf
  simp only [outcome_andThen, outcome_get, outcome_ofExcept]
  cases session.registry.create tag <;> rfl

/-! ## Quiet actions -/

/-- Whether an action leaves the store and the calls of every session as they are. -/
def IsQuiet (a : Action α) : Prop := ∀ session : Session, session.IsKept (outcome a session).2

theorem isQuiet_pure (a : α) : IsQuiet (pure a) := fun session => .refl session

theorem isQuiet_ofExcept (e : Except Error α) : IsQuiet (ofExcept e) := fun session => by
  rw [outcome_ofExcept]
  exact .refl session

theorem isQuiet_get : IsQuiet get := fun session => .refl session

theorem isQuiet_report (events : List Event) : IsQuiet (report events) :=
  fun _ => ⟨rfl, rfl, rfl⟩

theorem isQuiet_settings : IsQuiet settings := fun session => by
  rw [outcome_settings]
  exact ⟨rfl, rfl, session.environment.settings_afterReading⟩

theorem isQuiet_instanceOf (tag : String) : IsQuiet (instanceOf tag) := fun session => by
  rw [outcome_instanceOf]
  cases session.registry.create tag with
  | error e => exact .refl session
  | ok created => exact ⟨rfl, rfl, rfl⟩

/-- Quiet actions in a row are quiet, wherever the row breaks off. -/
theorem IsQuiet.andThen {a : Action α} {k : α → Action β} (ha : IsQuiet a)
    (hk : ∀ x, IsQuiet (k x)) : IsQuiet (a >>= k) := fun session => by
  have hfirst := ha session
  rw [outcome_andThen]
  rcases hout : outcome a session with ⟨_ | x, next⟩
  · rwa [hout] at hfirst
  · rw [hout] at hfirst
    exact hfirst.trans (hk x next)

theorem IsQuiet.map {a : Action α} (ha : IsQuiet a) (f : α → β) : IsQuiet (f <$> a) := by
  rw [map_eq_pure_bind]
  exact ha.andThen fun x => isQuiet_pure (f x)

/-- Choosing a dialect is quiet. -/
theorem isQuiet_dialect (choice : DialectChoice) : IsQuiet (dialect choice) := by
  cases choice with
  | given d => exact isQuiet_ofExcept _
  | named tag => exact (isQuiet_instanceOf tag).andThen fun i => isQuiet_pure _
  | standard =>
      exact isQuiet_settings.andThen fun s =>
        (isQuiet_instanceOf _).andThen fun i => isQuiet_pure _

/-- Finishing a statement is quiet, also where it binds too many values. -/
theorem isQuiet_finish (d : Dialect) (draft : Draft) (sql : String) :
    IsQuiet (finish d draft sql) :=
  isQuiet_settings.andThen fun _ => (isQuiet_ofExcept _).andThen fun _ =>
    (isQuiet_report _).andThen fun _ => isQuiet_pure _

/-- Writing a statement is quiet. -/
theorem isQuiet_compile (choice : DialectChoice) (b : Blueprint) : IsQuiet (compile choice b) :=
  (isQuiet_dialect choice).andThen fun d =>
    (isQuiet_ofExcept _).andThen fun _ => isQuiet_finish d _ _

/-- Following a reference is quiet. -/
theorem isQuiet_settled (r : QueryRef) : IsQuiet (settled r) :=
  isQuiet_get.andThen fun _ => (isQuiet_ofExcept _).andThen fun _ => isQuiet_pure _

theorem isQuiet_schemaFor (r : Record) (schema? : Option Schema) :
    IsQuiet (schemaFor r schema?) := by
  cases schema? with
  | none => exact isQuiet_ofExcept _
  | some s => exact isQuiet_pure s

/-- What a reference leads to depends on the store alone. -/
theorem outcome_settled (r : QueryRef) (session : Session) :
    outcome (settled r) session = ((session.store.settle r).map Query.selection, session) := by
  unfold settled
  simp only [outcome_andThen, outcome_get, outcome_ofExcept]
  cases session.store.settle r <;> rfl

/-- What goes on from a query had it settled. -/
theorem exists_settle_of_andThen {r : QueryRef} {k : Selection Query → Action β}
    {session after : Session} {b : β} (h : outcome (settled r >>= k) session = (.ok b, after)) :
    ∃ q, session.store.settle r = .ok q := by
  obtain ⟨s, next, hs, -⟩ := exists_of_andThen h
  rw [outcome_settled] at hs
  cases hsettle : session.store.settle r with
  | error e =>
      rw [hsettle] at hs
      cases hs
  | ok q => exact ⟨q, rfl⟩

/-! ## Changes that an action does not look at -/

/-- Whether an action comes to the same behind a change of the session, which it leaves alone. -/
def Ignores (change : Session → Session) (a : Action α) : Prop := ∀ session : Session,
  outcome a (change session) = ((outcome a session).1, change (outcome a session).2)

/-- Whether a change is of neither the settings nor the events. -/
structure IsAside (change : Session → Session) : Prop where
  settings : Ignores change settings
  report : ∀ events, Ignores change (report events)

theorem isAside_store (store : Store) : IsAside fun session => { session with store } where
  settings session := by rw [outcome_settings, outcome_settings]
  report _ _ := rfl

theorem isAside_registry (registry : Registry) :
    IsAside fun session => { session with registry } where
  settings session := by rw [outcome_settings, outcome_settings]
  report _ _ := rfl

section Ignores

variable {change : Session → Session}

theorem ignores_pure (a : α) : Ignores change (pure a) := fun _ => rfl

theorem ignores_ofExcept (e : Except Error α) : Ignores change (ofExcept e) := by
  intro session
  rw [outcome_ofExcept, outcome_ofExcept]

theorem Ignores.andThen {a : Action α} {k : α → Action β} (ha : Ignores change a)
    (hk : ∀ x, Ignores change (k x)) : Ignores change (a >>= k) := by
  intro session
  rw [outcome_andThen, outcome_andThen, ha session]
  rcases outcome a session with ⟨_ | x, next⟩
  · rfl
  · exact hk x next

/-- Finishing a statement looks at the settings, and reports events. -/
theorem IsAside.finish (h : IsAside change) (d : Dialect) (draft : Draft) (sql : String) :
    Ignores change (finish d draft sql) :=
  h.settings.andThen fun _ => (ignores_ofExcept _).andThen fun _ =>
    (h.report _).andThen fun _ => ignores_pure _

end Ignores

/-! ## What writing comes to -/

/-- Choosing a dialect reports nothing. -/
theorem events_dialect (choice : DialectChoice) (session : Session) :
    (outcome (dialect choice) session).2.events = session.events := by
  have hinstance (tag : String) (session : Session) :
      (outcome (do return (← instanceOf tag).dialect) session).2.events = session.events := by
    simp only [outcome_andThen, outcome_instanceOf]
    cases session.registry.create tag <;> rfl
  cases choice with
  | given d => exact congrArg (fun out => out.2.events) (outcome_ofExcept d.checked session)
  | named tag => exact hinstance tag session
  | standard =>
      rw [dialect, outcome_andThen, outcome_settings]
      cases session.environment.settings with
      | error e => rfl
      | ok s => exact hinstance _ _

section Compile

variable {choice : DialectChoice} {b : Blueprint} {session chosen : Session} {d : Dialect}

/-- What is written is the statement of the blueprint, and its events are reported. -/
theorem outcome_compile_of_ok {statement : Statement} {events : List Event}
    (hd : outcome (dialect choice) session = (.ok d, chosen))
    (hb : b.compile chosen.environment.settings d = .ok (statement, events)) :
    outcome (compile choice b) session =
      (.ok statement, { chosen with
        environment := chosen.environment.afterReading
        events := chosen.events ++ events.toArray }) := by
  obtain ⟨f, draft, s, hwritten, hs, hsettle⟩ := Blueprint.exists_settle_of_compile hb
  simp only [compile, finish, outcome_andThen, hd, hwritten, outcome_ofExcept, outcome_settings,
    hs, hsettle, outcome_report, outcome_pure]

/-- Where the blueprint comes to an error it is the error of writing, and nothing is reported. -/
theorem outcome_compile_of_error {e : Error}
    (hd : outcome (dialect choice) session = (.ok d, chosen))
    (hb : b.compile chosen.environment.settings d = .error e) :
    (outcome (compile choice b) session).1 = .error e ∧
      (outcome (compile choice b) session).2.events = chosen.events := by
  unfold Blueprint.compile at hb
  rcases hwritten : Writing.outcome (b d) {} with ⟨fault | f, draft⟩
  · simp only [hwritten] at hb
    cases hb
    simp only [compile, outcome_andThen, hd, hwritten, outcome_ofExcept, and_self]
  · cases hs : chosen.environment.settings with
    | error fault =>
        simp only [hwritten, hs] at hb
        cases hb
        simp only [compile, finish, outcome_andThen, hd, hwritten, outcome_ofExcept,
          outcome_settings, hs, and_self]
    | ok s =>
        simp only [hwritten, hs] at hb
        simp only [compile, finish, outcome_andThen, hd, hwritten, outcome_ofExcept,
          outcome_settings, hs, hb, and_self]

end Compile

end Action

end SqlCompose
