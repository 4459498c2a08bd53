import SqlCompose.Proofs.Query.Edit
import SqlCompose.Proofs.Session.Command
import SqlCompose.Session.Edit

/-!
# Edits in a session

The calls on builders that a session serves, step by step (`Edit.perform`).  A
step reads the store, and may fail, or it writes to it, and cannot fail
(`Action.Reads`, `Action.Writes`).  In every call the steps that read come
first.  So a call that fails leaves the whole session as it was, at whatever
step it fails, and one that succeeds leaves the store that is told without a
session (`Edit.outcome_perform`).

A run serves calls on builders and commands one after another, where a failure
does not stop it.  Failed calls on builders could as well not have been made:
everything else comes to the same, in the same session.  This is not so of
commands that fail, as these may have read the settings or reported events.

## Main results

* `Action.Reads.andThen` — steps that read, before steps that write.
* `Edit.outcome_perform` — a call keeps what it makes of the store, or changes
  nothing.
* `Session.run_effective` — a run without its failed calls.
-/

namespace SqlCompose

open SqlCompose.Action

/-- A change of the store that succeeds is kept; one that fails leaves the session as it was. -/
def Session.commit {α : Type} (session : Session) :
    Except Error (α × Store) → Except Error α × Session
  | .ok (a, store) => (.ok a, { session with store })
  | .error e => (.error e, session)

namespace Action

variable {α β : Type}

/-! ## Steps of a call -/

/-- Whether a step reads the store of any session, and nothing else. -/
def Reads (a : Action α) (f : Store → Except Error α) : Prop :=
  ∀ session : Session, outcome a session = (f session.store, session)

/-- Whether a step writes to the store of any session, and to nothing else. -/
def Writes (a : Action α) (f : Store → α × Store) : Prop := ∀ session : Session,
  outcome a session = (.ok (f session.store).1, { session with store := (f session.store).2 })

/-- Whether an action keeps what it makes of the store of any session, or changes nothing. -/
def Commits (a : Action α) (f : Store → Except Error (α × Store)) : Prop :=
  ∀ session : Session, outcome a session = session.commit (f session.store)

theorem reads_ofExcept (e : Except Error α) : Reads (ofExcept e) fun _ => e :=
  fun session => outcome_ofExcept e session

theorem reads_queryAt (r : QueryRef) : Reads (queryAt r) fun st => st.query r := by
  intro session
  simp only [queryAt, outcome_andThen, outcome_get, outcome_ofExcept]

theorem reads_updateAt (r : UpdateRef) : Reads (updateAt r) fun st => st.update r := by
  intro session
  simp only [updateAt, outcome_andThen, outcome_get, outcome_ofExcept]

theorem writes_pure (a : α) : Writes (pure a) fun st => (a, st) := fun _ => rfl

theorem writes_makeQuery (s : Schema) : Writes (makeQuery s) fun st => st.newQuery s :=
  fun _ => rfl

theorem writes_putQuery (r : QueryRef) (s : Selection QueryRef) :
    Writes (putQuery r s) fun st => ((), st.setQuery r s) := fun _ => rfl

theorem writes_makeUpdate (r : QueryRef) (cs : List (Clause QueryRef)) :
    Writes (makeUpdate r cs) fun st => st.newUpdate r cs := fun _ => rfl

theorem writes_putUpdate (r : UpdateRef) (u : UpdateDraft) :
    Writes (putUpdate r u) fun st => ((), st.setUpdate r u) := fun _ => rfl

/-- Steps that write, one after another, write. -/
theorem Writes.andThen {a : Action α} {k : α → Action β} {f : Store → α × Store}
    {g : α → Store → β × Store} (ha : Writes a f) (hk : ∀ x, Writes (k x) (g x)) :
    Writes (a >>= k) fun st => g (f st).1 (f st).2 := by
  intro session
  rw [outcome_andThen, ha session]
  exact hk _ _

theorem Writes.commits {a : Action α} {f : Store → α × Store} (ha : Writes a f) :
    Commits a fun st => .ok (f st) := ha

/-- What reads and fails leaves everything to be committed as it was. -/
theorem Reads.andThen {a : Action α} {k : α → Action β} {f : Store → Except Error α}
    {g : α → Store → Except Error (β × Store)} (ha : Reads a f) (hk : ∀ x, Commits (k x) (g x)) :
    Commits (a >>= k) fun st => f st >>= fun x => g x st := by
  intro session
  show _ = session.commit (f session.store >>= fun x => g x session.store)
  rw [outcome_andThen, ha session]
  cases f session.store with
  | error e => rfl
  | ok x => exact hk x session

theorem Commits.of_eq {a : Action α} {f g : Store → Except Error (α × Store)} (ha : Commits a f)
    (h : ∀ st, f st = g st) : Commits a g := by
  intro session
  rw [ha session, h]

/-- A query is read, what it grows by is found, and the query is put back with it. -/
theorem commits_grow (r : QueryRef) (find : Selection QueryRef → Except Error α)
    (grow : Selection QueryRef → α → Selection QueryRef) :
    Commits (do
      let s ← queryAt r
      let x ← Action.ofExcept (find s)
      putQuery r (grow s x)
      return Builder.query r) fun st => do
        return (.query r, ← st.modifyQuery r fun s => do return grow s (← find s)) := by
  have hgrow := (reads_queryAt r).andThen fun s => (reads_ofExcept (find s)).andThen fun x =>
    ((writes_putQuery r (grow s x)).andThen fun _ => writes_pure (Builder.query r)).commits
  refine hgrow.of_eq fun st => ?_
  simp only [Store.modifyQuery, bind_assoc, pure_bind]
  rfl

end Action

namespace Edit

/-- A call keeps what it makes of the store, or leaves the session as it was. -/
theorem outcome_perform (e : Edit) (session : Session) :
    outcome e.perform session = session.commit (e.apply session.store) := by
  suffices hcommits : Commits e.perform fun st => e.apply st from hcommits session
  cases e with
  | select model =>
      exact (reads_ofExcept model.schema).andThen fun s =>
        ((writes_makeQuery s).andThen fun r => writes_pure (Builder.query r)).commits
  | condition r clause =>
      exact commits_grow r (fun s => s.schema.resolveClause clause) Selection.withCondition
  | related r rows column innerColumn negated =>
      cases rows with
      | query inner =>
          have hcall := (reads_queryAt inner).andThen fun other => (reads_queryAt r).andThen fun s =>
            (reads_ofExcept (s.schema.resolveColumn column)).andThen fun outer =>
              (reads_ofExcept (other.schema.resolveColumn innerColumn)).andThen fun far =>
                ((writes_putQuery r (s.withRelated
                  (.related outer.name inner far.name negated))).andThen fun _ =>
                    writes_pure (Builder.query r)).commits
          refine hcall.of_eq fun st => ?_
          simp only [apply, Store.addRelated, Store.modifyQuery, Selection.addRelated, bind_assoc,
            pure_bind]
          rfl
      | model model =>
          have hcall := (reads_ofExcept model.schema).andThen fun table =>
            (reads_queryAt r).andThen fun s =>
              (reads_ofExcept (s.schema.resolveColumn column)).andThen fun outer =>
                (reads_ofExcept (table.resolveColumn innerColumn)).andThen fun far =>
                  ((writes_makeQuery table).andThen fun inner =>
                    (writes_putQuery r (s.withRelated
                      (.related outer.name inner far.name negated))).andThen fun _ =>
                        writes_pure (Builder.query r)).commits
          refine hcall.of_eq fun st => bind_congr fun table => ?_
          cases hs : st.query r with
          | error e =>
              simp only [Store.addRelatedTable, hs]
              rfl
          | ok s =>
              simp only [Store.addRelatedTable_eq hs, bind_assoc, pure_bind]
              rfl
  | order r column direction =>
      exact commits_grow r (fun s => s.schema.resolveColumn column)
        fun s c => s.withOrder ⟨c.name, direction⟩
  | limit r v =>
      exact commits_grow r (fun _ => Selection.boundOf .limit v) Selection.withLimit
  | offset r v =>
      exact commits_grow r (fun _ => Selection.boundOf .offset v) Selection.withOffset
  | update r =>
      exact ((writes_makeUpdate r []).andThen fun u => writes_pure (Builder.update u)).commits
  | assign target form =>
      cases target with
      | query r =>
          have hcall := (reads_queryAt r).andThen fun s =>
            (reads_ofExcept (form.source s.schema)).andThen fun c =>
              ((writes_makeUpdate r [c]).andThen fun u => writes_pure (Builder.update u)).commits
          refine hcall.of_eq fun st => ?_
          simp only [apply, Store.startUpdate, bind_assoc, pure_bind]
          rfl
      | update r =>
          have hcall := (reads_updateAt r).andThen fun u => (reads_queryAt u.query).andThen fun s =>
            (reads_ofExcept (form.source s.schema)).andThen fun c =>
              ((writes_putUpdate r { u with assignments := u.assignments ++ [c] }).andThen fun _ =>
                writes_pure (Builder.update r)).commits
          refine hcall.of_eq fun st => ?_
          simp only [apply, Store.addAssignment, Store.updateSchema, bind_assoc, pure_bind]
          rfl

/-- A call that fails leaves the session as it was. -/
theorem eq_of_perform_error {e : Edit} {session after : Session} {error : Error}
    (h : outcome e.perform session = (.error error, after)) : after = session := by
  rw [outcome_perform] at h
  cases hst : e.apply session.store with
  | error _ =>
      rw [hst] at h
      exact (Prod.mk.inj h).2.symm
  | ok made =>
      rw [hst] at h
      cases h

end Edit

/-! ## Runs -/

/-- What a session is asked for: a call on builders, or a statement. -/
inductive Task where
  | edit (e : Edit)
  | compile (c : Command) (choice : DialectChoice)

/-- What a session answers with. -/
inductive Reply where
  | builder (b : Builder)
  /-- A statement, if there is anything to be done. -/
  | statement (written : Option Statement)

/-- Serves a task. -/
def Task.perform : Task → Action Reply
  | edit e => .builder <$> e.perform
  | compile c choice => .statement <$> c.compile choice

/-- A task that was served, and what came of it. -/
structure Service where
  task : Task
  result : Except Error Reply
  /-- The builders that there are after it. -/
  store : Store

/-- Whether a task that was served is anything but a call on builders that failed. -/
def Service.isEffective : Service → Bool
  | ⟨.edit _, .error _, _⟩ => false
  | _ => true

namespace Session

/-- Serves a task. -/
def serve (session : Session) (t : Task) : Service × Session :=
  let (result, next) := outcome t.perform session
  (⟨t, result, next.store⟩, next)

/-- Serves tasks one after another, whether they fail or not. -/
def run (session : Session) : List Task → List Service × Session
  | [] => ([], session)
  | t :: rest =>
    let (service, next) := session.serve t
    let (services, last) := next.run rest
    (service :: services, last)

theorem run_cons (session : Session) (t : Task) (rest : List Task) :
    session.run (t :: rest) =
      ((session.serve t).1 :: ((session.serve t).2.run rest).1,
        ((session.serve t).2.run rest).2) := rfl

/-- A failed call on builders leaves the session to the tasks after it as it was. -/
theorem eq_of_not_isEffective {session : Session} {t : Task}
    (h : (session.serve t).1.isEffective = false) : (session.serve t).2 = session := by
  cases t with
  | compile c choice => cases h
  | edit e =>
      rw [serve, Task.perform, outcome_map] at h ⊢
      rcases hout : outcome e.perform session with ⟨error | b, after⟩
      · exact Edit.eq_of_perform_error hout
      · rw [hout] at h
        cases h

/--
A run is the run of its tasks without the calls on builders that failed: all
of these are answered alike, the builders are the same after each, and so is
the session in the end.
-/
theorem run_effective (session : Session) (tasks : List Task) :
    session.run (((session.run tasks).1.filter Service.isEffective).map Service.task) =
      ((session.run tasks).1.filter Service.isEffective, (session.run tasks).2) := by
  induction tasks generalizing session with
  | nil => rfl
  | cons t rest ih =>
      rw [run_cons]
      cases heffective : (session.serve t).1.isEffective with
      | false =>
          rw [List.filter_cons_of_neg (by simp [heffective]), eq_of_not_isEffective heffective]
          exact ih session
      | true =>
          have htask : (session.serve t).1.task = t := rfl
          rw [List.filter_cons_of_pos heffective, List.map_cons, htask, run_cons, ih]

/-- A limit below zero is refused, and what comes before and after it is served. -/
example :
    (Session.run {} [
      .edit (.select ⟨"Shelf", some { identifier := ["shelf"], columns := [], primaryKeys := [] }⟩),
      .edit (.limit ⟨0, false⟩ (.int (-1))),
      .compile (.count ⟨0, false⟩) (.named "sqlite")]).1.map Service.isEffective =
    [true, false, true] := rfl

end Session

end SqlCompose
