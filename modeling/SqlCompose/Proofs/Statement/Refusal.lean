import SqlCompose.Proofs.Statement.Count

/-!
# Why a statement is refused

Whatever a statement is asked for is refused for what is wrong with it in the
dialect, with the first reason that there is (`Request.refusals`); what is
wrong depends on neither the settings nor the limit of the dialect.  A
statement with nothing wrong is the same under all settings.  These decide
only whether it is released with more values than the dialect takes
(`Statement.release`), and what is reported.

## Main results

* `Request.compile_of_refusal` — the first reason is the error, whatever the
  settings.
* `Request.exists_compile_of_valid` — without a reason there is one statement,
  with a value for every one that is bound, and compiling releases it.
-/

namespace SqlCompose

open Writing

/-! ## Releasing a statement -/

namespace Statement

/-- Whether a statement has more values than a dialect takes. -/
def isOverLimit (d : Dialect) (statement : Statement) : Bool := d.limit < statement.argCount

/-- What is reported of a statement that is released. -/
def events (settings : Settings) (d : Dialect) (statement : Statement) : List Event :=
  (if statement.isOverLimit d then [.limitExceeded d.name statement.argCount d.limit] else []) ++
    if settings.logStatements then [.compiled d.name statement.sql statement.argCount] else []

/-- The statement with what is reported of it, unless it has too many values and that is refused. -/
def release (settings : Settings) (d : Dialect) (statement : Statement) :
    Except Error (Statement × List Event) :=
  if settings.enforceLimit && statement.isOverLimit d then
    .error (.tooManyParameters statement.argCount d.limit d.name)
  else .ok (statement, statement.events settings d)

/-- A statement that has too many values is warned of, once. -/
theorem filter_events (settings : Settings) (d : Dialect) (statement : Statement) :
    (statement.events settings d).filter Event.isWarning =
      if statement.isOverLimit d then [.limitExceeded d.name statement.argCount d.limit]
      else [] := by
  unfold events
  cases statement.isOverLimit d <;> cases settings.logStatements <;> rfl

end Statement

/-- A draft that is settled is released as the statement that it makes. -/
theorem Draft.settle_eq_release (settings : Settings) (d : Dialect) (draft : Draft) (sql : String) :
    draft.settle settings d sql =
      (⟨sql, draft.args.toList, d.name⟩ : Statement).release settings d := rfl

/-- Without a fault a blueprint is one statement, which compiling releases. -/
theorem Blueprint.compile_eq_release {b : Blueprint} {d : Dialect} {values : List Value}
    {taken : Nat} {answer : Nat → Nat → Fragment} (h : Spec (b d) [] values taken answer)
    (settings : Settings) :
    b.compile (.ok settings) d =
      (⟨(answer 0 0).text d, values.map Value.toBind, d.name⟩ : Statement).release settings d := by
  have hargs : (Draft.advance {} values taken).args.toList = values.map Value.toBind := by
    simp [Draft.advance]
  rw [← hargs, ← Draft.settle_eq_release]
  exact compile_of_spec h _

/-- With a fault compiling comes to the first one. -/
theorem Blueprint.compile_of_fault {b : Blueprint} {d : Dialect} {faults : List Error}
    {values : List Value} {taken : Nat} {answer : Nat → Nat → Fragment} {e : Error}
    (h : Spec (b d) faults values taken answer) (he : faults.head? = some e)
    (settings : Except Error Settings) : b.compile settings d = .error e := by
  have hfail := h.fails e he {}
  unfold compile
  rcases hout : outcome (b d) {} with ⟨fault | f, draft⟩
  · rw [hout] at hfail
    cases hfail
    rfl
  · rw [hout] at hfail
    cases hfail

/-! ## Inserts -/

namespace Record

/-- Whether a dialect can insert does not depend on the numbers of the placeholders. -/
private theorem faultsOf_insertLayout (r : Record) (s : Schema) (d : Dialect) (m n : Nat) :
    faultsOf (r.insertLayout s d m) = faultsOf (r.insertLayout s d n) := by
  unfold insertLayout Dialect.insertion
  split
  · rfl
  · cases d.rowReturn? <;> rfl

/-- The description of an insert: its values may not pass, and the dialect may not insert. -/
theorem spec_insert (r : Record) (s : Schema) (d : Dialect) :
    Spec (r.insert s d) (faultsOf (r.givenValues s) ++ faultsOf (r.insertLayout s d 1))
      (valuesOf (r.givenValues s)) 0
      fun issued _ => (r.insertLayout s d (issued + 1)).toOption.getD [] := by
  cases hgiven : r.givenValues s with
  | error e =>
      constructor
      · nofun
      · intro fault hfault draft
        cases hfault
        exact outcome_insert_of_error hgiven d draft
  | ok vs =>
      constructor
      · intro hfaults draft
        have hlayout : faultsOf (r.insertLayout s d (draft.issued + 1)) = [] :=
          (r.faultsOf_insertLayout s d _ 1).trans hfaults
        rw [outcome_insert_of_ok hgiven]
        cases hout : r.insertLayout s d (draft.issued + 1) with
        | error e => simp [hout, faultsOf] at hlayout
        | ok f => rfl
      · intro fault hfault draft
        have hlayout : (faultsOf (r.insertLayout s d (draft.issued + 1))).head? = some fault := by
          rw [r.faultsOf_insertLayout s d _ 1]
          exact hfault
        rw [outcome_insert_of_ok hgiven]
        cases hout : r.insertLayout s d (draft.issued + 1) with
        | error e =>
            rw [hout] at hlayout
            cases hlayout
            rfl
        | ok f => simp [hout, faultsOf] at hlayout

end Record

/-- What did not fail has values. -/
theorem Writing.eq_valuesOf {bound : Except Error (List Value)} (h : faultsOf bound = []) :
    bound = .ok (valuesOf bound) := by
  cases bound with
  | error e => cases h
  | ok vs => rfl

namespace Record

variable {r : Record} {s : Schema} {b : Blueprint}

/-- A row is updated by its key, where it has columns that are no key. -/
theorem eq_write_of_update (h : r.update s = .ok (some b)) :
    s.primaryKeys.isEmpty = false ∧ s.plainColumns.isEmpty = false ∧ b = r.writeUpdate s := by
  unfold update at h
  split at h
  · cases h
  · rename_i hkey
    split at h
    · cases h
    · rename_i hplain
      cases h
      exact ⟨Bool.eq_false_iff.2 hkey, Bool.eq_false_iff.2 hplain, rfl⟩

/-- A row is deleted by its key. -/
theorem eq_write_of_delete (h : r.delete s = .ok b) :
    s.primaryKeys.isEmpty = false ∧ b = r.writeDelete s := by
  unfold delete at h
  split at h
  · cases h
  · rename_i hkey
    cases h
    exact ⟨Bool.eq_false_iff.2 hkey, rfl⟩

end Record

/-! ## Requests -/

namespace Request

/-- Whether there is nothing to be done: the row of an object whose columns are all in the key. -/
def IsIdle : Request → Prop
  | updateRow _ s => s.plainColumns = []
  | _ => False

/--
Why a request is refused in a dialect, the first reason first: what is wrong
with a part of it, values that do not pass their checks, or no key where one
is needed.
-/
def refusals (d : Dialect) : Request → List Error
  | fetch s => (Query.mk s).faults d
  | count s => s.countFaults d
  | update u => if u.assignments.isEmpty then [.compilation .nothingAssigned] else u.faults d
  | updateRow r s =>
    if s.primaryKeys.isEmpty then [.noPrimaryKey s.tableName (some .update)]
    else if s.plainColumns.isEmpty then []
    else faultsOf (updateRow r s).bound
  | deleteRow r s =>
    if s.primaryKeys.isEmpty then [.noPrimaryKey s.tableName (some .delete)]
    else faultsOf (deleteRow r s).bound
  | insertRow r s => faultsOf (insertRow r s).bound ++ faultsOf (r.insertLayout s d 1)

/-- A request that has no blueprint is refused for that. -/
theorem refusals_of_blueprint_error {request : Request} {e : Error}
    (h : request.blueprint = .error e) (d : Dialect) : request.refusals d = [e] := by
  cases request with
  | fetch s => cases h
  | count s => cases h
  | update u =>
      simp only [blueprint, Update.blueprint] at h
      split at h
      · rename_i hnone
        cases h
        rw [refusals, if_pos hnone]
      · cases h
  | updateRow r s =>
      simp only [blueprint, Record.update] at h
      split at h
      · rename_i hkey
        cases h
        rw [refusals, if_pos hkey]
      · split at h <;> cases h
  | deleteRow r s =>
      simp only [blueprint, Record.delete] at h
      split at h
      · rename_i hkey
        cases h
        rw [refusals, if_pos hkey]
      · cases h
  | insertRow r s => cases h

/-- A request that says nothing has nothing to be done, and is not refused. -/
theorem isIdle_of_blueprint {request : Request} (h : request.blueprint = .ok none) :
    request.IsIdle ∧ ∀ d, request.refusals d = [] := by
  cases request with
  | fetch s => cases h
  | count s => cases h
  | update u =>
      simp only [blueprint, Update.blueprint] at h
      split at h <;> cases h
  | updateRow r s =>
      simp only [blueprint, Record.update] at h
      split at h
      · cases h
      · rename_i hkey
        split at h
        · rename_i hplain
          refine ⟨List.isEmpty_iff.1 hplain, fun d => ?_⟩
          rw [refusals, if_neg hkey, if_pos hplain]
        · cases h
  | deleteRow r s =>
      simp only [blueprint, Record.delete] at h
      split at h <;> cases h
  | insertRow r s => cases h

/-- What is written is described by the reasons to refuse it and the values that it binds. -/
theorem spec_blueprint {request : Request} {b : Blueprint}
    (hb : request.blueprint = .ok (some b)) (d : Dialect) :
    ∃ values taken answer, Spec (b d) (request.refusals d) values taken answer ∧
      (request.refusals d = [] → request.bound = .ok values) := by
  cases request with
  | fetch s =>
      cases hb
      exact ⟨_, _, _, s.spec_fetch d, fun _ => rfl⟩
  | count s =>
      cases hb
      exact ⟨_, _, _, s.spec_count d, fun _ => rfl⟩
  | update u =>
      have hassigns : ¬ u.assignments.isEmpty = true := by
        intro hnone
        simp [blueprint, Update.blueprint, hnone, Except.map] at hb
      obtain rfl := eq_write_of_blueprint hb
      rw [refusals, if_neg hassigns]
      exact ⟨_, _, _, u.spec_write d, fun _ => rfl⟩
  | updateRow r s =>
      obtain ⟨hkey, hplain, rfl⟩ := Record.eq_write_of_update hb
      simp only [refusals, hkey, hplain, if_false, Bool.false_eq_true]
      exact ⟨_, _, _, r.specOf_writeUpdate s d, eq_valuesOf⟩
  | deleteRow r s =>
      have hdelete : r.delete s = .ok b := by
        rw [blueprint] at hb
        cases hwritten : r.delete s with
        | error e => simp [hwritten, Except.map] at hb
        | ok written => simpa [hwritten, Except.map] using hb
      obtain ⟨hkey, rfl⟩ := Record.eq_write_of_delete hdelete
      simp only [refusals, hkey, if_false, Bool.false_eq_true]
      exact ⟨_, _, _, r.specOf_writeDelete s d, eq_valuesOf⟩
  | insertRow r s =>
      cases hb
      refine ⟨_, _, _, r.spec_insert s d, fun hvalid => eq_valuesOf ?_⟩
      exact (List.append_eq_nil_iff.1 hvalid).1

/-- The first reason to refuse a request is its error, whatever the settings. -/
theorem compile_of_refusal {request : Request} {d : Dialect} {e : Error}
    (he : (request.refusals d).head? = some e) (settings : Except Error Settings) :
    request.compile settings d = .error e := by
  cases hb : request.blueprint with
  | error fault =>
      rw [refusals_of_blueprint_error hb] at he
      cases he
      simp only [compile, hb, Bind.bind, Except.bind]
  | ok written =>
      cases written with
      | none =>
          rw [(isIdle_of_blueprint hb).2 d] at he
          cases he
      | some b =>
          obtain ⟨values, taken, answer, hspec, -⟩ := spec_blueprint hb d
          rw [compile_of_blueprint hb, Blueprint.compile_of_fault hspec he]
          rfl

/--
A request with something to be done and no reason to refuse it is one
statement, with a value for every one that the request binds; compiling
releases it.
-/
theorem exists_compile_of_valid {request : Request} {d : Dialect}
    (hvalid : request.refusals d = []) (hwrites : ¬ request.IsIdle) :
    ∃ (statement : Statement) (values : List Value) (b : Blueprint),
      request.bound = .ok values ∧ statement.args = values.map Value.toBind ∧
      request.blueprint = .ok (some b) ∧
      ∀ settings, b.compile (.ok settings) d = statement.release settings d := by
  cases hb : request.blueprint with
  | error fault =>
      rw [refusals_of_blueprint_error hb] at hvalid
      cases hvalid
  | ok written =>
      cases written with
      | none => exact absurd (isIdle_of_blueprint hb).1 hwrites
      | some b =>
          obtain ⟨values, taken, answer, hspec, hbound⟩ := spec_blueprint hb d
          rw [hvalid] at hspec
          exact ⟨_, values, b, hbound hvalid, rfl, rfl, Blueprint.compile_eq_release hspec⟩

end Request

end SqlCompose
